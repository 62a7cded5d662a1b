import Qsgw.Catalog

/-!
# TLS configuration

`quantun_tls::config`: the configuration record the gateway builds, its two
constructors (`Default` and `development`), the consistency check `validate` and the
cipher suites a configuration implies. Paths are `PathBuf`s, kept as their text; an
`io::Error` is kept as its `Display` text, the only part `build_tls_config` reads.
-/

namespace Qsgw

inductive TlsVersion where
  | tls12 | tls13
  deriving DecidableEq, Repr

/-- Quantum-safe cipher suite identifier. -/
inductive PqcCipherSuite where
  | aes256GcmX25519MlKem768 | aes128GcmX25519MlKem512 | aes256GcmMlKem1024
  deriving DecidableEq, Repr

structure TlsConfig where
  certPath : String
  keyPath : String
  caPath : Option String
  /-- Preferred post-quantum algorithms for key exchange, in priority order. -/
  preferredAlgorithms : List Algorithm
  minTlsVersion : TlsVersion
  mutualTls : Bool
  hybridMode : Bool
  deriving DecidableEq, Repr

inductive TlsConfigError where
  | noAlgorithms
  | incompatibleVersion (msg : String)
  | certificate (msg : String)
  | io (msg : String)
  deriving DecidableEq, Repr

/-- The `thiserror` `Display` of each error. -/
def TlsConfigError.toString : TlsConfigError → String
  | .noAlgorithms => "no preferred algorithms specified"
  | .incompatibleVersion msg => "incompatible TLS version: " ++ msg
  | .certificate msg => "certificate error: " ++ msg
  | .io msg => "IO error: " ++ msg

instance : ToString TlsConfigError := ⟨TlsConfigError.toString⟩

namespace TlsConfig

def default : TlsConfig where
  certPath := "certs/server.pem"
  keyPath := "certs/server-key.pem"
  caPath := none
  preferredAlgorithms := [.hybrid .x25519MlKem768, .mlKem .mlKem768]
  minTlsVersion := .tls13
  mutualTls := false
  hybridMode := true

/-- A config for development and testing, with self-signed certificates. -/
def development : TlsConfig where
  certPath := "certs/dev.pem"
  keyPath := "certs/dev-key.pem"
  caPath := none
  preferredAlgorithms := [.hybrid .x25519MlKem768]
  minTlsVersion := .tls13
  mutualTls := false
  hybridMode := true

/-- Validate that the configuration is self-consistent. -/
def validate (self : TlsConfig) : Except TlsConfigError Unit :=
  if self.preferredAlgorithms.isEmpty then .error .noAlgorithms
  else if self.minTlsVersion = .tls12 ∧ self.hybridMode then
    .error (.incompatibleVersion "hybrid PQC key exchange requires TLS 1.3")
  else .ok ()

/-- The cipher suites a configuration implies. -/
def cipherSuites (self : TlsConfig) : List PqcCipherSuite :=
  if self.hybridMode then [.aes256GcmX25519MlKem768, .aes128GcmX25519MlKem512]
  else [.aes256GcmMlKem1024]

/-- A configuration passes `validate` exactly when it names an algorithm and does not
ask for hybrid key exchange over TLS 1.2. -/
theorem validate_eq_ok_iff (c : TlsConfig) :
    c.validate = .ok () ↔ c.preferredAlgorithms ≠ [] ∧ ¬ (c.minTlsVersion = .tls12 ∧ c.hybridMode) := by
  unfold validate
  split
  · simp_all [List.isEmpty_iff]
  · split <;> simp_all [List.isEmpty_iff]

/-- Both constructors build configurations that pass their own check. -/
theorem validate_default_development : default.validate = .ok () ∧ development.validate = .ok () :=
  ⟨rfl, rfl⟩

end TlsConfig

end Qsgw
