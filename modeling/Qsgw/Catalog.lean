import Qsgw.Prelude
import Mathlib.Tactic.DeriveFintype

/-!
# The algorithm catalog and the platform error codes

The `quantun_types` crate: the closed variant enumerations of the three
post-quantum families and of the hybrid compositions, the size tables
(`key_sizes`, `ciphertext_size`, `signature_size`), `security_level`, `key_type`,
`is_small` and the `Display` names, then the platform-wide `ErrorCode` with
`as_str`; and the error taxonomy of `quantun_crypto` (`CryptoError` and its
`error_code`). Every function here is total on a finite type. `KeyUsage` is declared
by the crate but read by no function, and is left out; so are the `Display` texts of
`CryptoError`, which no modelled function formats.
-/

namespace Qsgw

/-- Post-quantum key encapsulation mechanism variants (FIPS 203). -/
inductive MlKemVariant where
  | mlKem512 | mlKem768 | mlKem1024
  deriving DecidableEq, Repr, Fintype

/-- Post-quantum digital signature variants (FIPS 204). -/
inductive MlDsaVariant where
  | mlDsa44 | mlDsa65 | mlDsa87
  deriving DecidableEq, Repr, Fintype

/-- Stateless hash-based digital signature variants (FIPS 205). -/
inductive SlhDsaVariant where
  | sha2_128s | sha2_128f | sha2_192s | sha2_192f | sha2_256s | sha2_256f
  deriving DecidableEq, Repr, Fintype

inductive HybridVariant where
  | x25519MlKem768 | ed25519MlDsa65
  deriving DecidableEq, Repr, Fintype

inductive Algorithm where
  | mlKem : MlKemVariant → Algorithm
  | mlDsa : MlDsaVariant → Algorithm
  | slhDsa : SlhDsaVariant → Algorithm
  | hybrid : HybridVariant → Algorithm
  deriving DecidableEq, Repr

inductive KeyType where
  | kem | signature | hybridKem | hybridSignature
  deriving DecidableEq, Repr

namespace MlKemVariant

/-- `(public_key_bytes, secret_key_bytes)` as the catalog publishes them. -/
def keySizes : MlKemVariant → Nat × Nat
  | .mlKem512 => (800, 1632)
  | .mlKem768 => (1184, 2400)
  | .mlKem1024 => (1568, 3168)

def ciphertextSize : MlKemVariant → Nat
  | .mlKem512 => 768
  | .mlKem768 => 1088
  | .mlKem1024 => 1568

instance : ToString MlKemVariant where
  toString
    | .mlKem512 => "ML-KEM-512"
    | .mlKem768 => "ML-KEM-768"
    | .mlKem1024 => "ML-KEM-1024"

end MlKemVariant

namespace MlDsaVariant

def keySizes : MlDsaVariant → Nat × Nat
  | .mlDsa44 => (1312, 2560)
  | .mlDsa65 => (1952, 4032)
  | .mlDsa87 => (2592, 4896)

def signatureSize : MlDsaVariant → Nat
  | .mlDsa44 => 2420
  | .mlDsa65 => 3309
  | .mlDsa87 => 4627

instance : ToString MlDsaVariant where
  toString
    | .mlDsa44 => "ML-DSA-44"
    | .mlDsa65 => "ML-DSA-65"
    | .mlDsa87 => "ML-DSA-87"

end MlDsaVariant

namespace SlhDsaVariant

def keySizes : SlhDsaVariant → Nat × Nat
  | .sha2_128s | .sha2_128f => (32, 64)
  | .sha2_192s | .sha2_192f => (48, 96)
  | .sha2_256s | .sha2_256f => (64, 128)

/-- "s" variants are small/slow, "f" are fast/large. -/
def signatureSize : SlhDsaVariant → Nat
  | .sha2_128s => 7856
  | .sha2_128f => 17088
  | .sha2_192s => 16224
  | .sha2_192f => 35664
  | .sha2_256s => 29792
  | .sha2_256f => 49856

def isSmall : SlhDsaVariant → Bool
  | .sha2_128s | .sha2_192s | .sha2_256s => true
  | _ => false

instance : ToString SlhDsaVariant where
  toString
    | .sha2_128s => "SLH-DSA-SHA2-128s"
    | .sha2_128f => "SLH-DSA-SHA2-128f"
    | .sha2_192s => "SLH-DSA-SHA2-192s"
    | .sha2_192f => "SLH-DSA-SHA2-192f"
    | .sha2_256s => "SLH-DSA-SHA2-256s"
    | .sha2_256f => "SLH-DSA-SHA2-256f"

/-- At each key size `is_small` marks the parameter set with the shorter signature. -/
theorem isSmall_signatureSize_le (v w : SlhDsaVariant) (hk : v.keySizes = w.keySizes)
    (hs : v.isSmall = true) : v.signatureSize ≤ w.signatureSize := by
  cases v <;> cases w <;> simp_all [keySizes, isSmall, signatureSize]

end SlhDsaVariant

instance : ToString HybridVariant where
  toString
    | .x25519MlKem768 => "X25519-ML-KEM-768"
    | .ed25519MlDsa65 => "Ed25519-ML-DSA-65"

namespace Algorithm

def keyType : Algorithm → KeyType
  | .mlKem _ => .kem
  | .mlDsa _ | .slhDsa _ => .signature
  | .hybrid .x25519MlKem768 => .hybridKem
  | .hybrid .ed25519MlDsa65 => .hybridSignature

/-- NIST security level (1 through 5). -/
def securityLevel : Algorithm → Nat
  | .mlKem .mlKem512 => 1
  | .mlKem .mlKem768 => 3
  | .mlKem .mlKem1024 => 5
  | .mlDsa .mlDsa44 => 2
  | .mlDsa .mlDsa65 => 3
  | .mlDsa .mlDsa87 => 5
  | .slhDsa v => match v with
    | .sha2_128s | .sha2_128f => 1
    | .sha2_192s | .sha2_192f => 3
    | .sha2_256s | .sha2_256f => 5
  | .hybrid .x25519MlKem768 => 3
  | .hybrid .ed25519MlDsa65 => 3

instance : ToString Algorithm where
  toString
    | .mlKem v => toString v
    | .mlDsa v => toString v
    | .slhDsa v => toString v
    | .hybrid v => toString v

theorem securityLevel_mem (a : Algorithm) : 1 ≤ a.securityLevel ∧ a.securityLevel ≤ 5 := by
  rcases a with v | v | v | v <;> cases v <;> decide

end Algorithm

/-- Platform-wide error codes. -/
inductive ErrorCode where
  | internal | invalidArgument | notFound | alreadyExists | permissionDenied
  | unauthenticated
  | unsupportedAlgorithm | keyGenerationFailed | encapsulationFailed
  | decapsulationFailed | signingFailed | verificationFailed | invalidKeyMaterial
  | keyExpired | keyRevoked
  | tlsHandshakeFailed | certificateInvalid | certificateExpired
  | deviceNotProvisioned | deviceOffline | firmwareIncompatible
  | assessmentFailed | scanTimeout
  deriving DecidableEq, Repr, Fintype

namespace ErrorCode

/-- A short string code suitable for API responses; it is also the `Display`. -/
def asStr : ErrorCode → String
  | .internal => "INTERNAL"
  | .invalidArgument => "INVALID_ARGUMENT"
  | .notFound => "NOT_FOUND"
  | .alreadyExists => "ALREADY_EXISTS"
  | .permissionDenied => "PERMISSION_DENIED"
  | .unauthenticated => "UNAUTHENTICATED"
  | .unsupportedAlgorithm => "UNSUPPORTED_ALGORITHM"
  | .keyGenerationFailed => "KEY_GENERATION_FAILED"
  | .encapsulationFailed => "ENCAPSULATION_FAILED"
  | .decapsulationFailed => "DECAPSULATION_FAILED"
  | .signingFailed => "SIGNING_FAILED"
  | .verificationFailed => "VERIFICATION_FAILED"
  | .invalidKeyMaterial => "INVALID_KEY_MATERIAL"
  | .keyExpired => "KEY_EXPIRED"
  | .keyRevoked => "KEY_REVOKED"
  | .tlsHandshakeFailed => "TLS_HANDSHAKE_FAILED"
  | .certificateInvalid => "CERTIFICATE_INVALID"
  | .certificateExpired => "CERTIFICATE_EXPIRED"
  | .deviceNotProvisioned => "DEVICE_NOT_PROVISIONED"
  | .deviceOffline => "DEVICE_OFFLINE"
  | .firmwareIncompatible => "FIRMWARE_INCOMPATIBLE"
  | .assessmentFailed => "ASSESSMENT_FAILED"
  | .scanTimeout => "SCAN_TIMEOUT"

instance : ToString ErrorCode := ⟨asStr⟩

end ErrorCode

/-- Errors produced by cryptographic operations. -/
inductive CryptoError where
  | keyGeneration (algorithm reason : String)
  | encapsulation (msg : String)
  | decapsulation (msg : String)
  | signing (msg : String)
  | verification (msg : String)
  | invalidKeyMaterial (msg : String)
  | unsupportedAlgorithm (msg : String)
  | serialization (msg : String)
  | rng (msg : String)
  deriving DecidableEq, Repr

/-- `CryptoResult<T>`. -/
abbrev CryptoResult (α : Type) := Except CryptoError α

namespace CryptoError

/-- Map to a platform error code. -/
def errorCode : CryptoError → ErrorCode
  | .keyGeneration _ _ => .keyGenerationFailed
  | .encapsulation _ => .encapsulationFailed
  | .decapsulation _ => .decapsulationFailed
  | .signing _ => .signingFailed
  | .verification _ => .verificationFailed
  | .invalidKeyMaterial _ => .invalidKeyMaterial
  | .unsupportedAlgorithm _ => .unsupportedAlgorithm
  | .serialization _ => .internal
  | .rng _ => .internal

/-- `matches!(e, CryptoError::Verification(_))`. -/
def IsVerification : CryptoError → Prop
  | .verification _ => True
  | _ => False

instance : DecidablePred IsVerification
  | .verification _ => isTrue trivial
  | .keyGeneration .. | .encapsulation _ | .decapsulation _ | .signing _ | .invalidKeyMaterial _
  | .unsupportedAlgorithm _ | .serialization _ | .rng _ => isFalse not_false

end CryptoError

end Qsgw
