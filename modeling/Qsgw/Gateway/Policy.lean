import Qsgw.Tls.Config
import Qsgw.Gateway.Proxy

/-!
# Gateway policy: TLS configuration, PQC enforcement, authentication

`qsgw_gateway::tls`, `middleware` and `auth`, with the `TlsPolicy` and the default
`GatewayConfig` of the crate root. `build_tls_config` specialises the development TLS
configuration to a policy and validates it. The enforcement middleware classifies the
cipher suite that the TLS terminator reports in the `x-tls-cipher-suite` header, by
substring search for a PQC algorithm name, and under `PqcOnly` refuses a classical
suite on every path but `/health`. The authentication middleware runs on the default
`AuthConfig`. The inner service of a middleware (`next.run`) is a parameter, and a
response is its status and body text. Timing and the completion log do not change the
response and are not modelled.
-/

namespace Qsgw

inductive TlsPolicy where
  | pqcOnly | pqcPreferred | hybrid | classicalAllowed
  deriving DecidableEq, Repr

structure GatewayConfig where
  listenAddr : (UInt8 × UInt8 × UInt8 × UInt8) × UInt16
  tlsPolicy : TlsPolicy
  maxConnections : Nat
  upstreamTimeoutSecs : Nat

def GatewayConfig.default : GatewayConfig := ⟨((0, 0, 0, 0), 8443), .pqcPreferred, 10000, 30⟩

inductive TlsError where
  | noPqcCipherSuites
  | policyViolation (msg : String)
  | configError (msg : String)
  deriving DecidableEq, Repr

/-- `build_tls_config`. -/
def buildTlsConfig (policy : TlsPolicy) : Except TlsError TlsConfig :=
  let config := { TlsConfig.development with minTlsVersion := .tls13 }
  let config := match policy with
    | .pqcOnly =>
      { config with preferredAlgorithms := [.mlKem .mlKem768, .mlDsa .mlDsa65], hybridMode := false }
    | .pqcPreferred =>
      { config with
        preferredAlgorithms := [.mlKem .mlKem768, .mlKem .mlKem1024, .mlDsa .mlDsa65]
        hybridMode := true }
    | .hybrid => { config with preferredAlgorithms := [.mlKem .mlKem768], hybridMode := true }
    | .classicalAllowed => { config with preferredAlgorithms := [], hybridMode := false }
  match config.validate with
  | .error e => .error (.configError (toString e))
  | .ok () => .ok config

/-- `str::contains` with a string pattern: some suffix of the text starts with the
pattern. Rust searches bytes; a UTF-8 pattern can only match at character
boundaries, so searching characters gives the same answer. -/
def containsStr (s pat : String) : Bool := go s.data
where
  go : List Char → Bool
    | [] => pat.data.isPrefixOf []
    | c :: cs => pat.data.isPrefixOf (c :: cs) || go cs

theorem containsStr_go_iff (pat : String) (l : List Char) :
    containsStr.go pat l = true ↔ ∃ t, pat.data <+: t ∧ t <:+ l := by
  induction l with
  | nil => simp [containsStr.go]
  | cons c cs ih =>
    rw [containsStr.go, Bool.or_eq_true, ih, List.isPrefixOf_iff_prefix]
    constructor
    · rintro (h | ⟨t, ht, hs⟩)
      · exact ⟨_, h, List.suffix_refl _⟩
      · exact ⟨t, ht, hs.trans (List.suffix_cons _ _)⟩
    · rintro ⟨t, ht, hs⟩
      rcases List.suffix_cons_iff.mp hs with rfl | hs
      · exact .inl ht
      · exact .inr ⟨t, ht, hs⟩

theorem containsStr_iff (s pat : String) : containsStr s pat = true ↔ pat.data <:+: s.data := by
  rw [containsStr, containsStr_go_iff, List.infix_iff_prefix_suffix]

def pqcIndicators : List String := ["ML-KEM", "ML-DSA", "SLH-DSA", "KYBER", "DILITHIUM"]

def classifyCipherSuite (cipherSuite : String) : Bool :=
  pqcIndicators.any fun p => containsStr cipherSuite p

/-- `HeaderValue::to_str`: only visible ASCII and tabs convert. -/
def headerToStr (v : String) : Option String :=
  if v.data.all fun c => c = '\t' ∨ (32 ≤ c.toNat ∧ c.toNat < 127) then some v else none

structure Response where
  status : Nat
  body : String
  deriving DecidableEq, Repr

/-- The cipher suite the TLS terminator reported, or `"unknown"`. -/
def cipherSuiteHeader (req : Request) : String :=
  (((req.headers "x-tls-cipher-suite").head?).bind headerToStr).getD "unknown"

def pqcForbidden : Response := ⟨403, "PQC-only policy: classical cipher suites not allowed"⟩

def pqcEnforcementMiddleware (policy : TlsPolicy) (req : Request) (next : Request → Response) :
    Response :=
  let path := req.uri.path
  let isPqc := classifyCipherSuite (cipherSuiteHeader req)
  if policy = .pqcOnly ∧ isPqc = false ∧ path ≠ "/health" then pqcForbidden else next req

theorem classifyCipherSuite_iff (s : String) :
    classifyCipherSuite s = true ↔ ∃ p ∈ pqcIndicators, p.data <:+: s.data := by
  simp only [classifyCipherSuite, List.any_eq_true, containsStr_iff]

theorem pqcEnforcement_of_ne {policy : TlsPolicy} (h : policy ≠ .pqcOnly) (req : Request)
    (next : Request → Response) : pqcEnforcementMiddleware policy req next = next req := by
  simp [pqcEnforcementMiddleware, h]

/-- Under `PqcOnly` the inner service answers exactly the requests for `/health` and
those whose reported cipher suite names a PQC algorithm; the others get the 403. -/
theorem pqcOnly_enforcement (req : Request) (next : Request → Response) :
    pqcEnforcementMiddleware .pqcOnly req next =
      if req.uri.path = "/health" ∨ ∃ p ∈ pqcIndicators, p.data <:+: (cipherSuiteHeader req).data
      then next req else pqcForbidden := by
  simp only [pqcEnforcementMiddleware, ← classifyCipherSuite_iff]
  by_cases hp : req.uri.path = "/health" <;>
    cases hc : classifyCipherSuite (cipherSuiteHeader req) <;> simp [hp]

/-- A request that reports no cipher suite is refused under `PqcOnly` off `/health`. -/
theorem pqcOnly_refuses_unreported {req : Request} (h : req.headers "x-tls-cipher-suite" = [])
    (hp : req.uri.path ≠ "/health") (next : Request → Response) :
    pqcEnforcementMiddleware .pqcOnly req next = pqcForbidden := by
  have hu : ¬ ∃ p ∈ pqcIndicators, p.data <:+: (cipherSuiteHeader req).data := by
    rw [← classifyCipherSuite_iff, cipherSuiteHeader, h]; decide
  rw [pqcOnly_enforcement, if_neg (not_or.mpr ⟨hp, hu⟩)]

/-- The check trusts the header: a request whose first `x-tls-cipher-suite` value is
printable and names a PQC algorithm passes under `PqcOnly`, whatever its path. -/
theorem pqcOnly_passes_of_header {req : Request} {v : String} {vs : List String}
    (h : req.headers "x-tls-cipher-suite" = v :: vs) (hv : headerToStr v = some v)
    (hp : ∃ p ∈ pqcIndicators, p.data <:+: v.data) (next : Request → Response) :
    pqcEnforcementMiddleware .pqcOnly req next = next req := by
  have hc : cipherSuiteHeader req = v := by simp [cipherSuiteHeader, h, hv]
  rw [pqcOnly_enforcement, if_pos (.inr (hc ▸ hp))]

theorem buildTlsConfig_classicalAllowed :
    buildTlsConfig .classicalAllowed = .error (.configError "no preferred algorithms specified") :=
  rfl

/-- Every configuration `build_tls_config` returns passes `validate` and requires
TLS 1.3; it has hybrid key exchange, and so the X25519 suites, exactly under
`PqcPreferred` and `Hybrid`. -/
theorem buildTlsConfig_ok {policy : TlsPolicy} {config : TlsConfig}
    (h : buildTlsConfig policy = .ok config) :
    config.validate = .ok () ∧ config.minTlsVersion = .tls13 ∧ policy ≠ .classicalAllowed ∧
      config.cipherSuites = if policy = .pqcPreferred ∨ policy = .hybrid
        then [.aes256GcmX25519MlKem768, .aes128GcmX25519MlKem512] else [.aes256GcmMlKem1024] := by
  cases policy
  case classicalAllowed => cases h
  all_goals obtain rfl := Except.ok.inj h; exact ⟨rfl, rfl, by decide, rfl⟩

theorem buildTlsConfig_ok_iff (policy : TlsPolicy) :
    (∃ config, buildTlsConfig policy = .ok config) ↔ policy ≠ .classicalAllowed := by
  cases policy
  case classicalAllowed => simp [buildTlsConfig_classicalAllowed]
  all_goals exact ⟨fun _ => by decide, fun _ => ⟨_, rfl⟩⟩

/-- The default gateway policy, `PqcPreferred`, builds a configuration. -/
theorem buildTlsConfig_default : ∃ config, buildTlsConfig GatewayConfig.default.tlsPolicy = .ok config :=
  (buildTlsConfig_ok_iff _).mpr (by decide)

structure ApiKey where
  id : String
  name : String
  scopes : List String
  deriving DecidableEq, Repr

structure AuthConfig where
  requireAuth : Bool
  apiKeys : List ApiKey
  bypassPaths : List String
  deriving DecidableEq, Repr

def AuthConfig.default : AuthConfig := ⟨false, [], ["/health", "/gateway/stats"]⟩

def apiKeyHeader (req : Request) : Option String :=
  ((req.headers "x-api-key").head?).bind headerToStr

/-- The body of `auth_middleware`, for the `AuthConfig` it builds. -/
def authCheck (config : AuthConfig) (req : Request) (next : Request → Response) : Response :=
  if !config.requireAuth then next req
  else if config.bypassPaths.any fun p => startsWith req.uri.path p then next req
  else match apiKeyHeader req with
    | some key => if config.apiKeys.any (·.id == key) then next req else ⟨403, "invalid API key"⟩
    | none => ⟨401, "API key required"⟩

def authMiddleware (req : Request) (next : Request → Response) : Response :=
  authCheck AuthConfig.default req next

/-- The default configuration does not require authentication, so the middleware
passes every request on. -/
theorem authMiddleware_eq_next (req : Request) (next : Request → Response) :
    authMiddleware req next = next req := rfl

/-- With authentication required, a request reaches the inner service exactly when
its path has a bypass prefix or its `x-api-key` is the id of a configured key. -/
theorem authCheck_of_requireAuth {config : AuthConfig} (h : config.requireAuth)
    (req : Request) (next : Request → Response) :
    authCheck config req next =
      if (∃ p ∈ config.bypassPaths, startsWith req.uri.path p) ∨
          ∃ k ∈ config.apiKeys, some k.id = apiKeyHeader req then next req
      else if apiKeyHeader req = none then ⟨401, "API key required"⟩
      else ⟨403, "invalid API key"⟩ := by
  simp only [authCheck, h, Bool.not_true, List.any_eq_true]
  cases apiKeyHeader req <;>
    by_cases hb : ∃ p ∈ config.bypassPaths, startsWith req.uri.path p <;> simp [hb]

end Qsgw
