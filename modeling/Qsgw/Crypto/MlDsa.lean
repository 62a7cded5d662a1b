import Qsgw.Catalog

/-!
# ML-DSA key lifecycle

`quantun_crypto::mldsa`. The `ml_dsa` crate enters as `MlDsaPrimitive p`, one value
per FIPS 204 parameter set: deterministic key generation from the 32-byte seed `ξ`,
the encodings of verifying keys and signatures, and signing and verification. Its
law fields are the encoding round trips and FIPS 204 correctness. The crate's
`KeyPair` keeps the seed it was derived from, and `SigningKey::from_seed` is the
signing half of that derivation; both are definitions here.

The key pair stores the seed, not the expanded signing key, and `sign` re-derives
the signing key from it on every call.
-/

namespace Qsgw

/-- A FIPS 204 parameter set: the dimensions `k × l` of the matrix, the bit length
of `2η` and of `γ₁ - 1`, the hint weight `ω` and the collision strength `λ`. -/
structure MlDsaParams where
  k : Nat
  l : Nat
  etaBits : Nat
  gamma1Bits : Nat
  omega : Nat
  lambda : Nat
  deriving DecidableEq, Repr

namespace MlDsaParams

def mlDsa44 : MlDsaParams := ⟨4, 4, 3, 17, 80, 128⟩
def mlDsa65 : MlDsaParams := ⟨6, 5, 4, 19, 55, 192⟩
def mlDsa87 : MlDsaParams := ⟨8, 7, 3, 19, 75, 256⟩

/-- Encoded verifying key, `ρ ‖ SimpleBitPack(t₁)`. -/
def pkSize (p : MlDsaParams) : Nat := 32 + 320 * p.k

/-- Encoded signature, `c̃ ‖ BitPack(z) ‖ HintBitPack(h)`. -/
def sigSize (p : MlDsaParams) : Nat := p.lambda / 4 + 32 * p.l * (1 + p.gamma1Bits) + p.omega + p.k

/-- Expanded signing key, `ρ ‖ K ‖ tr ‖ s₁ ‖ s₂ ‖ t₀`. -/
def skExpandedSize (p : MlDsaParams) : Nat := 128 + 32 * ((p.l + p.k) * p.etaBits + 13 * p.k)

end MlDsaParams

/-- The `ml_dsa` crate at one parameter set. -/
structure MlDsaPrimitive (p : MlDsaParams) where
  SigningKey : Type
  VerifyingKey : Type
  Signature : Type
  /-- `KeyGen::from_seed`, FIPS 204 key generation from `ξ`. -/
  keyGen : ByteArr 32 → SigningKey × VerifyingKey
  vkEncode : VerifyingKey → ByteArr p.pkSize
  /-- `VerifyingKey::decode`; it cannot fail. -/
  vkDecode : ByteArr p.pkSize → VerifyingKey
  /-- `Signer::sign`. -/
  sign : SigningKey → Bytes → Signature
  sigEncode : Signature → ByteArr p.sigSize
  /-- `Signature::try_from(&[u8])`. -/
  sigDecode : Bytes → Option Signature
  /-- `Verifier::verify`, `Ok(())` read as `true`. -/
  verify : VerifyingKey → Bytes → Signature → Bool
  vkDecode_vkEncode : ∀ vk, vkDecode (vkEncode vk) = vk
  sigDecode_sigEncode : ∀ s, sigDecode (sigEncode s).toList = some s
  /-- FIPS 204 correctness. -/
  verify_sign : ∀ ξ m, verify (keyGen ξ).2 m (sign (keyGen ξ).1 m) = true

/-- ML-DSA key pair; `secretKey` is the 32-byte seed. -/
structure MlDsaKeyPair where
  variant : MlDsaVariant
  publicKey : Bytes
  secretKey : Bytes
  deriving DecidableEq, Repr

/-- An ML-DSA signature. -/
structure MlDsaSignature where
  signature : Bytes
  variant : MlDsaVariant
  deriving DecidableEq, Repr

namespace MlDsaPrimitive

variable {p : MlDsaParams} (K : MlDsaPrimitive p)

/-- `ml_dsa::KeyPair<P>`: the keys derived from a seed, and the seed. -/
structure KeyPair where
  seed : ByteArr 32
  signingKey : K.SigningKey
  verifyingKey : K.VerifyingKey

/-- `MlDsa*::from_seed`. -/
def fromSeed (ξ : ByteArr 32) : K.KeyPair := ⟨ξ, (K.keyGen ξ).1, (K.keyGen ξ).2⟩

/-- `SigningKey::from_seed`: the signing half of the derivation. -/
def signingKeyFromSeed (ξ : ByteArr 32) : K.SigningKey := (K.keyGen ξ).1

/-- Helper to build `MlDsaKeyPair` from a typed key pair: encoded verifying key,
and the seed for deterministic re-derivation. -/
def makeKeypair (variant : MlDsaVariant) (kp : K.KeyPair) : MlDsaKeyPair :=
  ⟨variant, (K.vkEncode kp.verifyingKey).toList, kp.seed.toList⟩

/-- Sign a message using a serialized seed. -/
def signImpl (seedBytes message : Bytes) (variant : MlDsaVariant) :
    CryptoResult MlDsaSignature := do
  let seed ← okOr (tryIntoArray 32 seedBytes) (.signing
    ("invalid ML-DSA seed (" ++ toString seedBytes.length ++ " bytes, expected 32)"))
  let sk := K.signingKeyFromSeed seed
  pure ⟨(K.sigEncode (K.sign sk message)).toList, variant⟩

/-- Verify a signature using serialized key and signature bytes. -/
def verifyImpl (vkBytes message sigBytes : Bytes) : CryptoResult Bool := do
  let vkArray ← okOr (tryIntoArray p.pkSize vkBytes) (.verification
    ("invalid verifying key (" ++ toString vkBytes.length ++ " bytes)"))
  let vk := K.vkDecode vkArray
  let sig ← okOr (K.sigDecode sigBytes) (.verification
    ("invalid signature (" ++ toString sigBytes.length ++ " bytes)"))
  pure (K.verify vk message sig)

theorem signImpl_seed (ξ : ByteArr 32) (m : Bytes) (v : MlDsaVariant) :
    K.signImpl ξ.toList m v = .ok ⟨(K.sigEncode (K.sign (K.keyGen ξ).1 m)).toList, v⟩ := by
  simp [signImpl, signingKeyFromSeed]

/-- A seed that is not 32 bytes long is refused before anything is signed. -/
theorem signImpl_of_length_ne {b : Bytes} (h : b.length ≠ 32) (m : Bytes) (v : MlDsaVariant) :
    K.signImpl b m v = .error (.signing
      ("invalid ML-DSA seed (" ++ toString b.length ++ " bytes, expected 32)")) := by
  simp [signImpl, (tryIntoArray_eq_none).mpr h]

/-- Whether verification errs is decided before the message is read. -/
theorem errorOf_verifyImpl_indep (vkBytes sigBytes m₁ m₂ : Bytes) :
    errorOf (K.verifyImpl vkBytes m₁ sigBytes) = errorOf (K.verifyImpl vkBytes m₂ sigBytes) := by
  simp only [verifyImpl]
  cases tryIntoArray p.pkSize vkBytes <;> cases K.sigDecode sigBytes <;> rfl

theorem verifyImpl_error {vkBytes m sigBytes : Bytes} {e : CryptoError}
    (h : K.verifyImpl vkBytes m sigBytes = .error e) : e.IsVerification := by
  rcases hv : tryIntoArray p.pkSize vkBytes with _ | a <;>
    rcases hs : K.sigDecode sigBytes with _ | sg <;>
    simp only [verifyImpl, hv, hs, okOr_none, okOr_some, error_bind, ok_bind] at h <;>
    cases h <;> trivial

theorem verifyImpl_sign (ξ : ByteArr 32) (m : Bytes) :
    K.verifyImpl (K.vkEncode (K.keyGen ξ).2).toList m
      (K.sigEncode (K.sign (K.keyGen ξ).1 m)).toList = .ok true := by
  simp [verifyImpl, K.vkDecode_vkEncode, K.sigDecode_sigEncode, K.verify_sign]

/-- Verification answers exactly when the key has the parameter set's length and the
signature decodes, and then with the crate's verdict. -/
theorem verifyImpl_eq_ok_iff (vkBytes m sigBytes : Bytes) (b : Bool) :
    K.verifyImpl vkBytes m sigBytes = .ok b ↔
      ∃ (a : ByteArr p.pkSize) (s : K.Signature), vkBytes = a.toList ∧
        K.sigDecode sigBytes = some s ∧ b = K.verify (K.vkDecode a) m s := by
  simp only [eq_comm (a := vkBytes), ← tryIntoArray_eq_some]
  rcases hv : tryIntoArray p.pkSize vkBytes with _ | a <;>
    rcases hs : K.sigDecode sigBytes with _ | s <;> simp [verifyImpl, hv, hs, eq_comm]

end MlDsaPrimitive

/-- The three instantiations of the crate that the match arms select. -/
structure MlDsaSuite where
  mlDsa44 : MlDsaPrimitive MlDsaParams.mlDsa44
  mlDsa65 : MlDsaPrimitive MlDsaParams.mlDsa65
  mlDsa87 : MlDsaPrimitive MlDsaParams.mlDsa87

def MlDsaVariant.params : MlDsaVariant → MlDsaParams
  | .mlDsa44 => .mlDsa44
  | .mlDsa65 => .mlDsa65
  | .mlDsa87 => .mlDsa87

def MlDsaSuite.primitive (S : MlDsaSuite) : (v : MlDsaVariant) → MlDsaPrimitive v.params
  | .mlDsa44 => S.mlDsa44
  | .mlDsa65 => S.mlDsa65
  | .mlDsa87 => S.mlDsa87

namespace MlDsaVariant

/-- The catalog's public-key and signature sizes are those of the parameter set the
code selects; its secret-key size is the expanded signing key. -/
theorem keySizes_eq (v : MlDsaVariant) :
    v.keySizes = (v.params.pkSize, v.params.skExpandedSize) := by
  cases v <;> rfl

theorem signatureSize_eq (v : MlDsaVariant) : v.signatureSize = v.params.sigSize := by
  cases v <;> rfl

end MlDsaVariant

namespace MlDsaKeyPair

/-- Generate a new ML-DSA key pair from the seed drawn from the OS CSPRNG. -/
def generate (S : MlDsaSuite) (variant : MlDsaVariant) (seed : ByteArr 32) :
    CryptoResult MlDsaKeyPair :=
  match variant with
  | .mlDsa44 => .ok (S.mlDsa44.makeKeypair variant (S.mlDsa44.fromSeed seed))
  | .mlDsa65 => .ok (S.mlDsa65.makeKeypair variant (S.mlDsa65.fromSeed seed))
  | .mlDsa87 => .ok (S.mlDsa87.makeKeypair variant (S.mlDsa87.fromSeed seed))

/-- The caller's generator is ignored: the call delegates to `generate`. -/
def generateWithRng {R : Type} (S : MlDsaSuite) (variant : MlDsaVariant) (_rng : R)
    (seed : ByteArr 32) : CryptoResult MlDsaKeyPair :=
  generate S variant seed

def sign (S : MlDsaSuite) (self : MlDsaKeyPair) (message : Bytes) :
    CryptoResult MlDsaSignature :=
  match self.variant with
  | .mlDsa44 => S.mlDsa44.signImpl self.secretKey message self.variant
  | .mlDsa65 => S.mlDsa65.signImpl self.secretKey message self.variant
  | .mlDsa87 => S.mlDsa87.signImpl self.secretKey message self.variant

def verify (S : MlDsaSuite) (self : MlDsaKeyPair) (message : Bytes) (sig : MlDsaSignature) :
    CryptoResult Bool :=
  if sig.variant ≠ self.variant then
    .error (.verification ("variant mismatch: key is " ++ toString self.variant ++
      ", signature is " ++ toString sig.variant))
  else
    match self.variant with
    | .mlDsa44 => S.mlDsa44.verifyImpl self.publicKey message sig.signature
    | .mlDsa65 => S.mlDsa65.verifyImpl self.publicKey message sig.signature
    | .mlDsa87 => S.mlDsa87.verifyImpl self.publicKey message sig.signature

theorem generate_eq (S : MlDsaSuite) (v : MlDsaVariant) (seed : ByteArr 32) :
    generate S v seed = .ok ((S.primitive v).makeKeypair v ((S.primitive v).fromSeed seed)) := by
  cases v <;> rfl

theorem sign_eq (S : MlDsaSuite) (kp : MlDsaKeyPair) (m : Bytes) :
    kp.sign S m = (S.primitive kp.variant).signImpl kp.secretKey m kp.variant := by
  rcases kp with ⟨v, _, _⟩; cases v <;> rfl

theorem verify_eq (S : MlDsaSuite) (kp : MlDsaKeyPair) (m : Bytes) (sig : MlDsaSignature) :
    kp.verify S m sig =
      if sig.variant ≠ kp.variant then
        .error (.verification ("variant mismatch: key is " ++ toString kp.variant ++
          ", signature is " ++ toString sig.variant))
      else (S.primitive kp.variant).verifyImpl kp.publicKey m sig.signature := by
  rcases kp with ⟨v, _, _⟩; cases v <;> rfl

theorem generate_ok (S : MlDsaSuite) (v : MlDsaVariant) (ξ : ByteArr 32) :
    generate S v ξ = .ok ⟨v, ((S.primitive v).vkEncode ((S.primitive v).keyGen ξ).2).toList,
      ξ.toList⟩ := by
  rw [generate_eq]; rfl

theorem sign_verify (S : MlDsaSuite) (v : MlDsaVariant) (ξ : ByteArr 32) (m : Bytes) :
    ∃ kp sig, generate S v ξ = .ok kp ∧ kp.sign S m = .ok sig ∧ sig.variant = v ∧
      kp.verify S m sig = .ok true :=
  ⟨_, _, generate_ok S v ξ, by rw [sign_eq, MlDsaPrimitive.signImpl_seed], rfl,
    by simp only [verify_eq, ne_eq, not_true_eq_false, if_false]; exact
      (S.primitive v).verifyImpl_sign ξ m⟩

/-- The signature of a generated key, with the length its parameter set fixes. -/
theorem sign_generate (S : MlDsaSuite) (v : MlDsaVariant) (ξ : ByteArr 32) (m : Bytes) :
    ((generate S v ξ).bind fun kp => kp.sign S m) =
      .ok ⟨((S.primitive v).sigEncode ((S.primitive v).sign ((S.primitive v).keyGen ξ).1 m)).toList,
        v⟩ := by
  rw [generate_ok]; exact (sign_eq S _ m).trans ((S.primitive v).signImpl_seed ξ m v)

/-- The lengths of what a generated key pair holds and signs: the catalog's public-key
and signature sizes, and the 32-byte seed as secret key. -/
theorem lengths_of_generate {S : MlDsaSuite} {v : MlDsaVariant} {ξ : ByteArr 32}
    {kp : MlDsaKeyPair} (hg : generate S v ξ = .ok kp) (m : Bytes) :
    kp.publicKey.length = v.keySizes.1 ∧ kp.secretKey.length = 32 ∧
      ∃ sig, kp.sign S m = .ok sig ∧ sig.signature.length = v.signatureSize := by
  have hs := sign_generate S v ξ m
  rw [hg] at hs
  exact ⟨by rw [generate_ok] at hg; cases hg; simp [v.keySizes_eq],
    by rw [generate_ok] at hg; cases hg; simp, _, hs, by simp [v.signatureSize_eq]⟩

theorem errorOf_verify_indep (S : MlDsaSuite) (kp : MlDsaKeyPair) (sig : MlDsaSignature)
    (m₁ m₂ : Bytes) : errorOf (kp.verify S m₁ sig) = errorOf (kp.verify S m₂ sig) := by
  simp only [verify_eq]
  split_ifs
  · rfl
  · exact (S.primitive kp.variant).errorOf_verifyImpl_indep _ _ m₁ m₂

theorem verify_error {S : MlDsaSuite} {kp : MlDsaKeyPair} {m : Bytes} {sig : MlDsaSignature}
    {e : CryptoError} (h : kp.verify S m sig = .error e) : e.IsVerification := by
  rw [verify_eq] at h
  split_ifs at h
  · cases h; trivial
  · exact (S.primitive kp.variant).verifyImpl_error h

/-- `verify` answers exactly when the signature's variant is the key's, the key has that
parameter set's length and the signature decodes; the answer is the crate's verdict. -/
theorem verify_eq_ok_iff (S : MlDsaSuite) (kp : MlDsaKeyPair) (m : Bytes) (sig : MlDsaSignature)
    (b : Bool) :
    kp.verify S m sig = .ok b ↔ sig.variant = kp.variant ∧
      ∃ (a : ByteArr kp.variant.params.pkSize) (s : (S.primitive kp.variant).Signature),
        kp.publicKey = a.toList ∧ (S.primitive kp.variant).sigDecode sig.signature = some s ∧
        b = (S.primitive kp.variant).verify ((S.primitive kp.variant).vkDecode a) m s := by
  rw [verify_eq]
  by_cases hv : sig.variant = kp.variant
  · simp only [hv, ne_eq, not_true_eq_false, if_false, true_and,
      MlDsaPrimitive.verifyImpl_eq_ok_iff]
  · simp [hv]

end MlDsaKeyPair

/-- A degenerate instance of the crate's interface, with trivial keys and signatures:
the laws are consistent, so no statement over every `MlDsaPrimitive p` is vacuous. -/
def MlDsaPrimitive.constant (p : MlDsaParams) : MlDsaPrimitive p where
  SigningKey := Unit
  VerifyingKey := Unit
  Signature := Unit
  keyGen _ := ((), ())
  vkEncode _ := Mathlib.Vector.replicate _ 0
  vkDecode _ := ()
  sign _ _ := ()
  sigEncode _ := Mathlib.Vector.replicate _ 0
  sigDecode _ := some ()
  verify _ _ _ := true
  vkDecode_vkEncode _ := rfl
  sigDecode_sigEncode _ := rfl
  verify_sign _ _ := rfl

def MlDsaSuite.constant : MlDsaSuite := ⟨.constant _, .constant _, .constant _⟩

end Qsgw
