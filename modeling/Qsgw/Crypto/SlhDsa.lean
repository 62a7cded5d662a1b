import Qsgw.Catalog
import Qsgw.Crypto.Rng

/-!
# SLH-DSA key lifecycle

`quantun_crypto::slhdsa`. The `slh_dsa` crate enters as `SlhDsaPrimitive p`, one
value per FIPS 205 parameter set: key generation on the `3n` bytes
`SK.seed ‖ SK.prf ‖ PK.seed` it draws, randomized signing on the `n` bytes `opt_rand`
it draws, the byte forms of keys and signatures, and verification. The law fields
are the byte-form round trips, that signing with the empty context never fails, and
FIPS 205 correctness. Unlike ML-DSA, the key pair stores the full signing key.
-/

namespace Qsgw

/-- A FIPS 205 parameter set: security parameter `n` (bytes), total height `h`,
layers `d`, FORS tree height `a` and number of FORS trees `k`; Winternitz `lg_w = 4`. -/
structure SlhDsaParams where
  n : Nat
  h : Nat
  d : Nat
  a : Nat
  k : Nat
  deriving DecidableEq, Repr

namespace SlhDsaParams

def sha2_128s : SlhDsaParams := ⟨16, 63, 7, 12, 14⟩
def sha2_128f : SlhDsaParams := ⟨16, 66, 22, 6, 33⟩
def sha2_192s : SlhDsaParams := ⟨24, 63, 7, 14, 17⟩
def sha2_192f : SlhDsaParams := ⟨24, 66, 22, 8, 33⟩
def sha2_256s : SlhDsaParams := ⟨32, 64, 8, 14, 22⟩
def sha2_256f : SlhDsaParams := ⟨32, 68, 17, 9, 35⟩

/-- Number of WOTS+ chains, `len₁ + len₂ = 2n + 3` for `lg_w = 4`. -/
def len (p : SlhDsaParams) : Nat := 2 * p.n + 3

/-- `PK.seed ‖ PK.root`. -/
def pkSize (p : SlhDsaParams) : Nat := 2 * p.n

/-- `SK.seed ‖ SK.prf ‖ PK.seed ‖ PK.root`. -/
def skSize (p : SlhDsaParams) : Nat := 4 * p.n

/-- `R ‖ SIG_FORS ‖ SIG_HT`. -/
def sigSize (p : SlhDsaParams) : Nat := (1 + p.k * (1 + p.a) + p.h + p.d * p.len) * p.n

end SlhDsaParams

/-- The `slh_dsa` crate at one parameter set. -/
structure SlhDsaPrimitive (p : SlhDsaParams) where
  SigningKey : Type
  VerifyingKey : Type
  Signature : Type
  /-- `SigningKey::new`, on the `3n` bytes it draws. -/
  keyGen : ByteArr (3 * p.n) → SigningKey
  /-- `AsRef<VerifyingKey>`: the verifying key a signing key holds. -/
  verifyingKey : SigningKey → VerifyingKey
  skToBytes : SigningKey → ByteArr p.skSize
  skFromBytes : ByteArr p.skSize → Option SigningKey
  vkToBytes : VerifyingKey → ByteArr p.pkSize
  vkFromBytes : ByteArr p.pkSize → Option VerifyingKey
  /-- `try_sign_with_rng`, on the `n` bytes it draws; an error is its message. -/
  trySign : SigningKey → ByteArr p.n → Bytes → Except String Signature
  sigToBytes : Signature → ByteArr p.sigSize
  sigFromBytes : ByteArr p.sigSize → Option Signature
  /-- `Verifier::verify`, `Ok(())` read as `true`. -/
  verify : VerifyingKey → Bytes → Signature → Bool
  skFromBytes_skToBytes : ∀ sk, skFromBytes (skToBytes sk) = some sk
  vkFromBytes_vkToBytes : ∀ vk, vkFromBytes (vkToBytes vk) = some vk
  sigFromBytes_sigToBytes : ∀ s, sigFromBytes (sigToBytes s) = some s
  /-- The RNG is infallible and the context empty, so signing succeeds. -/
  trySign_ok : ∀ sk r m, ∃ s, trySign sk r m = .ok s
  /-- FIPS 205 correctness. -/
  verify_sign : ∀ seed r m s, trySign (keyGen seed) r m = .ok s →
    verify (verifyingKey (keyGen seed)) m s = true

/-- SLH-DSA key pair. -/
structure SlhDsaKeyPair where
  variant : SlhDsaVariant
  publicKey : Bytes
  secretKey : Bytes
  deriving DecidableEq, Repr

/-- An SLH-DSA signature. -/
structure SlhDsaSignature where
  signature : Bytes
  variant : SlhDsaVariant
  deriving DecidableEq, Repr

namespace SlhDsaPrimitive

variable {p : SlhDsaParams} (K : SlhDsaPrimitive p)

/-- `SigningKey::try_from(&[u8])`. -/
def skTryFrom (b : Bytes) : Option K.SigningKey := (tryIntoArray p.skSize b).bind K.skFromBytes

/-- `VerifyingKey::try_from(&[u8])`. -/
def vkTryFrom (b : Bytes) : Option K.VerifyingKey := (tryIntoArray p.pkSize b).bind K.vkFromBytes

/-- `Signature::try_from(&[u8])`. -/
def sigTryFrom (b : Bytes) : Option K.Signature := (tryIntoArray p.sigSize b).bind K.sigFromBytes

/-- Generate a key pair for a concrete SLH-DSA parameter set. -/
def generateTyped (variant : SlhDsaVariant) (rng : OsRng) : CryptoResult SlhDsaKeyPair :=
  let sk := K.keyGen (rng.fill (3 * p.n))
  .ok ⟨variant, (K.vkToBytes (K.verifyingKey sk)).toList, (K.skToBytes sk).toList⟩

/-- Sign a message with a serialized signing key. -/
def signTyped (skBytes message : Bytes) (variant : SlhDsaVariant) (rng : OsRng) :
    CryptoResult SlhDsaSignature := do
  let sk ← okOr (K.skTryFrom skBytes) (.signing
    ("invalid SLH-DSA signing key (" ++ toString skBytes.length ++ " bytes)"))
  let sig ← (K.trySign sk (rng.fill p.n) message).mapError fun e =>
    .signing ("SLH-DSA signing failed: " ++ e)
  pure ⟨(K.sigToBytes sig).toList, variant⟩

/-- Verify a signature with a serialized verifying key. -/
def verifyTyped (vkBytes message sigBytes : Bytes) : CryptoResult Bool := do
  let vk ← okOr (K.vkTryFrom vkBytes) (.verification
    ("invalid SLH-DSA verifying key (" ++ toString vkBytes.length ++ " bytes)"))
  let sig ← okOr (K.sigTryFrom sigBytes) (.verification
    ("invalid SLH-DSA signature (" ++ toString sigBytes.length ++ " bytes)"))
  pure (K.verify vk message sig)

@[simp] theorem skTryFrom_skToBytes (sk : K.SigningKey) :
    K.skTryFrom (K.skToBytes sk).toList = some sk := by
  simp [skTryFrom, K.skFromBytes_skToBytes]

@[simp] theorem vkTryFrom_vkToBytes (vk : K.VerifyingKey) :
    K.vkTryFrom (K.vkToBytes vk).toList = some vk := by
  simp [vkTryFrom, K.vkFromBytes_vkToBytes]

@[simp] theorem sigTryFrom_sigToBytes (sig : K.Signature) :
    K.sigTryFrom (K.sigToBytes sig).toList = some sig := by
  simp [sigTryFrom, K.sigFromBytes_sigToBytes]

theorem signTyped_skToBytes (sk : K.SigningKey) (m : Bytes) (v : SlhDsaVariant)
    (rng : OsRng) : ∃ sig, K.trySign sk (rng.fill p.n) m = .ok sig ∧
      K.signTyped (K.skToBytes sk).toList m v rng = .ok ⟨(K.sigToBytes sig).toList, v⟩ := by
  obtain ⟨sig, hs⟩ := K.trySign_ok sk (rng.fill p.n) m
  exact ⟨sig, hs, by simp [signTyped, hs, Except.mapError]⟩

/-- A signing key of the wrong length is refused before anything is signed. -/
theorem signTyped_of_length_ne {skBytes : Bytes} (h : skBytes.length ≠ p.skSize) (m : Bytes)
    (v : SlhDsaVariant) (rng : OsRng) :
    K.signTyped skBytes m v rng = .error (.signing
      ("invalid SLH-DSA signing key (" ++ toString skBytes.length ++ " bytes)")) := by
  simp [signTyped, skTryFrom, (tryIntoArray_eq_none).mpr h]

/-- Whether verification errs is decided before the message is read. -/
theorem errorOf_verifyTyped_indep (vkBytes sigBytes m₁ m₂ : Bytes) :
    errorOf (K.verifyTyped vkBytes m₁ sigBytes) = errorOf (K.verifyTyped vkBytes m₂ sigBytes) := by
  simp only [verifyTyped]
  cases K.vkTryFrom vkBytes <;> cases K.sigTryFrom sigBytes <;> rfl

theorem verifyTyped_error {vkBytes m sigBytes : Bytes} {e : CryptoError}
    (h : K.verifyTyped vkBytes m sigBytes = .error e) : e.IsVerification := by
  rcases hv : K.vkTryFrom vkBytes with _ | a <;>
    rcases hs : K.sigTryFrom sigBytes with _ | sg <;>
    simp only [verifyTyped, hv, hs, okOr_none, okOr_some, error_bind, ok_bind] at h <;>
    cases h <;> trivial

/-- Verification answers exactly when key and signature convert, and then with the
crate's verdict. -/
theorem verifyTyped_eq_ok_iff (vkBytes m sigBytes : Bytes) (b : Bool) :
    K.verifyTyped vkBytes m sigBytes = .ok b ↔
      ∃ vk s, K.vkTryFrom vkBytes = some vk ∧ K.sigTryFrom sigBytes = some s ∧
        b = K.verify vk m s := by
  rcases hv : K.vkTryFrom vkBytes with _ | vk <;> rcases hs : K.sigTryFrom sigBytes with _ | s <;>
    simp [verifyTyped, hv, hs, eq_comm]

end SlhDsaPrimitive

/-- The six instantiations of the crate that the match arms select. -/
structure SlhDsaSuite where
  sha2_128s : SlhDsaPrimitive SlhDsaParams.sha2_128s
  sha2_128f : SlhDsaPrimitive SlhDsaParams.sha2_128f
  sha2_192s : SlhDsaPrimitive SlhDsaParams.sha2_192s
  sha2_192f : SlhDsaPrimitive SlhDsaParams.sha2_192f
  sha2_256s : SlhDsaPrimitive SlhDsaParams.sha2_256s
  sha2_256f : SlhDsaPrimitive SlhDsaParams.sha2_256f

def SlhDsaVariant.params : SlhDsaVariant → SlhDsaParams
  | .sha2_128s => .sha2_128s
  | .sha2_128f => .sha2_128f
  | .sha2_192s => .sha2_192s
  | .sha2_192f => .sha2_192f
  | .sha2_256s => .sha2_256s
  | .sha2_256f => .sha2_256f

def SlhDsaSuite.primitive (S : SlhDsaSuite) : (v : SlhDsaVariant) → SlhDsaPrimitive v.params
  | .sha2_128s => S.sha2_128s
  | .sha2_128f => S.sha2_128f
  | .sha2_192s => S.sha2_192s
  | .sha2_192f => S.sha2_192f
  | .sha2_256s => S.sha2_256s
  | .sha2_256f => S.sha2_256f

namespace SlhDsaVariant

/-- The catalog's sizes are those of the parameter set the code selects. -/
theorem keySizes_eq (v : SlhDsaVariant) : v.keySizes = (v.params.pkSize, v.params.skSize) := by
  cases v <;> rfl

theorem signatureSize_eq (v : SlhDsaVariant) : v.signatureSize = v.params.sigSize := by
  cases v <;> rfl

theorem skSize_pos (v : SlhDsaVariant) : 0 < v.params.skSize := by
  cases v <;> decide

end SlhDsaVariant

namespace SlhDsaKeyPair

/-- Generate a new SLH-DSA key pair using OS RNG. -/
def generate (S : SlhDsaSuite) (variant : SlhDsaVariant) (rng : OsRng) :
    CryptoResult SlhDsaKeyPair :=
  match variant with
  | .sha2_128s => S.sha2_128s.generateTyped variant rng
  | .sha2_128f => S.sha2_128f.generateTyped variant rng
  | .sha2_192s => S.sha2_192s.generateTyped variant rng
  | .sha2_192f => S.sha2_192f.generateTyped variant rng
  | .sha2_256s => S.sha2_256s.generateTyped variant rng
  | .sha2_256f => S.sha2_256f.generateTyped variant rng

/-- The caller's generator is ignored: the call delegates to `generate`. -/
def generateWithRng {R : Type} (S : SlhDsaSuite) (variant : SlhDsaVariant) (_rng : R)
    (rng : OsRng) : CryptoResult SlhDsaKeyPair :=
  generate S variant rng

/-- Sign a message using OS RNG for randomized signing. -/
def sign (S : SlhDsaSuite) (self : SlhDsaKeyPair) (message : Bytes) (rng : OsRng) :
    CryptoResult SlhDsaSignature :=
  match self.variant with
  | .sha2_128s => S.sha2_128s.signTyped self.secretKey message self.variant rng
  | .sha2_128f => S.sha2_128f.signTyped self.secretKey message self.variant rng
  | .sha2_192s => S.sha2_192s.signTyped self.secretKey message self.variant rng
  | .sha2_192f => S.sha2_192f.signTyped self.secretKey message self.variant rng
  | .sha2_256s => S.sha2_256s.signTyped self.secretKey message self.variant rng
  | .sha2_256f => S.sha2_256f.signTyped self.secretKey message self.variant rng

def verify (S : SlhDsaSuite) (self : SlhDsaKeyPair) (message : Bytes) (sig : SlhDsaSignature) :
    CryptoResult Bool :=
  if sig.variant ≠ self.variant then
    .error (.verification ("variant mismatch: key is " ++ toString self.variant ++
      ", signature is " ++ toString sig.variant))
  else
    match self.variant with
    | .sha2_128s => S.sha2_128s.verifyTyped self.publicKey message sig.signature
    | .sha2_128f => S.sha2_128f.verifyTyped self.publicKey message sig.signature
    | .sha2_192s => S.sha2_192s.verifyTyped self.publicKey message sig.signature
    | .sha2_192f => S.sha2_192f.verifyTyped self.publicKey message sig.signature
    | .sha2_256s => S.sha2_256s.verifyTyped self.publicKey message sig.signature
    | .sha2_256f => S.sha2_256f.verifyTyped self.publicKey message sig.signature

theorem generate_eq (S : SlhDsaSuite) (v : SlhDsaVariant) (rng : OsRng) :
    generate S v rng = (S.primitive v).generateTyped v rng := by
  cases v <;> rfl

theorem sign_eq (S : SlhDsaSuite) (kp : SlhDsaKeyPair) (m : Bytes) (rng : OsRng) :
    kp.sign S m rng = (S.primitive kp.variant).signTyped kp.secretKey m kp.variant rng := by
  rcases kp with ⟨v, _, _⟩; cases v <;> rfl

theorem verify_eq (S : SlhDsaSuite) (kp : SlhDsaKeyPair) (m : Bytes) (sig : SlhDsaSignature) :
    kp.verify S m sig =
      if sig.variant ≠ kp.variant then
        .error (.verification ("variant mismatch: key is " ++ toString kp.variant ++
          ", signature is " ++ toString sig.variant))
      else (S.primitive kp.variant).verifyTyped kp.publicKey m sig.signature := by
  rcases kp with ⟨v, _, _⟩; cases v <;> rfl

theorem generate_ok (S : SlhDsaSuite) (v : SlhDsaVariant) (rng : OsRng) :
    generate S v rng = .ok ⟨v,
      ((S.primitive v).vkToBytes ((S.primitive v).verifyingKey
        ((S.primitive v).keyGen (rng.fill (3 * v.params.n))))).toList,
      ((S.primitive v).skToBytes ((S.primitive v).keyGen (rng.fill (3 * v.params.n)))).toList⟩ := by
  rw [generate_eq]; rfl

/-- A generated key signs every message, and verifies what it signed. -/
theorem sign_verify (S : SlhDsaSuite) (v : SlhDsaVariant) (rng rng' : OsRng) (m : Bytes) :
    ∃ kp sig, generate S v rng = .ok kp ∧ kp.sign S m rng' = .ok sig ∧ sig.variant = v ∧
      kp.verify S m sig = .ok true := by
  let K := S.primitive v
  obtain ⟨sig, hs, hsign⟩ := K.signTyped_skToBytes (K.keyGen (rng.fill (3 * v.params.n))) m v rng'
  refine ⟨_, _, generate_ok S v rng, (sign_eq S _ m rng').trans hsign, rfl, ?_⟩
  simp only [verify_eq, ne_eq, not_true_eq_false, if_false, SlhDsaPrimitive.verifyTyped,
    SlhDsaPrimitive.vkTryFrom_vkToBytes, SlhDsaPrimitive.sigTryFrom_sigToBytes, okOr_some, ok_bind]
  exact congrArg _ (K.verify_sign _ _ _ _ hs)

/-- The signature of a generated key, with the length its parameter set fixes. -/
theorem sign_generate (S : SlhDsaSuite) (v : SlhDsaVariant) (rng rng' : OsRng) (m : Bytes) :
    ∃ sig : ByteArr v.params.sigSize,
      ((generate S v rng).bind fun kp => kp.sign S m rng') = .ok ⟨sig.toList, v⟩ := by
  let K := S.primitive v
  obtain ⟨sig, -, hsign⟩ := K.signTyped_skToBytes (K.keyGen (rng.fill (3 * v.params.n))) m v rng'
  exact ⟨_, by rw [generate_ok]; exact (sign_eq S _ m rng').trans hsign⟩

/-- The lengths of what a generated key pair holds and signs: the catalog's sizes. -/
theorem lengths_of_generate {S : SlhDsaSuite} {v : SlhDsaVariant} {rng : OsRng}
    {kp : SlhDsaKeyPair} (hg : generate S v rng = .ok kp) (m : Bytes) (rng' : OsRng) :
    kp.publicKey.length = v.keySizes.1 ∧ kp.secretKey.length = v.keySizes.2 ∧
      ∃ sig, kp.sign S m rng' = .ok sig ∧ sig.signature.length = v.signatureSize := by
  obtain ⟨sig, hs⟩ := sign_generate S v rng rng' m
  rw [hg] at hs
  rw [generate_ok] at hg; cases hg
  exact ⟨by simp [v.keySizes_eq], by simp [v.keySizes_eq], _, hs, by simp [v.signatureSize_eq]⟩

theorem errorOf_verify_indep (S : SlhDsaSuite) (kp : SlhDsaKeyPair) (sig : SlhDsaSignature)
    (m₁ m₂ : Bytes) : errorOf (kp.verify S m₁ sig) = errorOf (kp.verify S m₂ sig) := by
  simp only [verify_eq]
  split_ifs
  · rfl
  · exact (S.primitive kp.variant).errorOf_verifyTyped_indep _ _ m₁ m₂

theorem verify_error {S : SlhDsaSuite} {kp : SlhDsaKeyPair} {m : Bytes} {sig : SlhDsaSignature}
    {e : CryptoError} (h : kp.verify S m sig = .error e) : e.IsVerification := by
  rw [verify_eq] at h
  split_ifs at h
  · cases h; trivial
  · exact (S.primitive kp.variant).verifyTyped_error h

/-- `verify` answers exactly when the signature's variant is the key's and key and
signature convert at that parameter set; the answer is the crate's verdict. -/
theorem verify_eq_ok_iff (S : SlhDsaSuite) (kp : SlhDsaKeyPair) (m : Bytes)
    (sig : SlhDsaSignature) (b : Bool) :
    kp.verify S m sig = .ok b ↔ sig.variant = kp.variant ∧
      ∃ vk s, (S.primitive kp.variant).vkTryFrom kp.publicKey = some vk ∧
        (S.primitive kp.variant).sigTryFrom sig.signature = some s ∧
        b = (S.primitive kp.variant).verify vk m s := by
  rw [verify_eq]
  by_cases hv : sig.variant = kp.variant
  · simp only [hv, ne_eq, not_true_eq_false, if_false, true_and,
      SlhDsaPrimitive.verifyTyped_eq_ok_iff]
  · simp [hv]

/-- The key pair `generate` returns is the one generated from the bytes the crate
receives, however it splits its `3n`-byte draw into `PqcRng` calls. -/
theorem generate_of_run (S : SlhDsaSuite) (v : SlhDsaVariant) (rng : OsRng)
    (cs : List PqcRng.Call) (h : PqcRng.width cs = 3 * v.params.n) :
    ∃ seed : ByteArr (3 * v.params.n),
      seed.toList = (PqcRng.run cs rng).1.flatMap PqcRng.Reply.leBytes ∧
      generate S v rng = .ok ⟨v,
        ((S.primitive v).vkToBytes ((S.primitive v).verifyingKey ((S.primitive v).keyGen seed))).toList,
        ((S.primitive v).skToBytes ((S.primitive v).keyGen seed)).toList⟩ := by
  obtain ⟨hlen, hseed⟩ := PqcRng.run_seed cs h rng
  exact ⟨⟨_, hlen⟩, rfl, by rw [hseed]; exact generate_ok S v rng⟩

/-- A signature depends on the stream only through the `n` bytes the crate draws: two
streams on which its calls, however split, hand out the same bytes sign alike. -/
theorem sign_of_run_eq (S : SlhDsaSuite) (kp : SlhDsaKeyPair) (m : Bytes) {rng rng' : OsRng}
    (cs cs' : List PqcRng.Call) (hw : PqcRng.width cs = kp.variant.params.n)
    (hw' : PqcRng.width cs' = kp.variant.params.n)
    (h : (PqcRng.run cs rng).1.flatMap PqcRng.Reply.leBytes =
      (PqcRng.run cs' rng').1.flatMap PqcRng.Reply.leBytes) :
    kp.sign S m rng = kp.sign S m rng' := by
  rw [PqcRng.run_bytes, PqcRng.run_bytes, hw, hw'] at h
  have hfill : rng.fill kp.variant.params.n = rng'.fill kp.variant.params.n :=
    Mathlib.Vector.toList_injective h
  simp only [sign_eq, SlhDsaPrimitive.signTyped, hfill]

end SlhDsaKeyPair

/-- A degenerate instance of the crate's interface, with trivial keys and signatures:
the laws are consistent, so no statement over every `SlhDsaPrimitive p` is vacuous. -/
def SlhDsaPrimitive.constant (p : SlhDsaParams) : SlhDsaPrimitive p where
  SigningKey := Unit
  VerifyingKey := Unit
  Signature := Unit
  keyGen _ := ()
  verifyingKey _ := ()
  skToBytes _ := Mathlib.Vector.replicate _ 0
  skFromBytes _ := some ()
  vkToBytes _ := Mathlib.Vector.replicate _ 0
  vkFromBytes _ := some ()
  trySign _ _ _ := .ok ()
  sigToBytes _ := Mathlib.Vector.replicate _ 0
  sigFromBytes _ := some ()
  verify _ _ _ := true
  skFromBytes_skToBytes _ := rfl
  vkFromBytes_vkToBytes _ := rfl
  sigFromBytes_sigToBytes _ := rfl
  trySign_ok _ _ _ := ⟨(), rfl⟩
  verify_sign _ _ _ _ _ := rfl

def SlhDsaSuite.constant : SlhDsaSuite :=
  ⟨.constant _, .constant _, .constant _, .constant _, .constant _, .constant _⟩

end Qsgw
