import Qsgw.Catalog

/-!
# ML-KEM key lifecycle

`quantun_crypto::mlkem`. The `ml_kem` crate is outside the repository; it enters as
`MlKemPrimitive p`, one value per FIPS 203 parameter set `p`: the typed keys, the
byte forms that `to_bytes` exports and `new_from_slice` imports, and the internal
algorithms with the randomness they draw made explicit (the 64 bytes `d ‖ z` of key
generation, the 32 bytes `m` of encapsulation). The law fields are what is assumed of
the crate: its key exports re-import, and FIPS 203 correctness. Decapsulating a
ciphertext of the right length is total, as FIPS 203 specifies it (implicit
rejection); only the slice conversions can fail.

The source repeats one match arm per variant, differing only in the parameter set
and in the name its messages print. Each arm is `generateTyped`, `encapsulateTyped`
or `decapsulateTyped` applied to that arm's values, and `generate_eq`,
`encapsulate_eq` and `decapsulate_eq` say that each operation is its arm at
`S.primitive v`, with the variant's `Display` name in its messages.
-/

namespace Qsgw

/-- A FIPS 203 parameter set: module rank `k` and compression widths `du`, `dv`. -/
structure MlKemParams where
  k : Nat
  du : Nat
  dv : Nat
  deriving DecidableEq, Repr

namespace MlKemParams

def mlKem512 : MlKemParams := ⟨2, 10, 4⟩
def mlKem768 : MlKemParams := ⟨3, 10, 4⟩
def mlKem1024 : MlKemParams := ⟨4, 11, 5⟩

/-- Encoded encapsulation key, `ByteEncode₁₂(t̂) ‖ ρ`. -/
def ekSize (p : MlKemParams) : Nat := 384 * p.k + 32

/-- Ciphertext, `ByteEncode_du(u) ‖ ByteEncode_dv(v)`. -/
def ctSize (p : MlKemParams) : Nat := 32 * (p.du * p.k + p.dv)

/-- Expanded decapsulation key, `ByteEncode₁₂(ŝ) ‖ ek ‖ H(ek) ‖ z`. -/
def dkExpandedSize (p : MlKemParams) : Nat := 768 * p.k + 96

end MlKemParams

/-- The `ml_kem` crate at one parameter set. Decapsulation keys are exported in
seed form (the 64 bytes `d ‖ z`), as the field comment of `MlKemKeyPair` says. -/
structure MlKemPrimitive (p : MlKemParams) where
  DecapsulationKey : Type
  EncapsulationKey : Type
  /-- `generate_keypair_from_rng`, on the 64 bytes it draws. -/
  generateKeypair : ByteArr 64 → DecapsulationKey × EncapsulationKey
  ekToBytes : EncapsulationKey → ByteArr p.ekSize
  dkToBytes : DecapsulationKey → ByteArr 64
  /-- `EncapsulationKey::new` on an array of the right length; it may reject. -/
  ekNew : ByteArr p.ekSize → Option EncapsulationKey
  dkNew : ByteArr 64 → DecapsulationKey
  /-- `encapsulate_with_rng`, on the 32 bytes it draws: `(ciphertext, shared key)`. -/
  encapsulate : EncapsulationKey → ByteArr 32 → ByteArr p.ctSize × ByteArr 32
  decapsulate : DecapsulationKey → ByteArr p.ctSize → ByteArr 32
  ekNew_ekToBytes : ∀ ek, ekNew (ekToBytes ek) = some ek
  dkNew_dkToBytes : ∀ dk, dkNew (dkToBytes dk) = dk
  /-- FIPS 203 correctness. -/
  decapsulate_encapsulate : ∀ seed m,
    decapsulate (generateKeypair seed).1 (encapsulate (generateKeypair seed).2 m).1 =
      (encapsulate (generateKeypair seed).2 m).2

/-- ML-KEM key pair. -/
structure MlKemKeyPair where
  variant : MlKemVariant
  publicKey : Bytes
  secretKey : Bytes
  deriving DecidableEq, Repr

/-- Result of an ML-KEM encapsulation operation. -/
structure MlKemEncapsulated where
  ciphertext : Bytes
  sharedSecret : Bytes
  deriving DecidableEq, Repr

/-- Helper to log and construct a key pair from raw bytes (the log line is not modelled). -/
def makeKeypair (variant : MlKemVariant) (publicKey secretKey : Bytes) : MlKemKeyPair :=
  ⟨variant, publicKey, secretKey⟩

namespace MlKemPrimitive

variable {p : MlKemParams} (K : MlKemPrimitive p)

/-- `EncapsulationKey::new_from_slice`. -/
def ekNewFromSlice (b : Bytes) : Option K.EncapsulationKey :=
  (tryIntoArray p.ekSize b).bind K.ekNew

/-- `DecapsulationKey::new_from_slice`. -/
def dkNewFromSlice (b : Bytes) : Option K.DecapsulationKey :=
  (tryIntoArray 64 b).map K.dkNew

/-- `decapsulate_slice`. -/
def decapsulateSlice (dk : K.DecapsulationKey) (c : Bytes) : Option (ByteArr 32) :=
  (tryIntoArray p.ctSize c).map (K.decapsulate dk)

/-- One arm of `MlKemKeyPair::generate`. -/
def generateTyped (variant : MlKemVariant) (seed : ByteArr 64) : CryptoResult MlKemKeyPair :=
  .ok (makeKeypair variant (K.ekToBytes (K.generateKeypair seed).2).toList
    (K.dkToBytes (K.generateKeypair seed).1).toList)

/-- One arm of `MlKemKeyPair::encapsulate`; `name` is the arm's text for its variant. -/
def encapsulateTyped (name : String) (publicKey : Bytes) (m : ByteArr 32) :
    CryptoResult MlKemEncapsulated := do
  let ek ← okOr (K.ekNewFromSlice publicKey) (.encapsulation
    ("invalid " ++ name ++ " encapsulation key (" ++ toString publicKey.length ++ " bytes)"))
  let (ct, ss) := K.encapsulate ek m
  pure ⟨ct.toList, ss.toList⟩

/-- One arm of `MlKemKeyPair::decapsulate`. -/
def decapsulateTyped (name : String) (secretKey ciphertext : Bytes) : CryptoResult Bytes := do
  let dk ← okOr (K.dkNewFromSlice secretKey) (.decapsulation
    ("invalid " ++ name ++ " decapsulation key (" ++ toString secretKey.length ++ " bytes)"))
  let ss ← okOr (K.decapsulateSlice dk ciphertext) (.decapsulation
    (name ++ " decapsulation failed (ct " ++ toString ciphertext.length ++ " bytes)"))
  pure ss.toList

@[simp] theorem ekNewFromSlice_ekToBytes (ek : K.EncapsulationKey) :
    K.ekNewFromSlice (K.ekToBytes ek).toList = some ek := by
  simp [ekNewFromSlice, K.ekNew_ekToBytes]

@[simp] theorem dkNewFromSlice_dkToBytes (dk : K.DecapsulationKey) :
    K.dkNewFromSlice (K.dkToBytes dk).toList = some dk := by
  simp [dkNewFromSlice, K.dkNew_dkToBytes]

theorem encapsulateTyped_ekToBytes (name : String) (ek : K.EncapsulationKey) (m : ByteArr 32) :
    K.encapsulateTyped name (K.ekToBytes ek).toList m =
      .ok ⟨(K.encapsulate ek m).1.toList, (K.encapsulate ek m).2.toList⟩ := by
  simp [encapsulateTyped]

/-- With a key it exported, decapsulation fails only on the ciphertext's length. -/
theorem decapsulateTyped_dkToBytes (name : String) (dk : K.DecapsulationKey) (c : Bytes) :
    K.decapsulateTyped name (K.dkToBytes dk).toList c =
      okOr ((tryIntoArray p.ctSize c).map fun ct => (K.decapsulate dk ct).toList)
        (.decapsulation (name ++ " decapsulation failed (ct " ++ toString c.length ++ " bytes)")) := by
  simp only [decapsulateTyped, dkNewFromSlice_dkToBytes, okOr_some, ok_bind, decapsulateSlice]
  cases tryIntoArray p.ctSize c <;> rfl

/-- A secret key of the wrong length is refused before the ciphertext is looked at. -/
theorem decapsulateTyped_of_length_ne (name : String) {secretKey : Bytes}
    (h : secretKey.length ≠ 64) (c : Bytes) :
    K.decapsulateTyped name secretKey c = .error (.decapsulation
      ("invalid " ++ name ++ " decapsulation key (" ++ toString secretKey.length ++ " bytes)")) := by
  simp [decapsulateTyped, dkNewFromSlice, (tryIntoArray_eq_none).mpr h]

theorem round_trip_typed (variant : MlKemVariant) (name : String) (seed : ByteArr 64)
    (m : ByteArr 32) :
    ∃ kp enc, K.generateTyped variant seed = .ok kp ∧
      K.encapsulateTyped name kp.publicKey m = .ok enc ∧
      K.decapsulateTyped name kp.secretKey enc.ciphertext = .ok enc.sharedSecret := by
  refine ⟨_, _, rfl, K.encapsulateTyped_ekToBytes name _ m, ?_⟩
  simp [makeKeypair, decapsulateTyped_dkToBytes, K.decapsulate_encapsulate]

/-- Encapsulation draws 32 bytes, so it reaches only a sliver of the ciphertexts. -/
theorem exists_ciphertext_not_encapsulated (hp : 32 < p.ctSize) (ek : K.EncapsulationKey) :
    ∃ ct : ByteArr p.ctSize, ∀ m, (K.encapsulate ek m).1 ≠ ct := by
  by_contra h
  push_neg at h
  exact byteArr_not_surjective hp _ h

end MlKemPrimitive

/-- The three instantiations of the crate that the match arms select. -/
structure MlKemSuite where
  mlKem512 : MlKemPrimitive MlKemParams.mlKem512
  mlKem768 : MlKemPrimitive MlKemParams.mlKem768
  mlKem1024 : MlKemPrimitive MlKemParams.mlKem1024

/-- The parameter set each match arm names. -/
def MlKemVariant.params : MlKemVariant → MlKemParams
  | .mlKem512 => .mlKem512
  | .mlKem768 => .mlKem768
  | .mlKem1024 => .mlKem1024

def MlKemSuite.primitive (S : MlKemSuite) : (v : MlKemVariant) → MlKemPrimitive v.params
  | .mlKem512 => S.mlKem512
  | .mlKem768 => S.mlKem768
  | .mlKem1024 => S.mlKem1024

namespace MlKemVariant

/-- The catalog's public-key and ciphertext sizes are those of the parameter set the
code selects; its secret-key size is the expanded key, not the seed the crate exports. -/
theorem keySizes_eq (v : MlKemVariant) :
    v.keySizes = (v.params.ekSize, v.params.dkExpandedSize) := by
  cases v <;> rfl

theorem ciphertextSize_eq (v : MlKemVariant) : v.ciphertextSize = v.params.ctSize := by
  cases v <;> rfl

theorem ciphertextSize_gt (v : MlKemVariant) : 32 < v.params.ctSize := by
  cases v <;> decide

end MlKemVariant

namespace MlKemKeyPair

/-- Generate a new ML-KEM key pair for the given variant; `seed` is what the crate
draws from the OS RNG. -/
def generate (S : MlKemSuite) (variant : MlKemVariant) (seed : ByteArr 64) :
    CryptoResult MlKemKeyPair :=
  match variant with
  | .mlKem512 => S.mlKem512.generateTyped variant seed
  | .mlKem768 => S.mlKem768.generateTyped variant seed
  | .mlKem1024 => S.mlKem1024.generateTyped variant seed

/-- The caller's generator is ignored: the call delegates to `generate`. -/
def generateWithRng {R : Type} (S : MlKemSuite) (variant : MlKemVariant) (_rng : R)
    (seed : ByteArr 64) : CryptoResult MlKemKeyPair :=
  generate S variant seed

/-- Encapsulate: produce a ciphertext and shared secret from the public key. -/
def encapsulate (S : MlKemSuite) (self : MlKemKeyPair) (m : ByteArr 32) :
    CryptoResult MlKemEncapsulated :=
  match self.variant with
  | .mlKem512 => S.mlKem512.encapsulateTyped "ML-KEM-512" self.publicKey m
  | .mlKem768 => S.mlKem768.encapsulateTyped "ML-KEM-768" self.publicKey m
  | .mlKem1024 => S.mlKem1024.encapsulateTyped "ML-KEM-1024" self.publicKey m

/-- Decapsulate: recover the shared secret from a ciphertext using the secret key. -/
def decapsulate (S : MlKemSuite) (self : MlKemKeyPair) (ciphertext : Bytes) :
    CryptoResult Bytes :=
  match self.variant with
  | .mlKem512 => S.mlKem512.decapsulateTyped "ML-KEM-512" self.secretKey ciphertext
  | .mlKem768 => S.mlKem768.decapsulateTyped "ML-KEM-768" self.secretKey ciphertext
  | .mlKem1024 => S.mlKem1024.decapsulateTyped "ML-KEM-1024" self.secretKey ciphertext

theorem generate_eq (S : MlKemSuite) (v : MlKemVariant) (seed : ByteArr 64) :
    generate S v seed = (S.primitive v).generateTyped v seed := by
  cases v <;> rfl

theorem encapsulate_eq (S : MlKemSuite) (kp : MlKemKeyPair) (m : ByteArr 32) :
    kp.encapsulate S m =
      (S.primitive kp.variant).encapsulateTyped (toString kp.variant) kp.publicKey m := by
  rcases kp with ⟨v, _, _⟩; cases v <;> rfl

theorem decapsulate_eq (S : MlKemSuite) (kp : MlKemKeyPair) (c : Bytes) :
    kp.decapsulate S c =
      (S.primitive kp.variant).decapsulateTyped (toString kp.variant) kp.secretKey c := by
  rcases kp with ⟨v, _, _⟩; cases v <;> rfl

theorem generate_ok (S : MlKemSuite) (v : MlKemVariant) (seed : ByteArr 64) :
    generate S v seed = .ok ⟨v,
      ((S.primitive v).ekToBytes ((S.primitive v).generateKeypair seed).2).toList,
      ((S.primitive v).dkToBytes ((S.primitive v).generateKeypair seed).1).toList⟩ := by
  rw [generate_eq]; rfl

section Generated

variable {S : MlKemSuite} {v : MlKemVariant} {seed : ByteArr 64} {kp : MlKemKeyPair}

theorem variant_of_generate (hg : generate S v seed = .ok kp) : kp.variant = v := by
  rw [generate_ok] at hg; cases hg; rfl

/-- A generated key pair encapsulates, and decapsulates what it encapsulated. -/
theorem encapsulate_decapsulate (hg : generate S v seed = .ok kp) (m : ByteArr 32) :
    ∃ enc, kp.encapsulate S m = .ok enc ∧ kp.decapsulate S enc.ciphertext = .ok enc.sharedSecret := by
  obtain ⟨kp', enc, hg', he, hd⟩ := (S.primitive v).round_trip_typed v (toString v) seed m
  rw [← generate_eq, hg] at hg'
  cases hg'
  refine ⟨enc, ?_, ?_⟩
  · rw [encapsulate_eq, variant_of_generate hg, he]
  · rw [decapsulate_eq, variant_of_generate hg, hd]

/-- What decapsulation with a generated key reports: an error exactly on a ciphertext
whose length is not the catalog's, and then the `Decapsulation` error naming it. -/
theorem decapsulate_errorOf (hg : generate S v seed = .ok kp) (c : Bytes) :
    errorOf (kp.decapsulate S c) =
      if c.length = v.ciphertextSize then none
      else some (.decapsulation
        (toString v ++ " decapsulation failed (ct " ++ toString c.length ++ " bytes)")) := by
  rw [generate_ok] at hg; cases hg
  simp only [decapsulate_eq, MlKemPrimitive.decapsulateTyped_dkToBytes, v.ciphertextSize_eq]
  split_ifs with h
  · obtain ⟨ct, hct, -⟩ := tryIntoArray_of_length h
    simp [hct]
  · simp [(tryIntoArray_eq_none).mpr h]

/-- Some ciphertext of the right length, produced by no encapsulation under the key,
is answered with a secret. -/
theorem exists_foreign_ciphertext (hg : generate S v seed = .ok kp) :
    ∃ c s, kp.decapsulate S c = .ok s ∧
      ∀ m enc, kp.encapsulate S m = .ok enc → enc.ciphertext ≠ c := by
  rw [generate_ok] at hg; cases hg
  let K := S.primitive v
  obtain ⟨ct, hct⟩ := K.exists_ciphertext_not_encapsulated v.ciphertextSize_gt
    (K.generateKeypair seed).2
  refine ⟨ct.toList, (K.decapsulate (K.generateKeypair seed).1 ct).toList, ?_, fun m enc he => ?_⟩
  · rw [decapsulate_eq]
    simp only [MlKemPrimitive.decapsulateTyped_dkToBytes, tryIntoArray_toList]
    rfl
  · rw [encapsulate_eq, MlKemPrimitive.encapsulateTyped_ekToBytes] at he
    cases he
    exact fun h => hct m (Mathlib.Vector.toList_injective h)

/-- The lengths of what a generated key pair holds and encapsulates: the catalog's
public-key and ciphertext sizes, and the 64-byte seed as secret key. -/
theorem lengths_of_generate (hg : generate S v seed = .ok kp) (m : ByteArr 32) :
    kp.publicKey.length = v.keySizes.1 ∧ kp.secretKey.length = 64 ∧
      ∃ enc, kp.encapsulate S m = .ok enc ∧ enc.ciphertext.length = v.ciphertextSize := by
  rw [generate_ok] at hg; cases hg
  exact ⟨by simp [v.keySizes_eq], by simp, _,
    (encapsulate_eq S _ m).trans ((S.primitive v).encapsulateTyped_ekToBytes _ _ m),
    by simp [v.ciphertextSize_eq]⟩

end Generated

theorem mlKem_round_trip (S : MlKemSuite) (v : MlKemVariant) (seed : ByteArr 64)
    (m : ByteArr 32) :
    ∃ kp enc, generate S v seed = .ok kp ∧ kp.encapsulate S m = .ok enc ∧
      kp.decapsulate S enc.ciphertext = .ok enc.sharedSecret :=
  ⟨_, encapsulate_decapsulate (generate_ok S v seed) m |>.imp fun _ h => ⟨generate_ok S v seed, h⟩⟩

theorem mlKem_decapsulate_fails_only_on_length (S : MlKemSuite) (v : MlKemVariant)
    (seed : ByteArr 64) :
    ∃ kp, generate S v seed = .ok kp ∧
      (∀ c, errorOf (kp.decapsulate S c) =
        if c.length = v.ciphertextSize then none
        else some (.decapsulation
          (toString v ++ " decapsulation failed (ct " ++ toString c.length ++ " bytes)"))) ∧
      ∃ c s, kp.decapsulate S c = .ok s ∧
        ∀ m enc, kp.encapsulate S m = .ok enc → enc.ciphertext ≠ c :=
  ⟨_, generate_ok S v seed, decapsulate_errorOf (generate_ok S v seed),
    exists_foreign_ciphertext (generate_ok S v seed)⟩

end MlKemKeyPair

/-- A degenerate instance of the crate's interface, with constant keys and secrets:
the laws are consistent, so no statement over every `MlKemPrimitive p` is vacuous. -/
def MlKemPrimitive.constant (p : MlKemParams) : MlKemPrimitive p where
  DecapsulationKey := Unit
  EncapsulationKey := Unit
  generateKeypair _ := ((), ())
  ekToBytes _ := Mathlib.Vector.replicate _ 0
  dkToBytes _ := Mathlib.Vector.replicate _ 0
  ekNew _ := some ()
  dkNew _ := ()
  encapsulate _ _ := (Mathlib.Vector.replicate _ 0, Mathlib.Vector.replicate _ 0)
  decapsulate _ _ := Mathlib.Vector.replicate _ 0
  ekNew_ekToBytes _ := rfl
  dkNew_dkToBytes _ := rfl
  decapsulate_encapsulate _ _ := rfl

def MlKemSuite.constant : MlKemSuite := ⟨.constant _, .constant _, .constant _⟩

theorem mlKem_decapsulate_answers_foreign_ciphertext :
    ¬ ∀ (S : MlKemSuite) (v : MlKemVariant) (seed : ByteArr 64) (kp : MlKemKeyPair)
      (c s : Bytes), MlKemKeyPair.generate S v seed = .ok kp → kp.decapsulate S c = .ok s →
        ∃ m enc, kp.encapsulate S m = .ok enc ∧ enc.ciphertext = c ∧ enc.sharedSecret = s := by
  intro h
  have hg := MlKemKeyPair.generate_ok .constant .mlKem512 (Mathlib.Vector.replicate _ 0)
  obtain ⟨c, s, hd, hfresh⟩ := MlKemKeyPair.exists_foreign_ciphertext hg
  obtain ⟨m, enc, he, hc, -⟩ := h _ _ _ _ c s hg hd
  exact hfresh m enc he hc

end Qsgw
