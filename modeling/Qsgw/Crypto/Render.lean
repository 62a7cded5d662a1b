import Qsgw.Crypto.Hybrid
import Qsgw.Crypto.MlDsa
import Qsgw.Crypto.SlhDsa
import Qsgw.Decimal

/-!
# What the derived `Serialize`, `Deserialize` and `Debug` impls render

Every secret-bearing type derives all three. Serialization goes through serde's data
model (`SerValue`): a struct is its name and its fields in declaration order, without
the `#[serde(skip)]` ones, and a unit variant is its enum's name and its own.
Deserialization reads the fields back by name and gives each skipped field its
`Default`. The derived `Debug` knows nothing of serde's attributes: it prints every
field, as `Name { field: value, .. }`, and a byte vector as its decimal bytes, from
which the vector can be read back: the last section shows that the `Debug` text of
each type determines its secret fields.
-/

namespace Qsgw

/-- serde's data model, as far as the derived impls of these types reach. -/
inductive SerValue where
  | u8 (b : UInt8)
  | seq (items : List SerValue)
  | unitVariant (enum variant : String)
  | struct (name : String) (fields : List (String × SerValue))

namespace SerValue

/-- How a `Vec<u8>` serializes: a sequence of `u8`. -/
def bytes (b : Bytes) : SerValue := .seq (b.map .u8)

def toBytes? : SerValue → Option Bytes
  | .seq items => items.mapM fun
    | .u8 b => some b
    | _ => none
  | _ => none

@[simp] theorem toBytes?_bytes (b : Bytes) : (bytes b).toBytes? = some b := by
  induction b with
  | nil => rfl
  | cons x xs ih =>
    simp only [bytes, toBytes?, List.map_cons, List.mapM_cons] at ih ⊢
    rw [ih]; rfl

/-- A field of a struct, looked up by name as the derived visitor does. -/
def field? (key : String) : SerValue → Option SerValue
  | .struct _ fields => fields.lookup key
  | _ => none

end SerValue

/-- `{:?}` of a `Vec<u8>`: `[1, 2, 3]`. -/
def debugBytes (b : Bytes) : String := "[" ++ ", ".intercalate (b.map toString) ++ "]"

/-- `{:?}` of an `Option`. -/
def debugOption (o : Option String) : String :=
  match o with
  | some s => "Some(" ++ s ++ ")"
  | none => "None"

/-- What `#[derive(Debug)]` prints for a struct with named fields. -/
def debugStruct (name : String) (fields : List (String × String)) : String :=
  name ++ " \x7b " ++ ", ".intercalate (fields.map fun f => f.1 ++ ": " ++ f.2) ++ " \x7d"

def MlKemVariant.ident : MlKemVariant → String
  | .mlKem512 => "MlKem512"
  | .mlKem768 => "MlKem768"
  | .mlKem1024 => "MlKem1024"

def MlDsaVariant.ident : MlDsaVariant → String
  | .mlDsa44 => "MlDsa44"
  | .mlDsa65 => "MlDsa65"
  | .mlDsa87 => "MlDsa87"

def SlhDsaVariant.ident : SlhDsaVariant → String
  | .sha2_128s => "Sha2_128s"
  | .sha2_128f => "Sha2_128f"
  | .sha2_192s => "Sha2_192s"
  | .sha2_192f => "Sha2_192f"
  | .sha2_256s => "Sha2_256s"
  | .sha2_256f => "Sha2_256f"

def HybridVariant.ident : HybridVariant → String
  | .x25519MlKem768 => "X25519MlKem768"
  | .ed25519MlDsa65 => "Ed25519MlDsa65"

/-- The derived variant visitor: the variant whose identifier was read. -/
def variantOf? {α : Type} (all : List α) (ident : α → String) : SerValue → Option α
  | .unitVariant _ s => all.find? fun v => ident v == s
  | _ => none

def MlKemVariant.deserialize : SerValue → Option MlKemVariant :=
  variantOf? [.mlKem512, .mlKem768, .mlKem1024] ident

def MlDsaVariant.deserialize : SerValue → Option MlDsaVariant :=
  variantOf? [.mlDsa44, .mlDsa65, .mlDsa87] ident

def SlhDsaVariant.deserialize : SerValue → Option SlhDsaVariant :=
  variantOf? [.sha2_128s, .sha2_128f, .sha2_192s, .sha2_192f, .sha2_256s, .sha2_256f] ident

def HybridVariant.deserialize : SerValue → Option HybridVariant :=
  variantOf? [.x25519MlKem768, .ed25519MlDsa65] ident

@[simp] theorem MlKemVariant.deserialize_ident (v : MlKemVariant) (e : String) :
    deserialize (.unitVariant e v.ident) = some v := by
  cases v <;> rfl

@[simp] theorem MlDsaVariant.deserialize_ident (v : MlDsaVariant) (e : String) :
    deserialize (.unitVariant e v.ident) = some v := by
  cases v <;> rfl

@[simp] theorem SlhDsaVariant.deserialize_ident (v : SlhDsaVariant) (e : String) :
    deserialize (.unitVariant e v.ident) = some v := by
  cases v <;> rfl

@[simp] theorem HybridVariant.deserialize_ident (v : HybridVariant) (e : String) :
    deserialize (.unitVariant e v.ident) = some v := by
  cases v <;> rfl

namespace MlKemKeyPair

def serialize (kp : MlKemKeyPair) : SerValue :=
  .struct "MlKemKeyPair"
    [("variant", .unitVariant "MlKemVariant" kp.variant.ident), ("public_key", .bytes kp.publicKey)]

def deserialize (v : SerValue) : Option MlKemKeyPair := do
  let variant ← (v.field? "variant").bind MlKemVariant.deserialize
  let publicKey ← (v.field? "public_key").bind SerValue.toBytes?
  pure ⟨variant, publicKey, []⟩

def debug (kp : MlKemKeyPair) : String :=
  debugStruct "MlKemKeyPair" [("variant", kp.variant.ident),
    ("public_key", debugBytes kp.publicKey), ("secret_key", debugBytes kp.secretKey)]

theorem deserialize_serialize (kp : MlKemKeyPair) :
    deserialize kp.serialize = some { kp with secretKey := [] } := by
  simp [serialize, deserialize, SerValue.field?, List.lookup_cons]

end MlKemKeyPair

namespace MlKemEncapsulated

def serialize (enc : MlKemEncapsulated) : SerValue :=
  .struct "MlKemEncapsulated" [("ciphertext", .bytes enc.ciphertext)]

def deserialize (v : SerValue) : Option MlKemEncapsulated := do
  let ciphertext ← (v.field? "ciphertext").bind SerValue.toBytes?
  pure ⟨ciphertext, []⟩

def debug (enc : MlKemEncapsulated) : String :=
  debugStruct "MlKemEncapsulated"
    [("ciphertext", debugBytes enc.ciphertext), ("shared_secret", debugBytes enc.sharedSecret)]

theorem deserialize_serialize (enc : MlKemEncapsulated) :
    deserialize enc.serialize = some { enc with sharedSecret := [] } := by
  simp [serialize, deserialize, SerValue.field?, List.lookup_cons]

end MlKemEncapsulated

namespace MlDsaKeyPair

def serialize (kp : MlDsaKeyPair) : SerValue :=
  .struct "MlDsaKeyPair"
    [("variant", .unitVariant "MlDsaVariant" kp.variant.ident), ("public_key", .bytes kp.publicKey)]

def deserialize (v : SerValue) : Option MlDsaKeyPair := do
  let variant ← (v.field? "variant").bind MlDsaVariant.deserialize
  let publicKey ← (v.field? "public_key").bind SerValue.toBytes?
  pure ⟨variant, publicKey, []⟩

def debug (kp : MlDsaKeyPair) : String :=
  debugStruct "MlDsaKeyPair" [("variant", kp.variant.ident),
    ("public_key", debugBytes kp.publicKey), ("secret_key", debugBytes kp.secretKey)]

theorem deserialize_serialize (kp : MlDsaKeyPair) :
    deserialize kp.serialize = some { kp with secretKey := [] } := by
  simp [serialize, deserialize, SerValue.field?, List.lookup_cons]

end MlDsaKeyPair

namespace SlhDsaKeyPair

def serialize (kp : SlhDsaKeyPair) : SerValue :=
  .struct "SlhDsaKeyPair"
    [("variant", .unitVariant "SlhDsaVariant" kp.variant.ident), ("public_key", .bytes kp.publicKey)]

def deserialize (v : SerValue) : Option SlhDsaKeyPair := do
  let variant ← (v.field? "variant").bind SlhDsaVariant.deserialize
  let publicKey ← (v.field? "public_key").bind SerValue.toBytes?
  pure ⟨variant, publicKey, []⟩

def debug (kp : SlhDsaKeyPair) : String :=
  debugStruct "SlhDsaKeyPair" [("variant", kp.variant.ident),
    ("public_key", debugBytes kp.publicKey), ("secret_key", debugBytes kp.secretKey)]

theorem deserialize_serialize (kp : SlhDsaKeyPair) :
    deserialize kp.serialize = some { kp with secretKey := [] } := by
  simp [serialize, deserialize, SerValue.field?, List.lookup_cons]

end SlhDsaKeyPair

namespace HybridKemKeyPair

def serialize (kp : HybridKemKeyPair) : SerValue :=
  .struct "HybridKemKeyPair" [("variant", .unitVariant "HybridVariant" kp.variant.ident),
    ("classical_public", .bytes kp.classicalPublic), ("pqc_keypair", kp.pqcKeypair.serialize)]

def deserialize (v : SerValue) : Option HybridKemKeyPair := do
  let variant ← (v.field? "variant").bind HybridVariant.deserialize
  let classicalPublic ← (v.field? "classical_public").bind SerValue.toBytes?
  let pqcKeypair ← (v.field? "pqc_keypair").bind MlKemKeyPair.deserialize
  pure ⟨variant, classicalPublic, none, pqcKeypair⟩

def debug (kp : HybridKemKeyPair) : String :=
  debugStruct "HybridKemKeyPair" [("variant", kp.variant.ident),
    ("classical_public", debugBytes kp.classicalPublic),
    ("classical_secret", debugOption (kp.classicalSecret.map debugBytes)),
    ("pqc_keypair", kp.pqcKeypair.debug)]

/-- The round trip drops both secrets: the classical one and the nested ML-KEM one. -/
theorem deserialize_serialize (kp : HybridKemKeyPair) :
    deserialize kp.serialize =
      some { kp with classicalSecret := none, pqcKeypair := { kp.pqcKeypair with secretKey := [] } } := by
  simp [serialize, deserialize, SerValue.field?, List.lookup_cons, MlKemKeyPair.deserialize_serialize]

end HybridKemKeyPair

namespace HybridEncapsulated

def serialize (enc : HybridEncapsulated) : SerValue :=
  .struct "HybridEncapsulated" [("classical_public", .bytes enc.classicalPublic),
    ("pqc_ciphertext", .bytes enc.pqcCiphertext)]

def deserialize (v : SerValue) : Option HybridEncapsulated := do
  let classicalPublic ← (v.field? "classical_public").bind SerValue.toBytes?
  let pqcCiphertext ← (v.field? "pqc_ciphertext").bind SerValue.toBytes?
  pure ⟨classicalPublic, pqcCiphertext, []⟩

def debug (enc : HybridEncapsulated) : String :=
  debugStruct "HybridEncapsulated" [("classical_public", debugBytes enc.classicalPublic),
    ("pqc_ciphertext", debugBytes enc.pqcCiphertext),
    ("shared_secret", debugBytes enc.sharedSecret)]

theorem deserialize_serialize (enc : HybridEncapsulated) :
    deserialize enc.serialize = some { enc with sharedSecret := [] } := by
  simp [serialize, deserialize, SerValue.field?, List.lookup_cons]

end HybridEncapsulated

theorem debug_prints_secret_key :
    MlKemKeyPair.serialize ⟨.mlKem512, [], [0]⟩ = MlKemKeyPair.serialize ⟨.mlKem512, [], [1]⟩ ∧
      MlKemKeyPair.debug ⟨.mlKem512, [], [0]⟩ ≠ MlKemKeyPair.debug ⟨.mlKem512, [], [1]⟩ :=
  ⟨rfl, by decide⟩

/-- A deserialized ML-KEM key pair fails with `Decapsulation`, not `InvalidKeyMaterial`. -/
theorem deserialized_mlKem_key_not_invalid_key_material :
    ¬ ∀ (S : MlKemSuite) (x y : MlKemKeyPair) (c : Bytes),
      MlKemKeyPair.deserialize x.serialize = some y →
        ∃ msg, y.decapsulate S c = .error (.invalidKeyMaterial msg) := by
  intro h
  obtain ⟨msg, hmsg⟩ := h .constant ⟨.mlKem512, [], []⟩ _ [] (MlKemKeyPair.deserialize_serialize _)
  rw [MlKemKeyPair.decapsulate_eq, MlKemPrimitive.decapsulateTyped_of_length_ne _ _ (by decide)]
    at hmsg
  cases hmsg

theorem deserialized_key_material_fails_closed :
    (∀ (S : MlKemSuite) (x : MlKemKeyPair) (c : Bytes),
      (MlKemKeyPair.deserialize x.serialize).map (fun y => y.decapsulate S c) =
        some (.error (.decapsulation
          ("invalid " ++ toString x.variant ++ " decapsulation key (" ++ toString 0 ++ " bytes)")))) ∧
    (∀ (S : MlDsaSuite) (x : MlDsaKeyPair) (m : Bytes),
      (MlDsaKeyPair.deserialize x.serialize).map (fun y => y.sign S m) =
        some (.error (.signing ("invalid ML-DSA seed (" ++ toString 0 ++ " bytes, expected 32)")))) ∧
    (∀ (S : SlhDsaSuite) (x : SlhDsaKeyPair) (m : Bytes) (rng : OsRng),
      (SlhDsaKeyPair.deserialize x.serialize).map (fun y => y.sign S m rng) =
        some (.error (.signing ("invalid SLH-DSA signing key (" ++ toString 0 ++ " bytes)")))) ∧
    (∀ (P : HybridPrimitives) (x : HybridKemKeyPair) (e c : Bytes),
      (HybridKemKeyPair.deserialize x.serialize).map (fun y => y.decapsulate P e c) =
        some (.error (.invalidKeyMaterial "secret key not available"))) := by
  refine ⟨fun S x c => ?_, fun S x m => ?_, fun S x m rng => ?_, fun P x e c => ?_⟩
  · rw [MlKemKeyPair.deserialize_serialize, Option.map_some', MlKemKeyPair.decapsulate_eq,
      MlKemPrimitive.decapsulateTyped_of_length_ne _ _ (by simp)]
    rfl
  · rw [MlDsaKeyPair.deserialize_serialize, Option.map_some', MlDsaKeyPair.sign_eq,
      MlDsaPrimitive.signImpl_of_length_ne _ (by simp)]
    rfl
  · rw [SlhDsaKeyPair.deserialize_serialize, Option.map_some', SlhDsaKeyPair.sign_eq,
      SlhDsaPrimitive.signTyped_of_length_ne _
        (show List.length ([] : Bytes) ≠ _ from Nat.ne_of_lt x.variant.skSize_pos)]
    rfl
  · rw [HybridKemKeyPair.deserialize_serialize, Option.map_some',
      HybridKemKeyPair.decapsulate_of_cleared P rfl]

/-- A serde round trip keeps every public-key operation: encapsulation (ML-KEM and
hybrid) and verification (ML-DSA and SLH-DSA) give on the deserialized value what they
give on the original, for every argument. A published key pair is a working public key. -/
theorem serde_round_trip_keeps_public_operations :
    (∀ (S : MlKemSuite) (x : MlKemKeyPair) (m : ByteArr 32),
      (MlKemKeyPair.deserialize x.serialize).map (fun y => y.encapsulate S m) =
        some (x.encapsulate S m)) ∧
    (∀ (S : MlDsaSuite) (x : MlDsaKeyPair) (m : Bytes) (sig : MlDsaSignature),
      (MlDsaKeyPair.deserialize x.serialize).map (fun y => y.verify S m sig) =
        some (x.verify S m sig)) ∧
    (∀ (S : SlhDsaSuite) (x : SlhDsaKeyPair) (m : Bytes) (sig : SlhDsaSignature),
      (SlhDsaKeyPair.deserialize x.serialize).map (fun y => y.verify S m sig) =
        some (x.verify S m sig)) ∧
    (∀ (P : HybridPrimitives) (x : HybridKemKeyPair) (e m : ByteArr 32),
      (HybridKemKeyPair.deserialize x.serialize).map (fun y => y.encapsulate P e m) =
        some (x.encapsulate P e m)) := by
  refine ⟨fun S x m => ?_, fun S x m sig => ?_, fun S x m sig => ?_, fun P x e m => ?_⟩
  · rw [MlKemKeyPair.deserialize_serialize, Option.map_some', MlKemKeyPair.encapsulate_eq,
      MlKemKeyPair.encapsulate_eq]
  · rw [MlDsaKeyPair.deserialize_serialize, Option.map_some', MlDsaKeyPair.verify_eq,
      MlDsaKeyPair.verify_eq]
  · rw [SlhDsaKeyPair.deserialize_serialize, Option.map_some', SlhDsaKeyPair.verify_eq,
      SlhDsaKeyPair.verify_eq]
  · rw [HybridKemKeyPair.deserialize_serialize, Option.map_some']
    simp only [HybridKemKeyPair.encapsulate, MlKemKeyPair.encapsulate_eq]

theorem intercalate_go_data (s acc : String) (l : List String) :
    (String.intercalate.go acc s l).data = acc.data ++ (l.map fun a => s.data ++ a.data).flatten := by
  induction l generalizing acc with
  | nil => simp [String.intercalate.go]
  | cons a as ih => simp [String.intercalate.go, ih, List.append_assoc]

@[simp] theorem intercalate_cons_data (s a : String) (as : List String) :
    (s.intercalate (a :: as)).data = a.data ++ (as.map fun b => s.data ++ b.data).flatten :=
  intercalate_go_data s a as

/-- A run of digits followed by text that does not start with a digit splits off the
same way from two texts. -/
theorem digitRun_append_inj {A B T₁ T₂ : List Char}
    (hA : ∀ c ∈ A, 48 ≤ c.toNat ∧ c.toNat < 58) (hB : ∀ c ∈ B, 48 ≤ c.toNat ∧ c.toNat < 58)
    (h₁ : ∀ t ∈ T₁.head?, ¬ (48 ≤ t.toNat ∧ t.toNat < 58))
    (h₂ : ∀ t ∈ T₂.head?, ¬ (48 ≤ t.toNat ∧ t.toNat < 58))
    (h : A ++ T₁ = B ++ T₂) : A = B ∧ T₁ = T₂ := by
  have run : ∀ {X T : List Char}, (∀ c ∈ X, 48 ≤ c.toNat ∧ c.toNat < 58) →
      (∀ t ∈ T.head?, ¬ (48 ≤ t.toNat ∧ t.toNat < 58)) →
      (X ++ T).takeWhile (fun c => decide (48 ≤ c.toNat ∧ c.toNat < 58)) = X := by
    intro X T hX hT
    rw [List.takeWhile_append_of_pos (by simpa using hX)]
    cases T with
    | nil => simp
    | cons t ts => simpa using hT t rfl
  have hAB : A = B := by rw [← run hA h₁, h, run hB h₂]
  subst hAB
  exact ⟨rfl, List.append_cancel_left h⟩

theorem sepTail_head (xs : Bytes) (R : List Char) :
    ∀ t ∈ ((xs.map fun y => ", ".data ++ (toString y).data).flatten ++ ']' :: R).head?,
      ¬ (48 ≤ t.toNat ∧ t.toNat < 58) := by
  cases xs <;> simp

theorem sepTail_append_inj {xs ys : Bytes} {R₁ R₂ : List Char}
    (h : (xs.map fun y => ", ".data ++ (toString y).data).flatten ++ ']' :: R₁ =
      (ys.map fun y => ", ".data ++ (toString y).data).flatten ++ ']' :: R₂) : xs = ys ∧ R₁ = R₂ := by
  induction xs generalizing ys with
  | nil => cases ys <;> simp_all
  | cons x xs ih =>
    cases ys with
    | nil => simp at h
    | cons y ys =>
      simp only [List.map_cons, List.flatten_cons, List.append_assoc] at h
      obtain ⟨hd, ht⟩ := digitRun_append_inj (uint8_digits x) (uint8_digits y) (sepTail_head xs R₁)
        (sepTail_head ys R₂) (by simpa using h)
      obtain ⟨rfl, rfl⟩ := ih ht
      exact ⟨by rw [toString_uint8_inj hd], rfl⟩

/-- `{:?}` of a byte vector can be read back, whatever text follows it. -/
theorem debugBytes_append_inj {b₁ b₂ : Bytes} {R₁ R₂ : List Char}
    (h : (debugBytes b₁).data ++ R₁ = (debugBytes b₂).data ++ R₂) : b₁ = b₂ ∧ R₁ = R₂ := by
  cases b₁ with
  | nil =>
    cases b₂ with
    | nil => simpa [debugBytes] using h
    | cons y ys =>
      have := (@digitRun_append_inj [] _ (']' :: R₁) _ (by simp) (uint8_digits y) (by simp)
        (sepTail_head ys R₂) (by simpa [debugBytes] using h)).1
      exact absurd this.symm (uint8_digits_ne_nil y)
  | cons x xs =>
    cases b₂ with
    | nil =>
      have := (@digitRun_append_inj _ [] _ (']' :: R₂) (uint8_digits x) (by simp) (sepTail_head xs R₁)
        (by simp) (by simpa [debugBytes] using h)).1
      exact absurd this (uint8_digits_ne_nil x)
    | cons y ys =>
      obtain ⟨hd, ht⟩ := digitRun_append_inj (uint8_digits x) (uint8_digits y) (sepTail_head xs R₁)
        (sepTail_head ys R₂) (by simpa [debugBytes] using h)
      obtain ⟨rfl, rfl⟩ := sepTail_append_inj ht
      exact ⟨by rw [toString_uint8_inj hd], rfl⟩

theorem debugBytes_data_inj {b₁ b₂ : Bytes} (h : (debugBytes b₁).data = (debugBytes b₂).data) :
    b₁ = b₂ :=
  (debugBytes_append_inj (show (debugBytes b₁).data ++ [] = (debugBytes b₂).data ++ [] by rw [h])).1

/-- A struct whose last field prints as a byte vector: the other fields fixed, its
`Debug` text determines that vector. -/
theorem debugStruct_last_inj (name k : String) (fields : List (String × String)) {b₁ b₂ : Bytes}
    (h : debugStruct name (fields ++ [(k, debugBytes b₁)]) =
      debugStruct name (fields ++ [(k, debugBytes b₂)])) : b₁ = b₂ := by
  have := congrArg String.data h
  cases fields <;> simp [debugStruct] at this <;>
    exact debugBytes_data_inj (by simpa using this)

theorem debugOption_append_inj {o₁ o₂ : Option Bytes} {R₁ R₂ : List Char}
    (h : (debugOption (o₁.map debugBytes)).data ++ R₁ = (debugOption (o₂.map debugBytes)).data ++ R₂) :
    o₁ = o₂ ∧ R₁ = R₂ := by
  cases o₁ <;> cases o₂ <;> simp [debugOption] at h ⊢
  · exact h
  · obtain ⟨rfl, hr⟩ := debugBytes_append_inj h
    exact ⟨rfl, List.cons_injective hr⟩

theorem MlKemKeyPair.debug_secretKey_injective (kp : MlKemKeyPair) {s₁ s₂ : Bytes}
    (h : MlKemKeyPair.debug { kp with secretKey := s₁ } = MlKemKeyPair.debug { kp with secretKey := s₂ }) :
    s₁ = s₂ :=
  debugStruct_last_inj _ _ [_, _] h

theorem MlKemEncapsulated.debug_sharedSecret_injective (enc : MlKemEncapsulated) {s₁ s₂ : Bytes}
    (h : MlKemEncapsulated.debug { enc with sharedSecret := s₁ } =
      MlKemEncapsulated.debug { enc with sharedSecret := s₂ }) : s₁ = s₂ :=
  debugStruct_last_inj _ _ [_] h

theorem MlDsaKeyPair.debug_secretKey_injective (kp : MlDsaKeyPair) {s₁ s₂ : Bytes}
    (h : MlDsaKeyPair.debug { kp with secretKey := s₁ } = MlDsaKeyPair.debug { kp with secretKey := s₂ }) :
    s₁ = s₂ :=
  debugStruct_last_inj _ _ [_, _] h

theorem SlhDsaKeyPair.debug_secretKey_injective (kp : SlhDsaKeyPair) {s₁ s₂ : Bytes}
    (h : SlhDsaKeyPair.debug { kp with secretKey := s₁ } =
      SlhDsaKeyPair.debug { kp with secretKey := s₂ }) : s₁ = s₂ :=
  debugStruct_last_inj _ _ [_, _] h

theorem HybridEncapsulated.debug_sharedSecret_injective (enc : HybridEncapsulated) {s₁ s₂ : Bytes}
    (h : HybridEncapsulated.debug { enc with sharedSecret := s₁ } =
      HybridEncapsulated.debug { enc with sharedSecret := s₂ }) : s₁ = s₂ :=
  debugStruct_last_inj _ _ [_, _] h

theorem HybridKemKeyPair.debug_secrets_injective (kp : HybridKemKeyPair) {c₁ c₂ : Option Bytes}
    {s₁ s₂ : Bytes}
    (h : HybridKemKeyPair.debug
        { kp with classicalSecret := c₁, pqcKeypair := { kp.pqcKeypair with secretKey := s₁ } } =
      HybridKemKeyPair.debug
        { kp with classicalSecret := c₂, pqcKeypair := { kp.pqcKeypair with secretKey := s₂ } }) :
    c₁ = c₂ ∧ s₁ = s₂ := by
  have := congrArg String.data h
  simp only [HybridKemKeyPair.debug, debugStruct, String.data_append, intercalate_cons_data,
    List.map_cons, List.map_nil, List.flatten_cons, List.flatten_nil, List.append_assoc,
    List.append_nil, List.append_cancel_left_eq] at this
  obtain ⟨hc, hr⟩ := debugOption_append_inj this
  simp only [List.append_cancel_left_eq, List.append_cancel_right_eq] at hr
  exact ⟨hc, MlKemKeyPair.debug_secretKey_injective _ (String.ext hr)⟩

/-- The `Debug` text of each of the six secret-bearing types determines its secret
fields: two values that differ only in their secrets print differently, so a log line
carries the secret itself. -/
theorem debug_determines_secrets :
    (∀ kp : MlKemKeyPair,
      Function.Injective fun s : Bytes => MlKemKeyPair.debug { kp with secretKey := s }) ∧
    (∀ enc : MlKemEncapsulated,
      Function.Injective fun s : Bytes => MlKemEncapsulated.debug { enc with sharedSecret := s }) ∧
    (∀ kp : MlDsaKeyPair,
      Function.Injective fun s : Bytes => MlDsaKeyPair.debug { kp with secretKey := s }) ∧
    (∀ kp : SlhDsaKeyPair,
      Function.Injective fun s : Bytes => SlhDsaKeyPair.debug { kp with secretKey := s }) ∧
    (∀ kp : HybridKemKeyPair,
      Function.Injective fun cs : Option Bytes × Bytes => HybridKemKeyPair.debug
        { kp with classicalSecret := cs.1, pqcKeypair := { kp.pqcKeypair with secretKey := cs.2 } }) ∧
    (∀ enc : HybridEncapsulated,
      Function.Injective fun s : Bytes => HybridEncapsulated.debug { enc with sharedSecret := s }) :=
  ⟨fun kp _ _ h => MlKemKeyPair.debug_secretKey_injective kp h,
    fun enc _ _ h => MlKemEncapsulated.debug_sharedSecret_injective enc h,
    fun kp _ _ h => MlDsaKeyPair.debug_secretKey_injective kp h,
    fun kp _ _ h => SlhDsaKeyPair.debug_secretKey_injective kp h,
    fun kp _ _ h => Prod.ext_iff.mpr (HybridKemKeyPair.debug_secrets_injective kp h),
    fun enc _ _ h => HybridEncapsulated.debug_sharedSecret_injective enc h⟩

end Qsgw
