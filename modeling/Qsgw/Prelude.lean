import Mathlib.Data.Fintype.BigOperators

/-!
# Rust values the model is written over

`Vec<u8>` and `&[u8]` are `List UInt8`. The fixed-size arrays of the code and of the
crates it calls (`[u8; 32]`, `Array<u8, N>`) are `Mathlib.Vector UInt8 n`, so that
their length is part of their type, as it is in Rust. A `?` after `.map_err(..)` on a
conversion that can fail one way only is `okOr`, and the `do` blocks of the model are
read back with the two bind equations below.
-/

namespace Qsgw

/-- `Vec<u8>` and `&[u8]`. -/
abbrev Bytes := List UInt8

/-- A fixed-size byte array `[u8; n]`. -/
abbrev ByteArr (n : Nat) := Mathlib.Vector UInt8 n

/-- `u8` has 256 values. -/
instance fintypeUInt8 : Fintype UInt8 :=
  Fintype.ofEquiv (Fin 256)
    ⟨fun f => ⟨⟨f⟩⟩, fun x => x.toBitVec.toFin, fun _ => rfl, fun ⟨⟨_⟩⟩ => rfl⟩

theorem card_uint8 : Fintype.card UInt8 = 256 := by
  simp only [Fintype.ofEquiv_card, Fintype.card_fin]

theorem card_byteArr (n : Nat) : Fintype.card (ByteArr n) = 256 ^ n := by
  rw [card_vector, card_uint8]

/-- A byte array of `m` bytes cannot take as many values as one of `n > m` bytes:
no function out of the shorter arrays reaches every longer one. -/
theorem byteArr_not_surjective {m n : Nat} (h : m < n) (f : ByteArr m → ByteArr n) :
    ¬ Function.Surjective f := fun hf => by
  have hcard := Fintype.card_le_of_surjective f hf
  rw [card_byteArr, card_byteArr] at hcard
  exact absurd hcard (Nat.not_le.mpr (Nat.pow_lt_pow_right (by decide) h))

/-- `<[u8; n]>::try_from(&[u8])` (and every `try_into` of a slice into an array):
only a slice of exactly `n` bytes converts. -/
def tryIntoArray (n : Nat) (b : Bytes) : Option (ByteArr n) :=
  if h : b.length = n then some ⟨b, h⟩ else none

@[simp] theorem tryIntoArray_toList {n : Nat} (a : ByteArr n) :
    tryIntoArray n a.toList = some a := by
  simp [tryIntoArray, Mathlib.Vector.toList_length]

theorem tryIntoArray_eq_none {n : Nat} {b : Bytes} :
    tryIntoArray n b = none ↔ b.length ≠ n := by
  unfold tryIntoArray; split <;> simp_all

theorem tryIntoArray_eq_some {n : Nat} {b : Bytes} {a : ByteArr n} :
    tryIntoArray n b = some a ↔ a.toList = b := by
  unfold tryIntoArray
  split
  · next h => exact ⟨fun e => by cases e; rfl, fun e => congrArg some (Subtype.ext e.symm)⟩
  · next h => exact ⟨fun e => (nomatch e), fun e => absurd (e ▸ a.toList_length) h⟩

theorem tryIntoArray_of_length {n : Nat} {b : Bytes} (h : b.length = n) :
    ∃ a : ByteArr n, tryIntoArray n b = some a ∧ a.toList = b :=
  ⟨⟨b, h⟩, by simp [tryIntoArray, h], rfl⟩

/-- The bytes the OS CSPRNG (`getrandom::fill`, `PqcRng`) will produce, in order. -/
abbrev OsRng := Nat → UInt8

/-- The first `n` of them: what one `fill` of an `n`-byte buffer draws. -/
def OsRng.fill (rng : OsRng) (n : Nat) : ByteArr n := Mathlib.Vector.ofFn fun i => rng i

/-- `Option::ok_or`: the shape of `.map_err(|_| e)?` on a conversion whose only
failure the code reports as `e`. -/
def okOr {ε α : Type} (o : Option α) (e : ε) : Except ε α :=
  match o with
  | some a => .ok a
  | none => .error e

@[simp] theorem okOr_some {ε α : Type} (a : α) (e : ε) : okOr (some a) e = .ok a := rfl
@[simp] theorem okOr_none {ε α : Type} (e : ε) : okOr (none : Option α) e = .error e := rfl

@[simp] theorem ok_bind {ε α β : Type} (a : α) (f : α → Except ε β) :
    (Except.ok a >>= f) = f a := rfl
@[simp] theorem error_bind {ε α β : Type} (e : ε) (f : α → Except ε β) :
    (Except.error e >>= f) = Except.error e := rfl

/-- The error channel of a result: `Err(e)` is `some e`, every `Ok` is `none`. -/
def errorOf {ε α : Type} : Except ε α → Option ε
  | .error e => some e
  | .ok _ => none

@[simp] theorem errorOf_ok {ε α : Type} (a : α) : errorOf (Except.ok a : Except ε α) = none := rfl
@[simp] theorem errorOf_error {ε α : Type} (e : ε) :
    errorOf (Except.error e : Except ε α) = some e := rfl

@[simp] theorem errorOf_map {ε α β : Type} (f : α → β) (x : Except ε α) :
    errorOf (x.map f) = errorOf x := by
  cases x <;> rfl

end Qsgw
