import Qsgw.Prelude
import Mathlib.Tactic.IntervalCases
import Mathlib.Data.Nat.Digits

/-!
# Decimal integers

How Rust writes an unsigned integer with `{}` and `{:?}` (its decimal digits, as
Lean's `toString` writes them) and how `u16::from_str` reads one back. The read-back
lemma is what lets a port survive `format!` and a parse, and what makes the `{:?}` of a
byte vector recoverable.
-/

namespace Qsgw

/-- `char::to_digit(10)` on the byte of an ASCII character. -/
def digitValue (c : Char) : Option Nat :=
  if 48 ≤ c.toNat ∧ c.toNat < 58 then some (c.toNat - 48) else none

/-- One round of `u16::from_str`'s loop: `checked_mul(10)`, then `checked_add`. -/
def u16Step (acc : Nat) (c : Char) : Option Nat := do
  let d ← digitValue c
  if 10 * acc + d < 65536 then some (10 * acc + d) else none

/-- The sign handling of `u16::from_str`: a lone sign is rejected, a leading `+` is
skipped. -/
def stripPlus : List Char → Option (List Char)
  | [] => none
  | ['+'] => none
  | '+' :: ds => some ds
  | ds => some ds

/-- `u16::from_str`. -/
def parseU16 (s : List Char) : Option UInt16 := do
  let digits ← stripPlus s
  let n ← digits.foldlM u16Step 0
  pure n.toUInt16

theorem digitChar_toNat {d : Nat} (h : d < 10) : (Nat.digitChar d).toNat = 48 + d := by
  interval_cases d <;> rfl

theorem u16Step_digitChar {acc d : Nat} (hd : d < 10) (h : 10 * acc + d < 65536) :
    u16Step acc (Nat.digitChar d) = some (10 * acc + d) := by
  have hdig : 48 ≤ 48 + d ∧ 48 + d < 58 := by omega
  simp only [u16Step, digitValue, digitChar_toNat hd, if_pos hdig, Nat.add_sub_cancel_left]
  exact if_pos h

/-- `Nat.toDigitsCore 10` puts the decimal digits of `n` in front of `ds`, and the loop
of `u16::from_str` reads them back as `n`. -/
theorem toDigitsCore_decimal (fuel n : Nat) (ds : List Char) (hf : n < fuel) (hn : n < 65536) :
    ∃ L, Nat.toDigitsCore 10 fuel n ds = L ++ ds ∧ L ≠ [] ∧ L.foldlM u16Step 0 = some n ∧
      ∀ c ∈ L, 48 ≤ c.toNat ∧ c.toNat < 58 := by
  induction fuel generalizing n ds with
  | zero => omega
  | succ fuel ih =>
    have hmod : n % 10 < 10 := Nat.mod_lt n (by decide)
    have hdig : 48 ≤ (Nat.digitChar (n % 10)).toNat ∧ (Nat.digitChar (n % 10)).toNat < 58 := by
      rw [digitChar_toNat hmod]; omega
    simp only [Nat.toDigitsCore]
    split
    case isTrue h0 =>
      refine ⟨[_], rfl, List.cons_ne_nil _ _, ?_, by simpa using hdig⟩
      simp [u16Step_digitChar hmod (by omega : 10 * 0 + n % 10 < 65536)]
      omega
    case isFalse h0 =>
      obtain ⟨L, hL, hne, hval, hL10⟩ :=
        ih (n / 10) (Nat.digitChar (n % 10) :: ds) (by omega) (by omega)
      refine ⟨L ++ [Nat.digitChar (n % 10)], by simp [hL], by simp, ?_, ?_⟩
      · simp [hval, u16Step_digitChar hmod (by omega : 10 * (n / 10) + n % 10 < 65536)]
        omega
      · exact fun c hc => (List.mem_append.mp hc).elim (hL10 c) fun h => List.mem_singleton.mp h ▸ hdig

theorem stripPlus_of_ne {c : Char} (hc : c ≠ '+') (cs : List Char) :
    stripPlus (c :: cs) = some (c :: cs) := by
  unfold stripPlus; split <;> simp_all

/-- The digits `{}` writes for a number below `2 ^ 16`, read back by the loop of
`u16::from_str`. -/
theorem decimal_digits (n : Nat) (hn : n < 65536) :
    (toString n).data ≠ [] ∧ (toString n).data.foldlM u16Step 0 = some n ∧
      ∀ c ∈ (toString n).data, 48 ≤ c.toNat ∧ c.toNat < 58 := by
  obtain ⟨L, hL, hne, hval, hdig⟩ := toDigitsCore_decimal (n + 1) n [] (by omega) hn
  have hs : (toString n).data = L := by
    rw [show (toString n).data = Nat.toDigitsCore 10 (n + 1) n [] from rfl, hL, List.append_nil]
  exact hs ▸ ⟨hne, hval, hdig⟩

theorem uint16_digits (p : UInt16) : ∀ c ∈ (toString p).data, 48 ≤ c.toNat ∧ c.toNat < 58 :=
  (decimal_digits p.toNat p.toNat_lt_size).2.2

/-- The port `format!` writes is the port `port_u16` reads. -/
theorem parseU16_toString (p : UInt16) : parseU16 (toString p).data = some p := by
  obtain ⟨hne, hval, hdig⟩ := decimal_digits p.toNat p.toNat_lt_size
  obtain ⟨c, cs, hcs⟩ := List.exists_cons_of_ne_nil hne
  have hc : c ≠ '+' := by
    rintro rfl
    simpa using hdig '+' (by rw [hcs]; exact .head _)
  show parseU16 (toString p.toNat).data = some p
  rw [hcs] at hval ⊢
  simp [parseU16, stripPlus_of_ne hc, hval]
  exact UInt16.eq_of_toBitVec_eq (BitVec.eq_of_toNat_eq (UInt16.toNat_ofNat_of_lt p.toNat_lt_size))

theorem uint8_digits (b : UInt8) : ∀ c ∈ (toString b).data, 48 ≤ c.toNat ∧ c.toNat < 58 :=
  (decimal_digits b.toNat (b.toNat_lt_size.trans (by decide))).2.2

theorem uint8_digits_ne_nil (b : UInt8) : (toString b).data ≠ [] :=
  (decimal_digits b.toNat (b.toNat_lt_size.trans (by decide))).1

/-- `{}` of a byte is injective. -/
theorem toString_uint8_inj {a b : UInt8} (h : (toString a).data = (toString b).data) : a = b := by
  have ha := (decimal_digits a.toNat (a.toNat_lt_size.trans (by decide))).2.1
  have hb := (decimal_digits b.toNat (b.toNat_lt_size.trans (by decide))).2.1
  change (toString a.toNat).data = (toString b.toNat).data at h
  rw [h, hb, Option.some_inj] at ha
  exact UInt8.eq_of_toBitVec_eq (BitVec.eq_of_toNat_eq ha.symm)

end Qsgw
