import Qsgw.Prelude
import Mathlib.Data.List.OfFn

/-!
# The entropy adapter `PqcRng`

`qsgw_crypto::rng`. `PqcRng` is a unit struct through which the PQC crates draw all
their randomness: every call asks `getrandom::fill` for a fresh buffer. The OS source
is the byte stream `OsRng` of the other modules, read from its current position, so
that `fill` of an `n`-byte buffer hands out the next `n` bytes and leaves the stream
after them. `try_next_u32` and `try_next_u64` read a 4- and an 8-byte buffer as a
little-endian integer, and `try_fill_bytes` fills the caller's buffer. The error type
is `Infallible`, so each call returns its value; the panic on an unavailable OS source
is outside the model, whose stream never runs dry.

A run of calls hands out the stream's bytes in order, each once (`run_bytes`). The
crypto modules read a seed as the first bytes of the stream, and `run_seed` says this
holds whichever calls a crate makes to draw it; the SLH-DSA lifecycle, the one that
takes the stream itself, states it as `generate_of_run` and `sign_of_run_eq`.
-/

namespace Qsgw

namespace OsRng

/-- The stream after its first `n` bytes. -/
def drop (rng : OsRng) (n : Nat) : OsRng := fun i => rng (n + i)

/-- `getrandom::fill` of an `n`-byte buffer: the next `n` bytes, and the stream after. -/
def getrandomFill (rng : OsRng) (n : Nat) : ByteArr n × OsRng := (rng.fill n, rng.drop n)

@[simp] theorem fill_toList (rng : OsRng) (n : Nat) :
    (rng.fill n).toList = List.ofFn fun i : Fin n => rng i :=
  Mathlib.Vector.toList_ofFn _

/-- Drawing `n + m` bytes at once is drawing `n` and then `m`. -/
theorem fill_add (rng : OsRng) (n m : Nat) :
    (rng.fill (n + m)).toList = (rng.fill n).toList ++ ((rng.drop n).fill m).toList := by
  simp only [fill_toList, List.ofFn_add]
  rfl

end OsRng

/-- The value of little-endian bytes, as `from_le_bytes` reads them. -/
def ofLeBytes : Bytes → Nat
  | [] => 0
  | b :: bs => b.toNat + 256 * ofLeBytes bs

/-- The `w` little-endian bytes of `n`, as `to_le_bytes` writes a `w`-byte integer. -/
def toLeBytes : Nat → Nat → Bytes
  | 0, _ => []
  | w + 1, n => UInt8.ofNat (n % 256) :: toLeBytes w (n / 256)

/-- `u32::from_le_bytes`. -/
def u32FromLeBytes (buf : ByteArr 4) : UInt32 := UInt32.ofNat (ofLeBytes buf.toList)

/-- `u64::from_le_bytes`. -/
def u64FromLeBytes (buf : ByteArr 8) : UInt64 := UInt64.ofNat (ofLeBytes buf.toList)

theorem ofLeBytes_lt (l : Bytes) : ofLeBytes l < 256 ^ l.length := by
  induction l with
  | nil => decide
  | cons b bs ih =>
    have hb : b.toNat < 256 := b.toNat_lt_size
    rw [ofLeBytes, List.length_cons, Nat.pow_succ]
    omega

/-- Writing back the bytes read gives the bytes. -/
theorem toLeBytes_ofLeBytes (l : Bytes) : toLeBytes l.length (ofLeBytes l) = l := by
  induction l with
  | nil => rfl
  | cons b bs ih =>
    have hb : b.toNat < 256 := b.toNat_lt_size
    have hlow : (b.toNat + 256 * ofLeBytes bs) % 256 = b.toNat := by omega
    have hhigh : (b.toNat + 256 * ofLeBytes bs) / 256 = ofLeBytes bs := by omega
    rw [List.length_cons, ofLeBytes, toLeBytes, hlow, hhigh, ih]
    exact congrArg (· :: bs) (UInt8.toNat.inj (Nat.mod_eq_of_lt hb))

theorem u32FromLeBytes_toNat (buf : ByteArr 4) :
    (u32FromLeBytes buf).toNat = ofLeBytes buf.toList :=
  UInt32.toNat_ofNat_of_lt (by simpa [Mathlib.Vector.toList_length] using ofLeBytes_lt buf.toList)

theorem u64FromLeBytes_toNat (buf : ByteArr 8) :
    (u64FromLeBytes buf).toNat = ofLeBytes buf.toList :=
  UInt64.toNat_ofNat_of_lt (by simpa [Mathlib.Vector.toList_length] using ofLeBytes_lt buf.toList)

namespace PqcRng

/-- `try_next_u32`. -/
def tryNextU32 (rng : OsRng) : UInt32 × OsRng :=
  let (buf, rng) := rng.getrandomFill 4
  (u32FromLeBytes buf, rng)

/-- `try_next_u64`. -/
def tryNextU64 (rng : OsRng) : UInt64 × OsRng :=
  let (buf, rng) := rng.getrandomFill 8
  (u64FromLeBytes buf, rng)

/-- `try_fill_bytes` into a destination of `n` bytes. -/
def tryFillBytes (rng : OsRng) (n : Nat) : ByteArr n × OsRng := rng.getrandomFill n

/-- A call a crate makes on `PqcRng`. -/
inductive Call where
  | nextU32
  | nextU64
  | fillBytes (n : Nat)
  deriving DecidableEq, Repr

/-- What a call returns. -/
inductive Reply where
  | u32 (x : UInt32)
  | u64 (x : UInt64)
  | bytes (b : Bytes)
  deriving DecidableEq, Repr

/-- The bytes a reply carries, an integer's as `to_le_bytes` writes them. -/
def Reply.leBytes : Reply → Bytes
  | .u32 x => toLeBytes 4 x.toNat
  | .u64 x => toLeBytes 8 x.toNat
  | .bytes b => b

/-- How many bytes a call asks the OS for. -/
def Call.width : Call → Nat
  | .nextU32 => 4
  | .nextU64 => 8
  | .fillBytes n => n

/-- One call. -/
def step : Call → OsRng → Reply × OsRng
  | .nextU32, rng => let (x, rng) := tryNextU32 rng; (.u32 x, rng)
  | .nextU64, rng => let (x, rng) := tryNextU64 rng; (.u64 x, rng)
  | .fillBytes n, rng => let (b, rng) := tryFillBytes rng n; (.bytes b.toList, rng)

/-- A sequence of calls, each on the stream the one before left. -/
def run : List Call → OsRng → List Reply × OsRng
  | [], rng => ([], rng)
  | c :: cs, rng =>
    let rest := run cs (step c rng).2
    ((step c rng).1 :: rest.1, rest.2)

/-- The bytes a whole run asks for. -/
def width : List Call → Nat
  | [] => 0
  | c :: cs => c.width + width cs

@[simp] theorem width_nil : width [] = 0 := rfl

@[simp] theorem width_cons (c : Call) (cs : List Call) : width (c :: cs) = c.width + width cs :=
  rfl

/-- One call hands out the next `c.width` bytes of the stream and moves past them. -/
theorem step_leBytes (c : Call) (rng : OsRng) :
    (step c rng).1.leBytes = (rng.fill c.width).toList ∧ (step c rng).2 = rng.drop c.width := by
  cases c with
  | nextU32 =>
    have h := toLeBytes_ofLeBytes (rng.fill 4).toList
    rw [Mathlib.Vector.toList_length, ← u32FromLeBytes_toNat] at h
    exact ⟨h, rfl⟩
  | nextU64 =>
    have h := toLeBytes_ofLeBytes (rng.fill 8).toList
    rw [Mathlib.Vector.toList_length, ← u64FromLeBytes_toNat] at h
    exact ⟨h, rfl⟩
  | fillBytes n => exact ⟨rfl, rfl⟩

/-- The replies of a run carry the first `width cs` bytes of the stream, in order. -/
theorem run_bytes (cs : List Call) (rng : OsRng) :
    (run cs rng).1.flatMap Reply.leBytes = (rng.fill (width cs)).toList := by
  induction cs generalizing rng with
  | nil => rfl
  | cons c cs ih =>
    obtain ⟨hbytes, hrest⟩ := step_leBytes c rng
    simp only [run, List.flatMap_cons, hbytes, hrest, ih, width_cons, OsRng.fill_add]

/-- The crypto modules read a `k`-byte seed as `rng.fill k`: that is the seed a crate
assembles from any calls that ask for `k` bytes in all. -/
theorem run_seed {k : Nat} (cs : List Call) (h : width cs = k) (rng : OsRng) :
    ∃ hlen, (⟨(run cs rng).1.flatMap Reply.leBytes, hlen⟩ : ByteArr k) = rng.fill k := by
  subst h
  have hbytes := run_bytes cs rng
  exact ⟨by rw [hbytes]; exact (rng.fill _).toList_length, Subtype.ext hbytes⟩

end PqcRng

end Qsgw
