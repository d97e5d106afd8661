/-
  Custody.Word
  ────────────────────────────────
  **ARITHMETIC ON MACHINE WORDS WITH ITS LIMITS IN VIEW.**

  Amounts, times and counts are 64-bit words.  A sum or difference that leaves
  the range is either refused or held at the end of the range, and the name of
  the operation says which.

  Main facts:
    * `add?_eq_some_iff`, `sub?_eq_some_iff` — a checked operation succeeds
      exactly when the exact result is in range, and then gives it;
    * `fromLittleEndian_littleEndian` — words are read back from their bytes.
-/

namespace Custody.Word

/-! ## §1. Checked and capped operations. -/

/-- The largest 64-bit word. -/
def largest : UInt64 := 0xffffffffffffffff

/-- The sum, if it fits. -/
def add? (a b : UInt64) : Option UInt64 :=
  if a.toNat + b.toNat < UInt64.size then some (a + b) else none

/-- The difference, if it is not negative. -/
def sub? (a b : UInt64) : Option UInt64 :=
  if b ≤ a then some (a - b) else none

/-- A natural number, held at the largest word. -/
def capped (n : Nat) : UInt64 :=
  if n < UInt64.size then UInt64.ofNat n else largest

/-- The sum, held at the largest word. -/
def addCapped (a b : UInt64) : UInt64 := capped (a.toNat + b.toNat)

/-- A checked sum is there exactly if it fits, and it is exact. -/
theorem add?_eq_some_iff {a b c : UInt64} :
    add? a b = some c ↔ a.toNat + b.toNat = c.toNat := by
  unfold add?
  split
  case isTrue h =>
    rw [Option.some.injEq, ← UInt64.toNat_inj, UInt64.toNat_add, Nat.mod_eq_of_lt h]
  case isFalse h =>
    have := c.toNat_lt_size
    constructor
    · intro absurd; cases absurd
    · intro eq; omega

/-- A checked difference is there exactly if nothing is borrowed, and it is exact. -/
theorem sub?_eq_some_iff {a b c : UInt64} :
    sub? a b = some c ↔ a.toNat = b.toNat + c.toNat := by
  unfold sub?
  split
  case isTrue h =>
    rw [Option.some.injEq, ← UInt64.toNat_inj, UInt64.toNat_sub_of_le _ _ h]
    have := UInt64.le_iff_toNat_le.mp h
    omega
  case isFalse h =>
    have := mt UInt64.le_iff_toNat_le.mpr h
    constructor
    · intro absurd; cases absurd
    · intro eq; omega

/-- A number is held at the largest word. -/
theorem toNat_capped (n : Nat) : (capped n).toNat = min n (UInt64.size - 1) := by
  unfold capped
  split
  case isTrue h => rw [UInt64.toNat_ofNat_of_lt' h]; omega
  case isFalse h =>
    have : largest.toNat = UInt64.size - 1 := rfl
    omega

/-! ## §2. Words as bytes. -/

/-- How many numbers a width of bytes can hold. -/
def span : Nat → Nat
  | 0 => 1
  | width + 1 => 256 * span width

theorem span_eight : span 8 = UInt64.size := rfl

theorem span_le_span {a b : Nat} (h : a ≤ b) : span a ≤ span b := by
  induction h with
  | refl => exact Nat.le_refl _
  | step _ ih => exact Nat.le_trans ih (Nat.le_mul_of_pos_left _ (by decide))

/-- The value of bytes with the least significant byte first. -/
def fromLittleEndian : List UInt8 → Nat
  | [] => 0
  | byte :: rest => byte.toNat + 256 * fromLittleEndian rest

/-- The lowest `width` bytes of a number, least significant first. -/
def littleEndian : Nat → Nat → List UInt8
  | 0, _ => []
  | width + 1, n => UInt8.ofNat (n % 256) :: littleEndian width (n / 256)

/-- The lowest `width` bytes of a number, most significant first. -/
def bigEndian (width n : Nat) : List UInt8 := (littleEndian width n).reverse

@[simp] theorem length_littleEndian (width n : Nat) : (littleEndian width n).length = width := by
  induction width generalizing n with
  | zero => rfl
  | succ width ih => simp [littleEndian, ih]

@[simp] theorem length_bigEndian (width n : Nat) : (bigEndian width n).length = width := by
  simp [bigEndian]

/-- Bytes are read as a number that they span. -/
theorem fromLittleEndian_lt (bytes : List UInt8) :
    fromLittleEndian bytes < span bytes.length := by
  induction bytes with
  | nil => decide
  | cons byte rest ih =>
    have := byte.toNat_lt
    simp only [fromLittleEndian, List.length_cons, span]
    omega

/-- A number is read back from its bytes, as far as they span it. -/
theorem fromLittleEndian_littleEndian (width n : Nat) :
    fromLittleEndian (littleEndian width n) = n % span width := by
  induction width generalizing n with
  | zero => simp [littleEndian, fromLittleEndian, span, Nat.mod_one]
  | succ width ih =>
    have low : (UInt8.ofNat (n % 256)).toNat = n % 256 :=
      UInt8.toNat_ofNat_of_lt' (Nat.mod_lt n (by decide))
    simp only [littleEndian, fromLittleEndian, ih, low, span]
    rw [Nat.mod_mul]

end Custody.Word
