/-
  Custody.Text.Numeral
  ────────────────────────────────
  **UNSIGNED DECIMAL NUMERALS.**

  A numeral is a run of ASCII digits, with one plus sign allowed in front.  It
  is read from left to right against a limit, and the first fault met is the
  fault reported: `12x` and `99…9x` differ in that the second is too large
  before its letter is reached.

  Main fact: `readDigits_append` — reading is compositional, so a value read
  so far may be carried on.
-/

namespace Custody.Text

/-! ## §1. Faults. -/

/-- Why a text is not a numeral below the limit. -/
inductive NumeralFault where
  | empty
  | invalidDigit
  | tooLarge
deriving DecidableEq, Repr

/-- The wording of a fault. -/
def NumeralFault.message : NumeralFault → String
  | .empty => "cannot parse integer from empty string"
  | .invalidDigit => "invalid digit found in string"
  | .tooLarge => "number too large to fit in target type"

/-! ## §2. Reading. -/

/-- The value of a decimal digit. -/
def digitValue (c : Char) : Nat := c.toNat - '0'.toNat

/-- Continues the value `value` with the digits `cs`, staying below `limit`. -/
def readDigits (limit : Nat) : Nat → List Char → Except NumeralFault Nat
  | value, [] => .ok value
  | value, c :: cs =>
    if c.isDigit then
      let next := value * 10 + digitValue c
      if next < limit then readDigits limit next cs else .error .tooLarge
    else .error .invalidDigit

/-- Digits are read from the left, and what was read goes on with what follows. -/
theorem readDigits_append (limit value : Nat) (as bs : List Char) :
    readDigits limit value (as ++ bs)
      = (readDigits limit value as).bind (fun next => readDigits limit next bs) := by
  induction as generalizing value with
  | nil => rfl
  | cons c cs ih =>
    simp only [List.cons_append, readDigits]
    split
    · split
      · exact ih _
      · rfl
    · rfl

/-- Reads a numeral with a value below `limit`. -/
def readNumeral (limit : Nat) : List Char → Except NumeralFault Nat
  | [] => .error .empty
  | ['+'] => .error .invalidDigit
  | '+' :: cs => readDigits limit 0 cs
  | cs => readDigits limit 0 cs

/-- Reads a 64-bit number. -/
def readUInt64 (text : String) : Except NumeralFault UInt64 :=
  (readNumeral UInt64.size text.toList).map UInt64.ofNat

/-- Reads a 32-bit number. -/
def readUInt32 (text : String) : Except NumeralFault UInt32 :=
  (readNumeral UInt32.size text.toList).map UInt32.ofNat

/-- Reads a 16-bit number. -/
def readUInt16 (text : String) : Except NumeralFault UInt16 :=
  (readNumeral UInt16.size text.toList).map UInt16.ofNat

end Custody.Text
