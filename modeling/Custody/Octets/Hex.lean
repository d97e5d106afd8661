/-
  Custody.Octets.Hex
  ────────────────────────────────
  **BYTES IN HEXADECIMAL.**

  Bytes are written with two lower-case digits each and read in either case.
  A text that is no such writing is refused for the first of these faults: an
  odd length, a length other than the one asked for, the first character from
  the left that is no digit.  Lengths and positions count the bytes of the
  text in UTF-8; all characters before the first bad one are digits, so its
  position is the same in characters.

  Main facts: `decode_encode`, `decodeExact_encode` — what is written is read back.
-/
import Custody.Octets
import Custody.Text.Quoted

namespace Custody.Hex

/-! ## §1. Writing. -/

/-- The two digits of a byte. -/
def pair (byte : UInt8) : List Char :=
  [Text.hexDigit (byte.toNat / 16), Text.hexDigit (byte.toNat % 16)]

/-- The digits of a byte list. -/
def digits (bytes : List UInt8) : List Char := bytes.flatMap pair

/-- A byte list in hexadecimal. -/
def encode (bytes : List UInt8) : String := String.ofList (digits bytes)

/-! ## §2. Faults. -/

/-- Why a text is not the bytes asked for. -/
inductive Fault where
  | oddLength
  | wrongLength
  | badDigit (lead : UInt8) (position : Nat)
deriving DecidableEq, Repr

/-- The wording of a fault; a bad character is shown by the first byte it is encoded with. -/
def Fault.message : Fault → String
  | .oddLength => "Odd number of digits"
  | .wrongLength => "Invalid string length"
  | .badDigit lead position =>
    s!"Invalid character {Text.quoteChar (Char.ofNat lead.toNat)} at position {position}"

/-! ## §3. Reading. -/

/-- The value of a hexadecimal digit in either case. -/
def digitValue? (c : Char) : Option Nat :=
  if '0' ≤ c ∧ c ≤ '9' then some (c.toNat - '0'.toNat)
  else if 'a' ≤ c ∧ c ≤ 'f' then some (c.toNat - 'a'.toNat + 10)
  else if 'A' ≤ c ∧ c ≤ 'F' then some (c.toNat - 'A'.toNat + 10)
  else none

/-- The first byte of a character in UTF-8. -/
def leadByte (c : Char) : UInt8 := (String.utf8EncodeChar c).headD 0

/-- Reads one digit at a position. -/
def readDigit (position : Nat) (c : Char) : Except Fault Nat :=
  match digitValue? c with
  | some value => .ok value
  | none => .error (.badDigit (leadByte c) position)

/-- Reads pairs of digits from a position on. -/
def readPairs : Nat → List Char → Except Fault (List UInt8)
  | _, [] => .ok []
  | position, [c] => do
    let _ ← readDigit position c
    .error .oddLength
  | position, c :: d :: rest => do
    let high ← readDigit position c
    let low ← readDigit (position + 1) d
    let bytes ← readPairs (position + 2) rest
    return UInt8.ofNat (high * 16 + low) :: bytes

/-- The number of bytes a text has in UTF-8. -/
def utf8Length : List Char → Nat
  | [] => 0
  | c :: rest => c.utf8Size + utf8Length rest

/-- Reads any number of bytes. -/
def decode (text : String) : Except Fault (List UInt8) :=
  let cs := text.toList
  if utf8Length cs % 2 = 1 then .error .oddLength else readPairs 0 cs

/-- Reads exactly `n` bytes. -/
def decodeExact (n : Nat) (text : String) : Except Fault (Octets n) :=
  let cs := text.toList
  if utf8Length cs % 2 = 1 then .error .oddLength
  else if utf8Length cs ≠ 2 * n then .error .wrongLength
  else do
    let bytes ← readPairs 0 cs
    match Octets.ofList? n bytes with
    | some octets => return octets
    | none => .error .wrongLength

/-! ## §4. Reading back. -/

theorem digitValue?_hexDigit : ∀ n < 16, digitValue? (Text.hexDigit n) = some n := by decide

/-- The digits of some bytes are read as the bytes. -/
theorem readPairs_digits (position : Nat) (bytes : List UInt8) :
    readPairs position (digits bytes) = .ok bytes := by
  induction bytes generalizing position with
  | nil => rfl
  | cons byte rest ih =>
    have high : byte.toNat / 16 < 16 := by have := byte.toNat_lt; omega
    have low : byte.toNat % 16 < 16 := by omega
    have tail := ih (position + 2)
    simp only [digits] at tail
    have whole : byte.toNat / 16 * 16 + byte.toNat % 16 = byte.toNat := by omega
    simp [digits, pair, readPairs, readDigit, digitValue?_hexDigit _ high,
      digitValue?_hexDigit _ low, tail, whole, bind, Except.bind, pure, Except.pure]

theorem utf8Size_hexDigit : ∀ n < 16, (Text.hexDigit n).utf8Size = 1 := by decide

/-- Every byte takes two digits. -/
theorem utf8Length_digits (bytes : List UInt8) : utf8Length (digits bytes) = 2 * bytes.length := by
  induction bytes with
  | nil => rfl
  | cons byte rest ih =>
    have high : byte.toNat / 16 < 16 := by have := byte.toNat_lt; omega
    have low : byte.toNat % 16 < 16 := by omega
    simp only [digits] at ih
    simp only [utf8Length, digits, List.flatMap_cons, pair, List.cons_append, List.nil_append,
      ih, utf8Size_hexDigit _ high, utf8Size_hexDigit _ low, List.length_cons]
    omega

/-- Bytes are read back from what is written for them. -/
theorem decode_encode (bytes : List UInt8) : decode (encode bytes) = .ok bytes := by
  simp [decode, encode, utf8Length_digits, readPairs_digits]

/-- Octets are read back from what is written for them. -/
theorem decodeExact_encode {n : Nat} (a : Octets n) :
    decodeExact n (encode a.bytes) = .ok a := by
  simp [decodeExact, encode, utf8Length_digits, a.length_eq, readPairs_digits,
    Octets.ofList?_eq, bind, Except.bind, pure, Except.pure]

end Custody.Hex

namespace Custody.Octets

/-- The octets in hexadecimal. -/
def hex {n : Nat} (a : Octets n) : String := Hex.encode a.bytes

instance {n : Nat} : ToString (Octets n) := ⟨hex⟩

end Custody.Octets
