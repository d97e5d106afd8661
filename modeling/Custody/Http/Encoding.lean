/-
  Custody.Http.Encoding
  ────────────────────────────────
  **PERCENT ENCODING.**

  In a path or a query a byte that cannot stand for itself is written as a
  percent sign and its two hexadecimal digits.  A percent sign that no two
  digits follow stands for itself.  What is decoded has to be UTF-8.

  In a query a plus sign stands for a blank.  It is replaced before percent
  signs are read, so an encoded plus sign stays one.

  Main facts:
    * `decode_of_no_mark`  — bytes without a percent sign are left alone;
    * `decode_escape`      — an escaped byte is read back, whatever follows.
-/
import Custody.Octets.Hex

namespace Custody.Http

/-! ## §1. Bytes. -/

/-- The percent sign. -/
def mark : UInt8 := 0x25

/-- The byte of an ASCII character. -/
def asciiByte (c : Char) : UInt8 := UInt8.ofNat c.toNat

/-- The value of a byte that is a hexadecimal digit. -/
def digit? (byte : UInt8) : Option Nat := Hex.digitValue? (Char.ofNat byte.toNat)

/-- Replaces each escaped byte by the byte. -/
def decode : List UInt8 → List UInt8
  | a :: b :: c :: rest =>
    match a == mark, digit? b, digit? c with
    | true, some high, some low => UInt8.ofNat (high * 16 + low) :: decode rest
    | _, _, _ => a :: decode (b :: c :: rest)
  | short => short

/-- A byte as a percent sign and two digits. -/
def escape (byte : UInt8) : List UInt8 := mark :: (Hex.pair byte).map asciiByte

/-- Bytes without a percent sign are what they stand for. -/
theorem decode_of_no_mark {bytes : List UInt8} (h : ∀ byte ∈ bytes, byte ≠ mark) :
    decode bytes = bytes := by
  induction bytes with
  | nil => rfl
  | cons a rest ih =>
    have ih := ih fun byte hb => h byte (List.mem_cons_of_mem _ hb)
    match rest with
    | [] => rfl
    | [_] => rfl
    | b :: c :: rest =>
      have ha : (a == mark) = false := by simpa using h a List.mem_cons_self
      rw [decode, ha, ih]

theorem digit?_asciiByte : ∀ n < 16, digit? (asciiByte (Text.hexDigit n)) = some n := by decide

/-- An escaped byte is read back, and what follows it is read on its own. -/
theorem decode_escape (byte : UInt8) (rest : List UInt8) :
    decode (escape byte ++ rest) = byte :: decode rest := by
  have high : byte.toNat / 16 < 16 := by have := byte.toNat_lt; omega
  have low : byte.toNat % 16 < 16 := by omega
  have whole : byte.toNat / 16 * 16 + byte.toNat % 16 = byte.toNat := by omega
  simp [escape, Hex.pair, decode, digit?_asciiByte _ high, digit?_asciiByte _ low, whole]

/-! ## §2. Texts. -/

/-- The text that bytes are in UTF-8, if they are. -/
def utf8? (bytes : List UInt8) : Option String := String.fromUTF8? ⟨bytes.toArray⟩

/-- The bytes of a text in UTF-8. -/
def utf8 (text : String) : List UInt8 := text.toList.flatMap String.utf8EncodeChar

/-- What a part of a path says. -/
def pathText? (text : String) : Option String := utf8? (decode (utf8 text))

/-- What a part of a query says. -/
def queryText? (text : String) : Option String :=
  utf8? (decode ((utf8 text).map fun byte => if byte = asciiByte '+' then asciiByte ' ' else byte))

/-! ## §3. Queries. -/

/-- Splits a pair at its first equals sign. -/
def splitPair (pair : String) : String × String :=
  let cs := pair.toList
  (String.ofList (cs.takeWhile (· != '=')), String.ofList ((cs.dropWhile (· != '=')).drop 1))

/-- The values that a query gives to a name, in order, each as far as it is UTF-8. -/
def queryValues (query name : String) : List (Option String) :=
  let pairs := ((query.splitOn "&").filter (!·.isEmpty)).map splitPair
  (pairs.filter fun pair => queryText? pair.1 == some name).map fun pair => queryText? pair.2

end Custody.Http
