/-
  Custody.Text.Quoted
  ────────────────────────────────
  **TEXT IN QUOTES, FOR MESSAGES.**

  A message that repeats what it was given writes it so that nothing in it is
  invisible: the quote and the backslash stand behind a backslash, the usual
  controls have letters, and any other character without a glyph is written by
  its code point.
-/
import Custody.Text.Glyphless

namespace Custody.Text

/-! ## §1. One character. -/

/-- One lower-case hexadecimal digit. -/
def hexDigit (n : Nat) : Char :=
  Char.ofNat (if n < 10 then '0'.toNat + n else 'a'.toNat + (n - 10))

/-- A number in lower-case hexadecimal, without leading zeros. -/
def hexNumeral (n : Nat) : List Char := Nat.toDigits 16 n

/-- A character as it stands between quotes of the kind `quote`. -/
def escape (quote c : Char) : List Char :=
  if c = '\x00' then ['\\', '0']
  else if c = '\t' then ['\\', 't']
  else if c = '\r' then ['\\', 'r']
  else if c = '\n' then ['\\', 'n']
  else if c = '\\' then ['\\', '\\']
  else if c = quote then ['\\', quote]
  else if isGlyphless c then ['\\', 'u', '\x7b'] ++ hexNumeral c.toNat ++ ['\x7d']
  else [c]

/-! ## §2. Characters and texts. -/

/-- A character between single quotes. -/
def quoteChar (c : Char) : String :=
  String.ofList (['\''] ++ escape '\'' c ++ ['\''])

/-- A text between double quotes. -/
def quote (text : String) : String :=
  String.ofList (['"'] ++ text.toList.flatMap (escape '"') ++ ['"'])

end Custody.Text
