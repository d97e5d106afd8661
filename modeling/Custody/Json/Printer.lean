/-
  Custody.Json.Printer
  ────────────────────────────────
  **JSON AS TEXT, IN ITS COMPACT FORM.**

  No blank stands outside of a text.  Inside one, the quote, the backslash and
  the five controls with letters of their own are escaped, the other controls
  are written by their code points, and everything else stands as it is.
-/
import Custody.Json
import Custody.Text.Quoted

namespace Custody.Json

/-! ## §1. Texts and integers. -/

/-- A character as it stands inside a text. -/
def escapeChar (c : Char) : List Char :=
  if c = '"' then ['\\', '"']
  else if c = '\\' then ['\\', '\\']
  else if c = '\x08' then ['\\', 'b']
  else if c = '\t' then ['\\', 't']
  else if c = '\n' then ['\\', 'n']
  else if c = '\x0c' then ['\\', 'f']
  else if c = '\r' then ['\\', 'r']
  else if c.toNat < 0x20 then
    ['\\', 'u', '0', '0', Text.hexDigit (c.toNat / 16), Text.hexDigit (c.toNat % 16)]
  else [c]

/-- A text between quotes. -/
def textChars (value : String) : List Char :=
  '"' :: (value.toList.flatMap escapeChar ++ ['"'])

/-- An integer in decimal. -/
def integerChars : Int → List Char
  | .ofNat n => Nat.toDigits 10 n
  | .negSucc n => '-' :: Nat.toDigits 10 (n + 1)

/-! ## §2. Values. -/

mutual

/-- The characters of a value. -/
def chars : Json → List Char
  | .null => ['n', 'u', 'l', 'l']
  | .bool true => ['t', 'r', 'u', 'e']
  | .bool false => ['f', 'a', 'l', 's', 'e']
  | .integer value => integerChars value
  | .verbatim literal => literal.toList
  | .text value => textChars value
  | .list items => '[' :: itemsChars items
  | .object members => '\x7b' :: membersChars members

/-- The items of a list with the bracket that closes it. -/
def itemsChars : List Json → List Char
  | [] => [']']
  | [item] => item.chars ++ [']']
  | item :: rest => item.chars ++ ',' :: itemsChars rest

/-- The members of an object with the brace that closes it. -/
def membersChars : List (String × Json) → List Char
  | [] => ['\x7d']
  | [(name, value)] => textChars name ++ ':' :: (value.chars ++ ['\x7d'])
  | (name, value) :: rest => textChars name ++ ':' :: (value.chars ++ ',' :: membersChars rest)

end

/-- A value as text. -/
def print (j : Json) : String := String.ofList j.chars

instance : ToString Json := ⟨print⟩

end Custody.Json
