/-
  Custody.Json.Parser
  ────────────────────────────────
  **TEXT AS JSON.**

  A text is read as one value with nothing but blanks around it.  Lists and
  objects may be nested 127 deep and no deeper.  A text value may hold every
  character but a raw control; an escaped surrogate must be half of a pair.
  A numeral has no leading zero and no bare sign, point or exponent.

  Text is read in one of two manners.  Read field by field, a value that has
  no place in a record is only passed over, so it may be nested deeper and
  hold half a pair.  Read whole, every value has to be one, and every numeral
  has to be in the range of double precision.

  The nesting that is left is the measure of the reader: a container hands the
  rest of it to its items, so reading ends without a count of steps.
-/
import Custody.Json.Record

namespace Custody.Json

/-- Takes a value off the front of the characters, if one stands there. -/
abbrev Reader (α : Type) := List Char → Option (α × List Char)

/-! ## §1. Blanks and numerals. -/

/-- The four characters that may stand between the parts of a value. -/
def isSpace (c : Char) : Bool := c == ' ' || c == '\t' || c == '\n' || c == '\r'

/-- The characters from the first that is no blank on. -/
def skipSpace (cs : List Char) : List Char := cs.dropWhile isSpace

/-- The value of decimal digits. -/
def digitsValue (digits : List Char) : Nat :=
  digits.foldl (fun value c => value * 10 + (c.toNat - '0'.toNat)) 0

/-- A numeral in parts: its digits, a fraction with its point, an exponent with its letter. -/
structure Numeral where
  negative : Bool
  digits : List Char
  fraction : List Char
  exponent : List Char
deriving DecidableEq, Repr

namespace Numeral

/-- The numeral as it is written. -/
def literal (n : Numeral) : String :=
  String.ofList ((if n.negative then ['-'] else []) ++ n.digits ++ n.fraction ++ n.exponent)

/-- The integer that a numeral is, if 64 bits hold it. -/
def integer? (n : Numeral) : Option Int :=
  let value := digitsValue n.digits
  if !(n.fraction.isEmpty && n.exponent.isEmpty) then none
  else if n.negative then
    if value ≠ 0 ∧ value ≤ UInt64.size / 2 then some (-(value : Int)) else none
  else if value < UInt64.size then some value else none

/-- The value that a numeral is read as. -/
def toJson (n : Numeral) : Json :=
  match n.integer? with
  | some value => .integer value
  | none => .verbatim n.literal

/-- The power of ten that an exponent is. -/
def power (n : Numeral) : Int :=
  match n.exponent with
  | _ :: '-' :: digits => -(digitsValue digits : Int)
  | _ :: '+' :: digits => digitsValue digits
  | _ :: digits => digitsValue digits
  | [] => 0

/-- Carries a value on with digits as long as 64 bits hold it; the digits that are left over. -/
def accumulate (value : Nat) : List Char → Nat × List Char
  | [] => (value, [])
  | c :: rest =>
    let next := digitsValue [c] + value * 10
    if next < UInt64.size then accumulate next rest else (value, c :: rest)

/-- Moves a number by a power of ten, in at most `fuel` steps down. -/
def scale? (x : Float) (power : Int) : Nat → Option Float
  | 0 => some 0
  | fuel + 1 =>
    if x == 0 then some x
    else if 308 < power then none
    else if power < -308 then scale? (x / Float.ofScientific 1 false 308) (power + 308) fuel
    else if power < 0 then some (x / Float.ofScientific 1 false power.natAbs)
    else
      let product := x * Float.ofScientific 1 false power.natAbs
      if product.isInf then none else some product

/-- The number of double precision that a numeral is, if it is in their range. -/
def double? (n : Numeral) : Option Float :=
  let (whole, left) := accumulate 0 n.digits
  let (all, dropped) := accumulate whole (n.fraction.drop 1)
  -- Digits that 64 bits cannot hold count as zeros before the point and as nothing behind it.
  let places : Int := (n.fraction.length - 1 : Nat) - (dropped.length : Int)
  let magnitude := scale? (UInt64.ofNat all).toFloat (left.length - places + n.power) 4
  magnitude.map fun x => if n.negative then -x else x

end Numeral

/-- Splits a fraction off: nothing, or a point with at least one digit. -/
def readFraction : Reader (List Char)
  | '.' :: rest =>
    match rest.takeWhile Char.isDigit with
    | [] => none
    | digits => some ('.' :: digits, rest.dropWhile Char.isDigit)
  | cs => some ([], cs)

/-- Splits the sign of an exponent off. -/
def readSign : List Char → List Char × List Char
  | '+' :: rest => (['+'], rest)
  | '-' :: rest => (['-'], rest)
  | cs => ([], cs)

/-- Splits an exponent off: nothing, or a letter, a sign or none, and at least one digit. -/
def readExponent : Reader (List Char)
  | c :: rest =>
    if c = 'e' ∨ c = 'E' then
      let (sign, rest) := readSign rest
      match rest.takeWhile Char.isDigit with
      | [] => none
      | digits => some (c :: (sign ++ digits), rest.dropWhile Char.isDigit)
    else some ([], c :: rest)
  | [] => some ([], [])

/-- Reads the numeral after a sign. -/
def readMagnitude (negative : Bool) : Reader Numeral := fun cs =>
  match cs.takeWhile Char.isDigit with
  | [] => none
  | '0' :: _ :: _ => none
  | digits => do
    let (fraction, cs) ← readFraction (cs.dropWhile Char.isDigit)
    let (exponent, cs) ← readExponent cs
    return (⟨negative, digits, fraction, exponent⟩, cs)

/-- Reads a numeral. -/
def readNumeral : Reader Numeral
  | '-' :: rest => readMagnitude true rest
  | cs => readMagnitude false cs

/-! ## §2. Texts. -/

/-- The value of four hexadecimal digits. -/
def codeUnit? (a b c d : Char) : Option Nat := do
  let a ← Hex.digitValue? a
  let b ← Hex.digitValue? b
  let c ← Hex.digitValue? c
  let d ← Hex.digitValue? d
  return ((a * 16 + b) * 16 + c) * 16 + d

/-- The character behind a backslash and a letter. -/
def unescape? (c : Char) : Option Char :=
  if c = '"' then some '"'
  else if c = '\\' then some '\\'
  else if c = '/' then some '/'
  else if c = 'b' then some '\x08'
  else if c = 'f' then some '\x0c'
  else if c = 'n' then some '\n'
  else if c = 'r' then some '\r'
  else if c = 't' then some '\t'
  else none

/-- Reads a text after its opening quote; `read` holds its characters so far, last one first. -/
def readText (read : List Char) : List Char → Option (String × List Char)
  | [] => none
  | '"' :: rest => some (String.ofList read.reverse, rest)
  | '\\' :: 'u' :: a :: b :: c :: d :: rest =>
    match codeUnit? a b c d with
    | none => none
    | some unit =>
      if unit < 0xd800 ∨ 0xdfff < unit then readText (Char.ofNat unit :: read) rest
      -- The first half of a pair: the other half has to follow at once.
      else if unit < 0xdc00 then
        match rest with
        | '\\' :: 'u' :: e :: f :: g :: h :: rest =>
          match codeUnit? e f g h with
          | none => none
          | some low =>
            if 0xdc00 ≤ low ∧ low ≤ 0xdfff then
              readText (Char.ofNat (0x10000 + (unit - 0xd800) * 0x400 + (low - 0xdc00)) :: read)
                rest
            else none
        | _ => none
      else none
  | '\\' :: c :: rest =>
    match unescape? c with
    | some char => readText (char :: read) rest
    | none => none
  | c :: rest => if c.toNat < 0x20 then none else readText (c :: read) rest

/-- Passes over a text after its opening quote; of its escapes only the form counts. -/
def passText : Reader String
  | [] => none
  | '"' :: rest => some ("", rest)
  | '\\' :: 'u' :: a :: b :: c :: d :: rest =>
    if (codeUnit? a b c d).isSome then passText rest else none
  | '\\' :: c :: rest => if (unescape? c).isSome then passText rest else none
  | c :: rest => if c.toNat < 0x20 then none else passText rest

/-! ## §3. Values. -/

/-- A manner of reading. -/
structure Manner where
  /-- Reads a text after its opening quote. -/
  text : Reader String
  /-- Whether a numeral is taken. -/
  takes : Numeral → Bool
  /-- What is made of a value that cannot be read. -/
  otherwise : Reader Json

/-- Reads a value that holds no other. -/
def readScalar (manner : Manner) : Reader Json
  | 'n' :: 'u' :: 'l' :: 'l' :: rest => some (.null, rest)
  | 't' :: 'r' :: 'u' :: 'e' :: rest => some (.bool true, rest)
  | 'f' :: 'a' :: 'l' :: 's' :: 'e' :: rest => some (.bool false, rest)
  | '"' :: rest => (manner.text rest).map fun (value, rest) => (.text value, rest)
  | cs => do
    let (numeral, rest) ← readNumeral cs
    if manner.takes numeral then some (numeral.toJson, rest) else none

/-- Reads items between commas up to the closing mark; each takes at least one character. -/
def readItems {α : Type} (item : Reader α) (close : Char) : Nat → Reader (List α)
  | 0, _ => none
  | fuel + 1, cs => do
    let (first, cs) ← item cs
    match skipSpace cs with
    | [] => none
    | c :: cs =>
      if c = ',' then do
        let (rest, cs) ← readItems item close fuel cs
        return (first :: rest, cs)
      else if c = close then return ([first], cs)
      else none

/-- Reads the inside of a container, which may be empty. -/
def readInside {α : Type} (item : Reader α) (close : Char) (cs : List Char) :
    Option (List α × List Char) :=
  match skipSpace cs with
  | [] => none
  | c :: rest =>
    if c = close then some ([], rest) else readItems item close (c :: rest).length (c :: rest)

/-- Reads a member of an object. -/
def readMember (name : Reader String) (value : Reader Json) : Reader (String × Json) := fun cs =>
  match skipSpace cs with
  | '"' :: rest => do
    let (name, cs) ← name rest
    match skipSpace cs with
    | ':' :: cs => do
      let (value, cs) ← value cs
      return ((name, value), cs)
    | _ => none
  | _ => none

/-- Reads a value in which containers may be nested `depth` deep. -/
def readValue (manner : Manner) : Nat → Reader Json
  | 0, cs => (readScalar manner (skipSpace cs)).orElse fun _ => manner.otherwise cs
  | depth + 1, cs =>
    let reading : Option (Json × List Char) :=
      match skipSpace cs with
      | '[' :: rest => do
        let (items, cs) ← readInside (readValue manner depth) ']' rest
        return (.list items, cs)
      | '\x7b' :: rest => do
        let member := readMember manner.text (readValue manner depth)
        let (members, cs) ← readInside member '\x7d' rest
        return (.object members, cs)
      | cs => readScalar manner cs
    reading.orElse fun _ => manner.otherwise cs

/-- Passes over a value, which may be nested as deep as its text is long. -/
def passOver : Reader Json := fun cs => do
  let manner : Manner := ⟨passText, fun _ => true, fun _ => none⟩
  let cs := skipSpace cs
  let (_, rest) ← readValue manner cs.length cs
  return (.verbatim (String.ofList (cs.take (cs.length - rest.length))), rest)

/-- The manner in which every value has to be one. -/
def Manner.whole : Manner :=
  ⟨readText [], fun n => n.integer?.isSome || n.double?.isSome, fun _ => none⟩

/-- The manner in which a value may be passed over. -/
def Manner.fieldwise : Manner := ⟨readText [], fun _ => true, passOver⟩

/-- How deep lists and objects may be nested. -/
def deepest : Nat := 127

/-- Reads the value that a text begins with; what follows it is not looked at. -/
def parseFirst? (manner : Manner) (text : String) : Option Json :=
  (readValue manner deepest text.toList).map (·.1)

/-- Reads a text that holds one value. -/
def parse? (manner : Manner) (text : String) : Option Json :=
  match readValue manner deepest text.toList with
  | some (value, rest) => if skipSpace rest = [] then some value else none
  | none => none

/-! ## §4. Types. -/

/-- The manner in which the text of a type is read. -/
def mannerOf (α : Type) [FromJson α] : Manner := if FromJson.whole α then .whole else .fieldwise

/-- Reads a value of a type from a text that holds one value. -/
def read? {α : Type} [FromJson α] (text : String) : Option α :=
  (parse? (mannerOf α) text).bind fromJson?

/-- Reads a value of a type from the value that a text begins with. -/
def readFirst? {α : Type} [FromJson α] (text : String) : Option α :=
  (parseFirst? (mannerOf α) text).bind fromJson?

end Custody.Json
