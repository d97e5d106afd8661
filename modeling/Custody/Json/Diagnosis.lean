/-
  Custody.Json.Diagnosis
  ────────────────────────────────
  **WHERE A TEXT STOPS BEING JSON.**

  A reader says only that a text cannot be read.  Here the text is gone over
  once more, in the manner in which every value has to be one, to say what is
  wrong with it and where: at the line and the byte in that line up to which
  everything was in order.

  A text is looked at byte by byte, each byte as the character of its number.

  Main fact: `scanWord_append` — a word that stands in front is taken off, and
  nothing else.
-/
import Custody.Json.Parser
import Custody.Text.Shortest

namespace Custody.Json

/-! ## §1. Flaws. -/

/-- What is wrong with a text. -/
inductive Flaw where
  | endInList
  | endInObject
  | endInText
  | endInValue
  | noColon
  | noListComma
  | noObjectComma
  | noWord
  | noValue
  | badEscape
  | badNumeral
  | numeralTooLarge
  | rawControl
  | nameNotText
  | loneSurrogate
  | halfPair
  | trailingComma
  | trailingText
  | tooDeep
deriving DecidableEq, Repr

/-- The wording of a flaw. -/
def Flaw.message : Flaw → String
  | .endInList => "EOF while parsing a list"
  | .endInObject => "EOF while parsing an object"
  | .endInText => "EOF while parsing a string"
  | .endInValue => "EOF while parsing a value"
  | .noColon => "expected `:`"
  | .noListComma => "expected `,` or `]`"
  | .noObjectComma => "expected `,` or `\x7d`"
  | .noWord => "expected ident"
  | .noValue => "expected value"
  | .badEscape => "invalid escape"
  | .badNumeral => "invalid number"
  | .numeralTooLarge => "number out of range"
  | .rawControl => "control character (\\u0000-\\u001F) found while parsing a string"
  | .nameNotText => "key must be a string"
  | .loneSurrogate => "lone leading surrogate in hex escape"
  | .halfPair => "unexpected end of hex escape"
  | .trailingComma => "trailing comma"
  | .trailingText => "trailing characters"
  | .tooDeep => "recursion limit exceeded"

/-- Why a text is refused. -/
structure Refusal where
  wording : String
  /-- How many bytes of the text stand behind the place, if it is one place. -/
  left : Option Nat
deriving DecidableEq, Repr

/-- The bytes of a text, as characters. -/
def octets (text : String) : List Char :=
  text.toUTF8.toList.map fun byte => Char.ofNat byte.toNat

/-- The text of bytes. -/
def ofOctets (bytes : List UInt8) : String := (String.fromUTF8? ⟨bytes.toArray⟩).getD ""

/-- A refusal with its place in a text, if it has one. -/
def Refusal.describe (text : String) (r : Refusal) : String :=
  match r.left with
  | none => r.wording
  | some left =>
    let all := octets text
    let read := all.take (all.length - left)
    let line := 1 + read.count '\n'
    let column := (read.reverse.takeWhile (· != '\n')).length
    s!"{r.wording} at line {line} column {column}"

/-- Goes over the front of a text. -/
abbrev Scan (α : Type) := List Char → Except Refusal (α × List Char)

/-- Refuses a text for a flaw in front of `rest`. -/
def stop {α : Type} (flaw : Flaw) (rest : List Char) : Except Refusal α :=
  .error ⟨flaw.message, some rest.length⟩

/-! ## §2. Values that hold no other. -/

/-- Takes a word off. -/
def scanWord : List Char → List Char → Except Refusal (List Char)
  | [], cs => .ok cs
  | _ :: _, [] => stop .endInValue []
  | e :: es, c :: cs => if c = e then scanWord es cs else stop .noWord cs

/-- A word that stands in front is taken off. -/
theorem scanWord_append (word rest : List Char) : scanWord word (word ++ rest) = .ok rest := by
  induction word with
  | nil => rfl
  | cons c cs ih => simpa [scanWord] using ih

/-- Takes a fraction off, if there is one. -/
def scanFraction : List Char → Except Refusal (List Char)
  | '.' :: rest =>
    match rest with
    | [] => stop .endInValue []
    | c :: more => if c.isDigit then .ok (rest.dropWhile Char.isDigit) else stop .badNumeral more
  | cs => .ok cs

/-- What follows the digit with which digits become too large for an exponent. -/
def pastExponent (value : Nat) : List Char → Option (List Char)
  | [] => none
  | c :: rest =>
    if c.isDigit then
      let next := value * 10 + digitsValue [c]
      if next < 1 <<< 31 then pastExponent next rest else some rest
    else none

/-- Takes an exponent off, if there is one. -/
def scanExponent (isZero : Bool) : List Char → Except Refusal (List Char)
  | [] => .ok []
  | c :: rest =>
    if c = 'e' ∨ c = 'E' then
      let (sign, digits) := readSign rest
      match digits with
      | [] => stop .endInValue []
      | d :: more =>
        -- The place is behind the byte that should have been a digit.
        if !d.isDigit then stop .badNumeral more
        else
          match pastExponent 0 digits with
          | some beyond =>
            if isZero ∨ sign = ['-'] then .ok (digits.dropWhile Char.isDigit)
            else stop .numeralTooLarge beyond
          | none => .ok (digits.dropWhile Char.isDigit)
    else .ok (c :: rest)

/-- Takes off the numeral after a sign, with at least one digit. -/
def scanDigits (negative : Bool) : Scan Json := fun cs => do
  let afterDigits := cs.dropWhile Char.isDigit
  let afterFraction ← scanFraction afterDigits
  -- Zero may have any exponent, so the digits are looked at before it.
  let digits := (cs.take (cs.length - afterFraction.length)).filter Char.isDigit
  let rest ← scanExponent (digits.all (· == '0')) afterFraction
  match readMagnitude negative cs with
  | some (numeral, _) =>
    if Manner.whole.takes numeral then return (numeral.toJson, rest)
    else stop .numeralTooLarge rest
  | none => stop .badNumeral rest

/-- Takes off the numeral after a sign. -/
def scanMagnitude (negative : Bool) : Scan Json
  | [] => stop .endInValue []
  | '0' :: c :: rest =>
    if c.isDigit then stop .badNumeral rest else scanDigits negative ('0' :: c :: rest)
  | c :: rest => if c.isDigit then scanDigits negative (c :: rest) else stop .badNumeral rest

/-- Takes off the four digits of an escape. -/
def scanUnit : Scan Nat
  | a :: b :: c :: d :: rest =>
    match codeUnit? a b c d with
    | some unit => .ok (unit, rest)
    | none => stop .badEscape rest
  | _ => stop .endInText []

/-- Takes off what stands behind a backslash. -/
def scanEscape : Scan Char
  | [] => stop .endInText []
  | 'u' :: rest => do
    let (unit, rest) ← scanUnit rest
    if 0xdc00 ≤ unit ∧ unit ≤ 0xdfff then stop .loneSurrogate rest
    else if unit < 0xd800 ∨ 0xdfff < unit then return (Char.ofNat unit, rest)
    else
      match rest with
      | '\\' :: 'u' :: rest => do
        let (low, rest) ← scanUnit rest
        if 0xdc00 ≤ low ∧ low ≤ 0xdfff then
          return (Char.ofNat (0x10000 + (unit - 0xd800) * 0x400 + (low - 0xdc00)), rest)
        else stop .loneSurrogate rest
      | [] | ['\\'] => stop .endInText []
      | '\\' :: _ :: rest => stop .halfPair rest
      | _ :: rest => stop .halfPair rest
  | c :: rest =>
    match unescape? c with
    | some char => .ok (char, rest)
    | none => stop .badEscape rest

/-- Takes off a text after its opening quote, in at most `fuel` steps; `read` holds its bytes so
far, last one first. -/
def scanText : Nat → List UInt8 → Scan String
  | 0, _, _ => stop .endInText []
  | _ + 1, _, [] => stop .endInText []
  | _ + 1, read, '"' :: rest => .ok (ofOctets read.reverse, rest)
  | fuel + 1, read, '\\' :: rest => do
    let (char, rest) ← scanEscape rest
    scanText fuel ((String.utf8EncodeChar char).reverse ++ read) rest
  | fuel + 1, read, c :: rest =>
    if c.toNat < 0x20 then stop .rawControl rest
    else scanText fuel (UInt8.ofNat c.toNat :: read) rest

/-- Takes off a text after its opening quote. -/
def scanQuoted : Scan String := fun cs => scanText (cs.length + 1) [] cs

/-- Takes off a value that holds no other. -/
def scanScalar : Scan Json
  | [] => stop .endInValue []
  | 'n' :: rest => return (.null, ← scanWord ['u', 'l', 'l'] rest)
  | 't' :: rest => return (.bool true, ← scanWord ['r', 'u', 'e'] rest)
  | 'f' :: rest => return (.bool false, ← scanWord ['a', 'l', 's', 'e'] rest)
  | '-' :: rest => scanMagnitude true rest
  | '"' :: rest => do
    let (value, rest) ← scanQuoted rest
    return (.text value, rest)
  | c :: rest => if c.isDigit then scanMagnitude false (c :: rest) else stop .noValue rest

/-! ## §3. Values that hold others. -/

/-- Takes off the items of a list with its closing bracket, in at most `fuel` steps. -/
def scanItems (item : List Char → Except Refusal (List Char)) :
    Nat → Bool → List Char → Except Refusal (List Char)
  | 0, _, _ => stop .endInList []
  | fuel + 1, first, cs =>
    match skipSpace cs with
    | [] => stop .endInList []
    | ']' :: rest => .ok rest
    | c :: rest =>
      -- A comma in front of the first item is left to the item, which it cannot begin.
      if first then do scanItems item fuel false (← item (c :: rest))
      else if c = ',' then
        match skipSpace rest with
        | [] => stop .endInValue []
        | ']' :: more => stop .trailingComma more
        | more => do scanItems item fuel false (← item more)
      else stop .noListComma rest

/-- Takes off the members of an object with its closing brace, in at most `fuel` steps; `member`
takes off what stands behind a name. -/
def scanMembers {σ : Type} (member : σ → String → Scan σ) : Nat → Bool → σ → Scan σ
  | 0, _, _, _ => stop .endInObject []
  | fuel + 1, first, state, cs =>
    let next (cs : List Char) : Except Refusal (σ × List Char) := do
      let (name, cs) ← scanQuoted cs
      let (state, cs) ← member state name cs
      scanMembers member fuel false state cs
    match skipSpace cs with
    | [] => stop .endInObject []
    | '\x7d' :: rest => .ok (state, rest)
    | c :: rest =>
      if first then
        if c = '"' then next rest else stop .nameNotText rest
      else if c = ',' then
        match skipSpace rest with
        | [] => stop .endInValue []
        | '"' :: more => next more
        | '\x7d' :: more => stop .trailingComma more
        | _ :: more => stop .nameNotText more
      else stop .noObjectComma rest

/-- Takes off the colon behind a name. -/
def scanColon (cs : List Char) : Except Refusal (List Char) :=
  match skipSpace cs with
  | [] => stop .endInObject []
  | ':' :: rest => .ok rest
  | _ :: rest => stop .noColon rest

/-- Takes off a value in which containers may be nested `depth` deep. -/
def scanValue (depth : Nat) (cs : List Char) : Except Refusal (List Char) :=
  match depth, skipSpace cs with
  | 0, '[' :: rest | 0, '\x7b' :: rest => stop .tooDeep rest
  | depth + 1, '[' :: rest => scanItems (scanValue depth) (rest.length + 1) true rest
  | depth + 1, '\x7b' :: rest => do
    let member (_ : Unit) (_ : String) (cs : List Char) : Except Refusal (Unit × List Char) := do
      return ((), ← scanValue depth (← scanColon cs))
    return (← scanMembers member (rest.length + 1) true () rest).2
  | _, cs => return (← scanScalar cs).2

/-- Refuses a text that goes on. -/
def scanEnd (cs : List Char) : Except Refusal Unit :=
  match skipSpace cs with
  | [] => .ok ()
  | _ :: rest => stop .trailingText rest

/-! ## §4. Values in messages. -/

/-- What a value is called. -/
def called : Json → String
  | .null => "null"
  | .bool value => s!"boolean `{value}`"
  | .integer value => s!"integer `{value}`"
  | .verbatim literal =>
    match (readNumeral literal.toList).bind fun (numeral, _) => numeral.double? with
    | some value => s!"floating point `{Text.showDouble value}`"
    | none => literal
  | .text value => s!"string {Text.quote value}"
  | .list _ => "sequence"
  | .object _ => "map"

/-- Why a value of the wrong kind is refused. -/
def wrongKind (j : Json) (wanted : String) : String :=
  s!"invalid type: {j.called}, expected {wanted}"

/-- Why a value of the right kind is refused. -/
def wrongValue (j : Json) (wanted : String) : String :=
  s!"invalid value: {j.called}, expected {wanted}"

/-- Why a name is refused where one of some names has to stand. -/
def unknownVariant (name : String) (names : List String) : String :=
  let known := ", ".intercalate (names.map fun n => s!"`{n}`")
  s!"unknown variant `{name}`, expected one of {known}"

/-! ## §5. Values that are no records. -/

/-- Says why a value does not do, if it does not. -/
abbrev Check := Json → Option String

/-- A natural number below a limit is wanted. -/
def checkNat (wanted : String) (limit : Nat) : Check
  | .integer value =>
    if 0 ≤ value ∧ value < limit then none else some (wrongValue (.integer value) wanted)
  | j => some (j.wrongKind wanted)

/-- Bytes are wanted. -/
def checkOctets (n : Nat) : Check
  | .text value =>
    match Hex.decodeExact n value with
    | .ok _ => none
    | .error fault => some fault.message
  | j => some (j.wrongKind "a hex encoded string")

/-- Text is wanted. -/
def checkText : Check
  | .text _ => none
  | j => some (j.wrongKind "a string")

/-- True or false is wanted. -/
def checkBool : Check
  | .bool _ => none
  | j => some (j.wrongKind "a boolean")

/-- Nothing is fine as well. -/
def checkOption (check : Check) : Check
  | .null => none
  | j => check j

/-- One of some names is wanted. -/
def checkSymbol (names : List String) : Check
  | .text name => if name ∈ names then none else some (unknownVariant name names)
  | .object [(name, value)] =>
    if name ∈ names then
      match value with
      | .null | .object [] => none
      | _ => some (value.wrongKind "unit")
    else some (unknownVariant name names)
  | .object members => some (wrongValue (.object members) "map with a single key")
  | j => some (j.wrongKind "string or map")

/-- A field of a record. -/
structure Field where
  name : String
  check : Check
  /-- Whether the field may be missing. -/
  spare : Bool := false

/-- A number of elements. -/
def elements (n : Nat) : String := if n = 1 then "1 element" else s!"{n} elements"

/-- Goes through the members of a record; `seen` are the names so far. -/
def checkMembers (fields : List Field) (seen : List String) : List (String × Json) → Option String
  | [] =>
    (fields.find? fun f => !f.spare && !seen.contains f.name).map fun f =>
      s!"missing field `{f.name}`"
  | (name, value) :: rest =>
    match fields.find? fun f => f.name == name with
    | none => checkMembers fields seen rest
    | some f =>
      if name ∈ seen then some s!"duplicate field `{name}`"
      else (f.check value).orElse fun _ => checkMembers fields (name :: seen) rest

/-- Goes through the items of a record that is written as a list; `count` were there before. -/
def checkItems (title : String) (total count : Nat) : List Field → List Json → Option String
  | [], [] => none
  | [], items =>
    some s!"invalid length {count + items.length}, expected {elements count} in sequence"
  | _ :: _, [] => some s!"invalid length {count}, expected {title} with {elements total}"
  | f :: fields, item :: items =>
    (f.check item).orElse fun _ => checkItems title total (count + 1) fields items

/-- A record is wanted. -/
def checkRecord (title : String) (fields : List Field) : Check
  | .object members => checkMembers fields [] members
  | .list items => checkItems title fields.length 0 fields items
  | j => some (j.wrongKind title)

end Custody.Json
