/-
  Custody.Json
  ────────────────────────────────
  **JSON VALUES.**

  Requests, records and answers travel as JSON.  Numbers are integers or they
  are not: an integer of the domain fits 64 bits, so a numeral with a
  fraction, with an exponent, out of that range or written `-0` is kept as it
  was written and never read as an integer.  So is a value that a record can
  only pass over.  An object keeps its members in the order and number in
  which they were written, because a record that names a field twice is
  refused.
-/

namespace Custody

/-- A JSON value. -/
inductive Json where
  | null
  | bool (value : Bool)
  | integer (value : Int)
  | verbatim (literal : String)
  | text (value : String)
  | list (items : List Json)
  | object (members : List (String × Json))
deriving Repr, Inhabited

namespace Json

/-! ## §1. The last member of a name. -/

mutual

/-- The value in which each object keeps only the last member of each name. -/
def collapse : Json → Json
  | .list items => .list (collapseItems items)
  | .object members => .object (collapseMembers members)
  | other => other

/-- Collapses every value of a list. -/
def collapseItems : List Json → List Json
  | [] => []
  | item :: rest => item.collapse :: collapseItems rest

/-- Drops each member that a later one of the same name replaces. -/
def collapseMembers : List (String × Json) → List (String × Json)
  | [] => []
  | (name, value) :: rest =>
    let kept := collapseMembers rest
    if kept.any (·.1 == name) then kept else (name, value.collapse) :: kept

end

/-! ## §2. Parts of a value. -/

/-- The first member of a name. -/
def lookup (name : String) : List (String × Json) → Option Json
  | [] => none
  | (n, value) :: rest => if n = name then some value else lookup name rest

/-- The member of an object; nothing for any other value. -/
def member? (j : Json) (name : String) : Option Json :=
  match j with
  | .object members => lookup name members
  | _ => none

/-- The text of a text value. -/
def text? : Json → Option String
  | .text value => some value
  | _ => none

/-! ## §3. Names of variants. -/

/-- The name of a variant as it is written: in small letters, with a low line in front of each
capital but the first. -/
def snakeCase (variant : String) : String :=
  match variant.toList with
  | [] => ""
  | first :: rest =>
    String.ofList (first.toLower
      :: rest.flatMap fun c => if c.isUpper then ['_', c.toLower] else [c.toLower])

end Json

end Custody
