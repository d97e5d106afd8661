/-
  Custody.Store.Cell
  ────────────────────────────────
  **CELLS OF A RELATION.**

  A cell holds nothing, a signed 64-bit integer, another number, or a text.
  Words are kept by their bit pattern, so the upper half of the words is
  negative here.  A column has an affinity: what it is meant to hold.

  Main fact: `word_ofWord` — a word is read back from its cell.
-/
namespace Custody.Store

/-! ## §1. Cells. -/

/-- The contents of a cell. -/
inductive Cell where
  | null
  | integer (value : Int64)
  | real (literal : String)
  | text (value : String)
deriving DecidableEq, Repr

namespace Cell

/-- The name of the type of a cell. -/
def typeName : Cell → String
  | null => "Null"
  | integer _ => "Integer"
  | real _ => "Real"
  | text _ => "Text"

/-- The cell of a word. -/
def ofWord (word : UInt64) : Cell := .integer word.toInt64

/-- The cell of a text that may be absent. -/
def ofText? : Option String → Cell
  | some value => .text value
  | none => .null

/-- The word of a cell. -/
def word? : Cell → Option UInt64
  | integer value => some value.toUInt64
  | _ => none

/-- A word is read back from its cell, though a cell has a sign and a word has none. -/
theorem word_ofWord (word : UInt64) : (ofWord word).word? = some word := by
  simp [ofWord, word?]

/-- The rank of a cell's type in an ordering. -/
def rank : Cell → Nat
  | null => 0
  | integer _ => 1
  | real _ => 2
  | text _ => 3

/-- Whether a cell stands before or beside another in ascending order. -/
def le (a b : Cell) : Bool :=
  match a, b with
  | integer x, integer y => x ≤ y
  | text x, text y => x ≤ y
  | _, _ => a.rank ≤ b.rank

/-- Whether cells stand before or beside others, the first that differ deciding. -/
def allLe : List Cell → List Cell → Bool
  | a :: as, b :: bs => if a = b then allLe as bs else a.le b
  | [], _ => true
  | _ :: _, [] => false

end Cell

/-! ## §2. Affinity. -/

/-- What a column likes to hold. -/
inductive Affinity where
  | integer
  | text
deriving DecidableEq, Repr

end Custody.Store
