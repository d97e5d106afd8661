/-
  Custody.Store.Relation
  ────────────────────────────────
  **RELATIONS: ROWS UNDER A SCHEMA.**

  A schema names the columns of a relation; the first of them are its key.
  Putting a row in takes the row with its key out and places the new one
  behind all others.  Reading a cell as what its column is meant for fails
  with a reason that a message can show.
-/
import Custody.Octets.Hex
import Custody.Store.Cell

namespace Custody.Store

/-! ## §1. Schemas. -/

/-- The name of a column and what it holds. -/
structure Column where
  name : String
  affinity : Affinity
deriving Repr

/-- A column of texts. -/
def Column.text (name : String) : Column := ⟨name, .text⟩

/-- A column of integers. -/
def Column.integer (name : String) : Column := ⟨name, .integer⟩

/-- The columns of a relation, of which the first `keyWidth` are its key. -/
structure Schema where
  columns : List Column
  keyWidth : Nat
deriving Repr

/-- A row: its cells in the order of the columns. -/
abbrev Row := List Cell

namespace Schema

/-- The place of a column. -/
def place (schema : Schema) (name : String) : Nat :=
  schema.columns.findIdx fun column => column.name == name

/-- The key of a row. -/
def key (schema : Schema) (row : Row) : List Cell := row.take schema.keyWidth

end Schema

/-! ## §2. Relations. -/

/-- Rows, the one put in last at the end. -/
abbrev Relation := List Row

namespace Relation

/-- Puts a row in, in place of the one with its key. -/
def upsert (schema : Schema) (rows : Relation) (row : Row) : Relation :=
  rows.filter (fun other => schema.key other != schema.key row) ++ [row]

/-- Whether a row with the key of another is there. -/
def hasKeyOf (schema : Schema) (rows : Relation) (row : Row) : Bool :=
  rows.any fun other => schema.key other == schema.key row

/-- The rows in ascending order of some columns, rows that are alike there left as they stand. -/
def sortedBy (schema : Schema) (names : List String) (rows : Relation) : Relation :=
  let cells (row : Row) := names.map fun name => row.getD (schema.place name) .null
  rows.mergeSort fun a b => Cell.allLe (cells a) (cells b)

end Relation

/-! ## §3. Reading cells. -/

/-- Why a text cell cannot be read as what it stands for. -/
def unreadable (reason : String) : String :=
  s!"Conversion error from type Text at index: 0, {reason}"

/-- Why a cell is of the wrong type for its column. -/
def wrongType (cell : Cell) (place : Nat) (name : String) : String :=
  s!"Invalid column type {cell.typeName} at index: {place}, name: {name}"

/-- A row seen under a schema. -/
structure RowView where
  schema : Schema
  cells : Row

namespace RowView

/-- The cell of a column. -/
def cell (row : RowView) (name : String) : Cell :=
  row.cells.getD (row.schema.place name) .null

/-- The fault of a cell of the wrong type. -/
def mistyped {α : Type} (row : RowView) (name : String) : Except String α :=
  .error (wrongType (row.cell name) (row.schema.place name) name)

/-- The text of a column. -/
def text (row : RowView) (name : String) : Except String String :=
  match row.cell name with
  | .text value => .ok value
  | _ => row.mistyped name

/-- The text of a column that may hold nothing. -/
def text? (row : RowView) (name : String) : Except String (Option String) :=
  match row.cell name with
  | .text value => .ok (some value)
  | .null => .ok none
  | _ => row.mistyped name

/-- The integer of a column. -/
def integer (row : RowView) (name : String) : Except String Int64 :=
  match row.cell name with
  | .integer value => .ok value
  | _ => row.mistyped name

/-- The word of a column. -/
def word (row : RowView) (name : String) : Except String UInt64 :=
  (row.integer name).map Int64.toUInt64

/-- The 32-bit word of a column, higher bits left out. -/
def word32 (row : RowView) (name : String) : Except String UInt32 :=
  (row.word name).map UInt64.toUInt32

/-- Reads a text as what it stands for. -/
def parse {α : Type} (read : String → Except String α) (text : String) : Except String α :=
  (read text).mapError unreadable

/-- Octets from their digits. -/
def readOctets (n : Nat) (text : String) : Except String (Octets n) :=
  (Hex.decodeExact n text).mapError Hex.Fault.message

/-- The octets of a column. -/
def octets (row : RowView) (n : Nat) (name : String) : Except String (Octets n) := do
  parse (readOctets n) (← row.text name)

/-- The octets of a column that may hold nothing. -/
def octets? (row : RowView) (n : Nat) (name : String) : Except String (Option (Octets n)) := do
  match ← row.text? name with
  | none => return none
  | some text => return some (← parse (readOctets n) text)

end RowView

end Custody.Store
