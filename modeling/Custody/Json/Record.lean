/-
  Custody.Json.Record
  ────────────────────────────────
  **RECORDS, UNIONS AND SCALARS IN JSON.**

  A record is written as an object with its fields in order.  It is read from
  an object, in which unknown names are passed over and a known name stands at
  most once, or from the list of its fields in order, in which a tail of
  fields with defaults may be missing.  A union is a record with one field
  more that names the variant.

  Main facts: `fromJson?_toJson` for words, octets, texts and options — what
  is written is read back.
-/
import Custody.Identity
import Custody.Json
import Custody.Octets.Hex

namespace Custody

/-! ## §1. Writing and reading a type. -/

/-- Types whose values are written in JSON. -/
class ToJson (α : Type) where
  toJson : α → Json

/-- Types whose values are read from JSON. -/
class FromJson (α : Type) where
  fromJson? : Json → Option α
  /-- Whether the text of a value is read whole before its parts are told apart.  So it is for
  unions, and for records of which several stand in one object. -/
  whole : Bool := false

export ToJson (toJson)
export FromJson (fromJson?)

namespace Json

/-! ## §2. Scalars. -/

/-- A number as JSON. -/
def ofNat (n : Nat) : Json := .integer n

/-- The natural number below a limit that a value is. -/
def nat? (limit : Nat) : Json → Option Nat
  | .integer (.ofNat n) => if n < limit then some n else none
  | _ => none

/-- Bytes as hexadecimal text. -/
def ofBytes (bytes : List UInt8) : Json := .text (Hex.encode bytes)

/-- The bytes of a hexadecimal text. -/
def bytes? : Json → Option (List UInt8)
  | .text value => (Hex.decode value).toOption
  | _ => none

end Json

instance : ToJson Json := ⟨id⟩
instance : FromJson Json where
  fromJson? := some

instance : ToJson Bool := ⟨.bool⟩
instance : FromJson Bool where
  fromJson?
    | .bool value => some value
    | _ => none

instance : ToJson String := ⟨.text⟩
instance : FromJson String where
  fromJson? := Json.text?

instance : ToJson UInt64 := ⟨fun n => Json.ofNat n.toNat⟩
instance : FromJson UInt64 where
  fromJson? j := (j.nat? UInt64.size).map UInt64.ofNat

instance : ToJson UInt32 := ⟨fun n => Json.ofNat n.toNat⟩
instance : FromJson UInt32 where
  fromJson? j := (j.nat? UInt32.size).map UInt32.ofNat

instance {n : Nat} : ToJson (Octets n) := ⟨fun a => .text a.hex⟩
instance {n : Nat} : FromJson (Octets n) where
  fromJson?
    | .text value => (Hex.decodeExact n value).toOption
    | _ => none

instance : ToJson Identity := ⟨fun a => .text a.name⟩
instance : FromJson Identity where
  fromJson? j := j.text?.map Identity.mk

instance {α : Type} [ToJson α] : ToJson (Option α) where
  toJson
    | some value => toJson value
    | none => .null
instance {α : Type} [FromJson α] : FromJson (Option α) where
  fromJson?
    | .null => some none
    | j => (fromJson? j).map some
  whole := FromJson.whole α

instance {α : Type} [ToJson α] : ToJson (List α) := ⟨fun xs => .list (xs.map toJson)⟩
instance {α : Type} [FromJson α] : FromJson (List α) where
  fromJson?
    | .list items => items.mapM fromJson?
    | _ => none
  whole := FromJson.whole α

instance {α β : Type} [ToJson α] [ToJson β] : ToJson (α × β) :=
  ⟨fun pair => .list [toJson pair.1, toJson pair.2]⟩
instance {α β : Type} [FromJson α] [FromJson β] : FromJson (α × β) where
  fromJson?
    | .list [first, second] => do return (← fromJson? first, ← fromJson? second)
    | _ => none
  whole := FromJson.whole α || FromJson.whole β

/-! ## §3. Records. -/

namespace Json

/-- The fields of a record that were given. -/
structure Record where
  members : List (String × Json)

/-- Whether no name of a list stands twice among members. -/
def named (names : List String) (members : List (String × Json)) : Bool :=
  names.all fun name => (members.filter fun m => m.1 == name).length ≤ 1

/-- Reads a record from an object. -/
def object? (names : List String) : Json → Option Record
  | .object members => if named names members then some ⟨members⟩ else none
  | _ => none

/-- Reads a record from an object, or from the list of its fields in order, of which the last
`spare` may be missing. -/
def record? (names : List String) (spare : Nat) : Json → Option Record
  | .object members => object? names (.object members)
  | .list items =>
    if items.length ≤ names.length ∧ names.length ≤ items.length + spare then
      some ⟨names.zip items⟩
    else none
  | _ => none

/-- The field of a name, which has to be there. -/
def Record.field {α : Type} [FromJson α] (r : Record) (name : String) : Option α :=
  (lookup name r.members).bind fromJson?

/-- The field of a name, absent if it is missing or null. -/
def Record.field? {α : Type} [FromJson α] (r : Record) (name : String) : Option (Option α) :=
  match lookup name r.members with
  | none => some none
  | some value => fromJson? value

/-- The bytes under a name. -/
def Record.bytes (r : Record) (name : String) : Option (List UInt8) :=
  (lookup name r.members).bind bytes?

/-! ## §4. Unions. -/

/-- Splits a union into the name of its variant and the record of its fields. -/
def variant? (tag : String) : Json → Option (String × Json)
  | .object members =>
    match members.filter fun m => m.1 == tag with
    | [(_, .text name)] => some (name, .object (members.filter fun m => m.1 != tag))
    | _ => none
  | .list (.text name :: items) => some (name, .list items)
  | _ => none

/-- The name that a value without fields is written by: its text, or the one name of an object
that gives it nothing. -/
def symbol? : Json → Option String
  | .text name => some name
  | .object [(name, .null)] => some name
  | _ => none

/-- The name that a value without fields is written by inside a union, where an object without
members is nothing as well. -/
def innerSymbol? : Json → Option String
  | .object [(name, .object [])] => some name
  | j => j.symbol?

/-- The value that a name stands for, in a field of a union. -/
def Record.symbol {α : Type} (r : Record) (name : String) (ofName? : String → Option α) :
    Option α :=
  ((lookup name r.members).bind innerSymbol?).bind ofName?

end Json

/-! ## §5. Reading back. -/

/-- A number below the limit is read back. -/
theorem Json.nat?_ofNat {limit n : Nat} (h : n < limit) : (Json.ofNat n).nat? limit = some n := by
  show (if n < limit then some n else none) = some n
  simp [h]

/-- A word of 64 bits is read back. -/
theorem UInt64.fromJson?_toJson (n : UInt64) : fromJson? (toJson n) = some n := by
  show ((Json.ofNat n.toNat).nat? UInt64.size).map UInt64.ofNat = some n
  rw [Json.nat?_ofNat n.toNat_lt]
  simp

theorem UInt32.fromJson?_toJson (n : UInt32) : fromJson? (toJson n) = some n := by
  show ((Json.ofNat n.toNat).nat? UInt32.size).map UInt32.ofNat = some n
  rw [Json.nat?_ofNat n.toNat_lt]
  simp

theorem Octets.fromJson?_toJson {n : Nat} (a : Octets n) : fromJson? (toJson a) = some a := by
  show (Hex.decodeExact n (Hex.encode a.bytes)).toOption = some a
  rw [Hex.decodeExact_encode]
  rfl

theorem Identity.fromJson?_toJson (a : Identity) : fromJson? (toJson a) = some a := rfl

theorem String.fromJson?_toJson (s : String) : fromJson? (toJson s) = some s := rfl

end Custody
