/-
  Custody.Proofs.Parts
  ────────────────────────────────
  **RECORDS ARE READ BACK PART BY PART.**

  A type is read back if its values are read from whatever their forms allow.
  A record is put together from parts, each with its slot in the object and
  what the reader finds under its name.  Whatever the form of the record
  allows, the reader finds every part, so it is enough that the record is read
  where its parts are found.

  Main facts:
    * `Form.Allows.reads`    — in what its form allows the parts of a record are found;
    * `Form.Allows.variant?` — and the name of a variant in front of them;
    * `RoundTrips.of_record`, `RoundTrips.of_union` — so records and unions are read back.
-/
import Custody.Proofs.Forms
import Custody.RedemptionAddress

namespace Custody

/-! ## §1. Types that are read back. -/

/-- Types whose values have a form. -/
class HasForm (α : Type) where
  form : α → Form

export HasForm (form)

/-- Types that are read back from JSON: their values are written as their form says, and read from
that and from whatever else the form allows. -/
class RoundTrips (α : Type) [ToJson α] [FromJson α] [HasForm α] : Prop where
  written (a : α) : (form a).json = toJson a
  allowed {a : α} {j : Json} : (form a).Allows j → fromJson? j = some a
  plain (a : α) : fromJson? (toJson a) = some a :=
    allowed (written a ▸ Form.allows_json (form a))

section Scalars

/-- A type round-trips if its values are written in one way only and read back from it. -/
theorem RoundTrips.of_fixed {α : Type} [ToJson α] [FromJson α] [HasForm α]
    (fixed : ∀ a : α, form a = .fixed (toJson a))
    (plain : ∀ a : α, fromJson? (toJson a) = some a) : RoundTrips α where
  written a := by rw [fixed, Form.json]
  allowed := by
    intro a j allowed
    rw [fixed] at allowed
    cases allowed
    exact plain a
  plain

instance : HasForm UInt64 := ⟨fun n => .fixed (toJson n)⟩
instance : RoundTrips UInt64 := .of_fixed (fun _ => rfl) UInt64.fromJson?_toJson

instance : HasForm UInt32 := ⟨fun n => .fixed (toJson n)⟩
instance : RoundTrips UInt32 := .of_fixed (fun _ => rfl) UInt32.fromJson?_toJson

instance : HasForm Bool := ⟨fun b => .fixed (toJson b)⟩
instance : RoundTrips Bool := .of_fixed (fun _ => rfl) fun _ => rfl

instance : HasForm String := ⟨fun text => .fixed (toJson text)⟩
instance : RoundTrips String := .of_fixed (fun _ => rfl) String.fromJson?_toJson

instance : HasForm Identity := ⟨fun a => .fixed (toJson a)⟩
instance : RoundTrips Identity := .of_fixed (fun _ => rfl) Identity.fromJson?_toJson

instance {n : Nat} : HasForm (Octets n) := ⟨fun a => .digits a.bytes⟩
instance {n : Nat} : RoundTrips (Octets n) where
  written _ := rfl
  allowed := by
    intro a j allowed
    cases allowed with
    | @digits _ text recased =>
      show (Hex.decodeExact n text).toOption = some a
      rw [Hex.decodeExact_recased recased]
      rfl

instance : HasForm RedemptionAddress := ⟨fun a => .digits a.bytes⟩
instance : RoundTrips RedemptionAddress where
  written _ := rfl
  allowed := by
    intro a j allowed
    cases allowed with
    | @digits _ text recased =>
      show (RedemptionAddress.ofHex text).toOption = some a
      unfold RedemptionAddress.ofHex
      rw [Hex.decode_recased recased]
      simp [a.length_valid, Except.toOption]

end Scalars

section Compounds

variable {α : Type} [ToJson α] [FromJson α] [HasForm α]

instance : HasForm (Option α) where
  form
    | some a => form a
    | none => .fixed .null

/-- An optional value is read back if null is no value itself. -/
theorem RoundTrips.option [RoundTrips α] (no_null : fromJson? (α := α) .null = none) :
    RoundTrips (Option α) where
  written
    | some a => RoundTrips.written a
    | none => rfl
  allowed := by
    intro a j allowed
    cases a with
    | none =>
      cases allowed
      rfl
    | some a =>
      have read : fromJson? j = some a := RoundTrips.allowed allowed
      cases j with
      | null => cases no_null.symm.trans read
      | _ =>
        show (fromJson? (α := α) _).map some = some (some a)
        rw [read, Option.map_some]

instance : RoundTrips (Option Identity) := .option rfl
instance {n : Nat} : RoundTrips (Option (Octets n)) := .option rfl

instance : HasForm (List α) := ⟨fun as => .list (as.map form)⟩

/-- Values are read back from items that they may be written as. -/
theorem mapM_fromJson?_allowed [RoundTrips α] {as : List α} {items : List Json}
    (allowed : List.Forall₂ Form.Allows (as.map form) items) :
    items.mapM (fromJson? (α := α)) = some as := by
  induction as generalizing items with
  | nil =>
    cases allowed
    rfl
  | cons a rest ih =>
    cases allowed with
    | cons first others =>
      rw [List.mapM_cons, RoundTrips.allowed first, ih others]
      rfl

instance [RoundTrips α] : RoundTrips (List α) where
  written as := by
    show Json.list (Form.jsonItems (as.map form)) = Json.list (as.map toJson)
    rw [Form.jsonItems_eq_map, List.map_map]
    congr 1
    exact List.map_congr_left fun a _ => RoundTrips.written a
  allowed := by
    intro as j allowed
    cases allowed with
    | list allowed => exact mapM_fromJson?_allowed allowed

end Compounds

/-! ## §2. Parts of a record. -/

/-- A member of a record with what it is written as and what its reader finds under its name. -/
structure Part where
  slot : Slot Form
  json : Json
  written : slot.form.json = json
  Gives : Json.Record → Prop
  gives {r : Json.Record} : slot.Found r → Gives r

namespace Part

/-- The name of a part. -/
def name (p : Part) : String := p.slot.name

section Values

variable {α : Type} [ToJson α] [FromJson α] [HasForm α]

/-- A member that has to be there. -/
def of [RoundTrips α] (name : String) (a : α) : Part where
  slot := ⟨name, false, form a⟩
  json := toJson a
  written := RoundTrips.written a
  Gives r := r.field name = some a
  gives := by
    intro r found
    obtain ⟨j, at_name, allowed⟩ := found.lookup
    rw [Json.Record.field, at_name, Option.bind_some]
    exact RoundTrips.allowed allowed

/-- A member that may be left out where it is null. -/
def spare [RoundTrips (Option α)] (name : String) (a : Option α) : Part where
  slot := ⟨name, true, form a⟩
  json := toJson a
  written := RoundTrips.written a
  Gives r := r.field? name = some a
  gives := by
    rintro r (⟨j, at_name, allowed⟩ | ⟨-, null, missing⟩)
    · unfold Json.Record.field?
      rw [at_name]
      exact RoundTrips.allowed allowed
    · -- The null that was left out would have been read as nothing, so that is what it stood for.
      have allowed : (form a).Allows .null := by
        rw [show form a = .fixed .null from null]
        exact .fixed
      unfold Json.Record.field?
      rw [missing]
      exact RoundTrips.allowed allowed

end Values

/-- Bytes of any number. -/
def bytes (name : String) (bytes : List UInt8) : Part where
  slot := ⟨name, false, .digits bytes⟩
  json := .ofBytes bytes
  written := rfl
  Gives r := r.bytes name = some bytes
  gives := by
    intro r found
    obtain ⟨j, at_name, allowed⟩ := found.lookup
    cases allowed with
    | @digits _ text recased =>
      rw [Json.Record.bytes, at_name, Option.bind_some]
      show (Hex.decode text).toOption = some bytes
      rw [Hex.decode_recased recased]
      rfl

/-- A value that stands under its own name inside a union. -/
def symbol {α : Type} (name text : String) {ofName? : String → Option α} {a : α}
    (named : ofName? text = some a) : Part where
  slot := ⟨name, false, .fixed (.text text)⟩
  json := .text text
  written := rfl
  Gives r := r.symbol name ofName? = some a
  gives := by
    intro r found
    obtain ⟨j, at_name, allowed⟩ := found.lookup
    cases allowed
    rw [Json.Record.symbol, at_name, Option.bind_some]
    exact named

section Laws

variable {name text : String} {r : Json.Record}

@[simp] theorem gives_bytes {bytes : List UInt8} :
    (Part.bytes name bytes).Gives r ↔ r.bytes name = some bytes := Iff.rfl

variable {α : Type} {ofName? : String → Option α} {a : α} {named : ofName? text = some a}

@[simp] theorem name_symbol : (symbol name text named).name = name := rfl

@[simp] theorem gives_symbol :
    (symbol name text named).Gives r ↔ r.symbol name ofName? = some a := Iff.rfl

variable [ToJson α] [FromJson α] [HasForm α]

@[simp] theorem name_of [RoundTrips α] : (of name a).name = name := rfl

@[simp] theorem gives_of [RoundTrips α] : (of name a).Gives r ↔ r.field name = some a := Iff.rfl

variable {optional : Option α} [RoundTrips (Option α)]

@[simp] theorem name_spare : (spare name optional).name = name := rfl

@[simp] theorem gives_spare :
    (spare name optional).Gives r ↔ r.field? name = some optional := Iff.rfl

end Laws

end Part

/-! ## §3. Finding the parts. -/

/-- The form of a record of some parts. -/
def Form.ofParts (parts : List Part) : Form := .record (parts.map (·.slot))

/-- Where many names stand at most once each, so do fewer. -/
theorem Json.named_of_subset {names known : List String} {members : List (String × Json)}
    (sub : names ⊆ known) (once : named known members = true) : named names members = true := by
  rw [named, List.all_eq_true] at once ⊢
  intro name mem
  exact once name (sub mem)

/-- A record that its reader finds the parts in: none of their names stands twice, and each gives
what it should. -/
structure Json.Record.Holds (r : Json.Record) (parts : List Part) : Prop where
  named : Json.named (parts.map (·.name)) r.members = true
  gives : ∀ p ∈ parts, p.Gives r

namespace Json.Record.Holds

variable {parts : List Part} {r : Json.Record} {names : List String}

/-- A record holds parts if each is found, and none twice. -/
theorem of_found (found : ∀ p ∈ parts, p.slot.Found r ∧
    (r.members.filter fun m => m.1 == p.name).length ≤ 1) : r.Holds parts where
  named := by
    rw [Json.named, List.all_eq_true]
    intro name mem
    obtain ⟨p, inside, rfl⟩ := List.mem_map.mp mem
    exact decide_eq_true (found p inside).2
  gives p mem := p.gives (found p mem).1

/-- Fewer parts are found as well. -/
theorem mono {fewer : List Part} (holds : r.Holds parts) (sub : fewer ⊆ parts) :
    r.Holds fewer where
  named := Json.named_of_subset (List.map_subset _ sub) holds.named
  gives p mem := holds.gives p (sub mem)

/-- A record that holds parts is read, whatever else it has. -/
theorem object? (holds : r.Holds parts) (known : names ⊆ parts.map (·.name)) :
    Json.object? names (.object r.members) = some r := by
  show (if Json.named names r.members = true then some r else none) = some r
  exact if_pos (Json.named_of_subset known holds.named)

/-- A record that holds parts is read even if it may lack some. -/
theorem record? (holds : r.Holds parts) (known : names ⊆ parts.map (·.name)) (spare : Nat) :
    Json.record? names spare (.object r.members) = some r :=
  holds.object? known

end Json.Record.Holds

/-- A text that a field gives is what stands there. -/
theorem Json.Record.lookup_of_field {r : Json.Record} {name text : String}
    (given : r.field name = some text) : lookup name r.members = some (.text text) := by
  obtain ⟨j, at_name, read⟩ := Option.bind_eq_some_iff.mp given
  cases j with
  | text value =>
    cases read
    exact at_name
  | _ => cases read

namespace Form.Allows

variable {parts : List Part} {j : Json}

/-- **In whatever the form of a record allows every part is found.** -/
theorem reads (allowed : (Form.ofParts parts).Allows j)
    (distinct : (parts.map (·.name)).Nodup) :
    ∃ r : Json.Record, j = .object r.members ∧ r.Holds parts := by
  have slots_distinct : ((parts.map (·.slot)).map (·.name)).Nodup := by
    rwa [List.map_map]
  unfold Form.ofParts at allowed
  cases j with
  | object members =>
    refine ⟨⟨members⟩, rfl, .of_found fun p mem => ?_⟩
    exact allowed.found slots_distinct (List.mem_map_of_mem mem)
  | _ => cases allowed

/-- **The name of a variant is told apart from the parts behind it.** -/
theorem variant? {tag kind : String}
    (allowed : (Form.ofParts (.of tag kind :: parts)).Allows j)
    (distinct : (tag :: parts.map (·.name)).Nodup) :
    ∃ r : Json.Record, j.variant? tag = some (kind, .object r.members) ∧ r.Holds parts := by
  obtain ⟨fresh, distinct⟩ := List.nodup_cons.mp distinct
  have slots_fresh : tag ∉ (parts.map (·.slot)).map (·.name) := by
    rwa [List.map_map]
  have slots_distinct : ((parts.map (·.slot)).map (·.name)).Nodup := by
    rwa [List.map_map]
  unfold Form.ofParts at allowed
  cases j with
  | object members =>
    refine ⟨⟨members.filter fun m => m.1 != tag⟩, ?_, .of_found fun p mem => ?_⟩
    · have tagged : members.filter (fun m => m.1 == tag) = [(tag, .text kind)] :=
        allowed.tagged slots_fresh
      simp only [Json.variant?, tagged]
    · have other : (p.name != tag) = true := by
        rw [bne_iff_ne]
        rintro same
        exact fresh (List.mem_map.mpr ⟨p, mem, same⟩)
      obtain ⟨found, once⟩ := allowed.found (List.nodup_cons.mpr ⟨slots_fresh, slots_distinct⟩)
        (List.mem_cons_of_mem _ (List.mem_map_of_mem mem))
      refine ⟨(Slot.found_filter (· != tag) other members).mpr found, ?_⟩
      show ((members.filter fun m => m.1 != tag).filter fun m => m.1 == p.name).length ≤ 1
      rw [Json.filter_name_filter (· != tag) other]
      exact once
  | _ => cases allowed

end Form.Allows

/-! ## §4. Records that are read back. -/

/-- Types whose values are records of some parts. -/
class HasParts (α : Type) where
  parts : α → List Part

export HasParts (parts)

instance {α : Type} [HasParts α] : HasForm α := ⟨fun a => .ofParts (parts a)⟩

namespace RoundTrips

variable {α : Type} [ToJson α] [HasParts α]

/-- A value that is written part by part is written as its form says. -/
theorem written_of_parts (a : α)
    (members : toJson a = .object ((parts a).map fun p => (p.name, p.json))) :
    (form a).json = toJson a := by
  rw [members]
  show Json.object (Form.jsonMembers ((parts a).map (·.slot))) = _
  rw [Form.jsonMembers_eq_map, List.map_map]
  congr 1
  exact List.map_congr_left fun p _ => congrArg (Prod.mk p.name) p.written

variable [FromJson α]

/-- **A record is read back if it is read wherever its parts are found.** -/
theorem of_parts
    (members : ∀ a : α, toJson a = .object ((parts a).map fun p => (p.name, p.json)))
    (distinct : ∀ a : α, ((parts a).map (·.name)).Nodup)
    (read : ∀ (a : α) (r : Json.Record), r.Holds (parts a) →
      fromJson? (.object r.members) = some a) : RoundTrips α where
  written a := written_of_parts a (members a)
  allowed := by
    intro a j allowed
    obtain ⟨r, rfl, holds⟩ := Form.Allows.reads allowed (distinct a)
    exact read a r holds

/-- The same for records that are built from their fields at once. -/
theorem of_record {names : List String} {spare : Nat} {build : Json.Record → Option α}
    (members : ∀ a : α, toJson a = .object ((parts a).map fun p => (p.name, p.json)))
    (same : ∀ a : α, (parts a).map (·.name) = names) (distinct : names.Nodup)
    (reader : ∀ j, fromJson? j = (Json.record? names spare j).bind build)
    (built : ∀ (a : α) (r : Json.Record), (∀ p ∈ parts a, p.Gives r) → build r = some a) :
    RoundTrips α := by
  refine .of_parts members (fun a => same a ▸ distinct) fun a r holds => ?_
  have found : Json.record? names spare (.object r.members) = some r :=
    holds.record? (same a ▸ List.Subset.refl _) spare
  rw [reader, found, Option.bind_some]
  exact built a r holds.gives

/-- **A union is read back if each variant is read wherever its parts are found.** -/
theorem of_union {tag : String} {kind : α → String} {fields : α → List Part}
    {build : String → Json → Option α}
    (members : ∀ a : α, toJson a = .object ((parts a).map fun p => (p.name, p.json)))
    (split : ∀ a : α, parts a = .of tag (kind a) :: fields a)
    (distinct : ∀ a : α, (tag :: (fields a).map (·.name)).Nodup)
    (reader : ∀ j, fromJson? j = (j.variant? tag).bind fun union => build union.1 union.2)
    (built : ∀ (a : α) (r : Json.Record), r.Holds (fields a) →
      build (kind a) (.object r.members) = some a) : RoundTrips α where
  written a := written_of_parts a (members a)
  allowed := by
    intro a j allowed
    have form_eq : form a = .ofParts (.of tag (kind a) :: fields a) := by
      rw [← split a]
      rfl
    rw [form_eq] at allowed
    obtain ⟨r, variant, holds⟩ := allowed.variant? (distinct a)
    rw [reader, variant, Option.bind_some]
    exact built a r holds

end RoundTrips

end Custody
