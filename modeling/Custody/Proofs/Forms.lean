/-
  Custody.Proofs.Forms
  ────────────────────────────────
  **IN WHICH WAYS A VALUE MAY BE WRITTEN.**

  A value that travels is written in one way and read in several: hexadecimal
  digits stand in either case, a record is read past members that it does not
  know, and an optional member that would be null may be left out.  The form of
  a value is its JSON with the places marked at which it may be written so.

  Main facts:
    * `Hex.readPairs_recased` — digits in either case are the same bytes;
    * `Form.allows_json`      — a form allows the JSON that it is the form of;
    * `Form.allows_capitals`, `Form.Allows.add`, `Form.Allows.drop` — and the same in capitals,
      with members added, and without members that are null;
    * `Form.Allows.found`     — in what it allows every slot of a record is found;
    * `Form.Allows.tagged`    — and a tag stands alone under its name.
-/
import Mathlib.Data.List.Forall2
import Mathlib.Data.List.Nodup
import Custody.Json.Record

namespace Custody

/-! ## §1. Digits in either case. -/

/-- A character, or the capital that belongs to it. -/
def Recased (c d : Char) : Prop := d = c ∨ d = c.toUpper

namespace Hex

/-- A capital digit is read as the small one. -/
theorem digitValue?_toUpper : ∀ n < 16, digitValue? (Text.hexDigit n).toUpper = some n := by decide

theorem utf8Size_toUpper : ∀ n < 16, (Text.hexDigit n).toUpper.utf8Size = 1 := by decide

/-- A digit is read in either case. -/
theorem digitValue?_recased {n : Nat} (small : n < 16) {d : Char}
    (recased : Recased (Text.hexDigit n) d) : digitValue? d = some n := by
  obtain rfl | rfl := recased
  · exact digitValue?_hexDigit n small
  · exact digitValue?_toUpper n small

theorem utf8Size_recased {n : Nat} (small : n < 16) {d : Char}
    (recased : Recased (Text.hexDigit n) d) : d.utf8Size = 1 := by
  obtain rfl | rfl := recased
  · exact utf8Size_hexDigit n small
  · exact utf8Size_toUpper n small

/-- **Digits in either case are the same bytes**, and as many. -/
theorem readPairs_recased {bytes : List UInt8} {cs : List Char}
    (recased : List.Forall₂ Recased (digits bytes) cs) (position : Nat) :
    readPairs position cs = .ok bytes ∧ utf8Length cs = 2 * bytes.length := by
  induction bytes generalizing cs position with
  | nil =>
    cases recased
    exact ⟨rfl, rfl⟩
  | cons byte rest ih =>
    have high : byte.toNat / 16 < 16 := by have := byte.toNat_lt; omega
    have low : byte.toNat % 16 < 16 := by omega
    have whole : byte.toNat / 16 * 16 + byte.toNat % 16 = byte.toNat := by omega
    change List.Forall₂ Recased (Text.hexDigit (byte.toNat / 16)
      :: Text.hexDigit (byte.toNat % 16) :: digits rest) cs at recased
    cases recased with
    | @cons _ c _ _ first recased =>
      cases recased with
      | @cons _ d _ cs second recased =>
        obtain ⟨read, length⟩ := ih recased (position + 2)
        constructor
        · simp [readPairs, readDigit, digitValue?_recased high first,
            digitValue?_recased low second, read, whole, bind, Except.bind, pure, Except.pure]
        · rw [utf8Length, utf8Length, utf8Size_recased high first, utf8Size_recased low second,
            length, List.length_cons]
          omega

variable {text : String}

/-- Bytes are read back from their digits in either case. -/
theorem decode_recased {bytes : List UInt8}
    (recased : List.Forall₂ Recased (encode bytes).toList text.toList) :
    decode text = .ok bytes := by
  rw [encode, String.toList_ofList] at recased
  obtain ⟨read, length⟩ := readPairs_recased recased 0
  simp [decode, read, length]

/-- A string of a fixed length is read back from its digits in either case. -/
theorem decodeExact_recased {n : Nat} {a : Octets n}
    (recased : List.Forall₂ Recased a.hex.toList text.toList) :
    decodeExact n text = .ok a := by
  rw [Octets.hex, encode, String.toList_ofList] at recased
  obtain ⟨read, length⟩ := readPairs_recased recased 0
  simp [decodeExact, read, length, a.length_eq, Octets.ofList?_eq, bind, Except.bind, pure,
    Except.pure]

end Hex

/-! ## §2. Forms. -/

/-- A member of a record: its name, whether it may be left out where it is null, and its form. -/
structure Slot (φ : Type) where
  name : String
  spare : Bool
  form : φ

/-- The JSON of a value, with the places at which it may be written otherwise. -/
inductive Form where
  /-- What is written in this way only. -/
  | fixed (j : Json)
  /-- Bytes in hexadecimal. -/
  | digits (bytes : List UInt8)
  | list (forms : List Form)
  | record (slots : List (Slot Form))

/-- The members that stand in the slots of a record: one in each, but for spare ones that would be
null. -/
inductive Members (allows : Form → Json → Prop) :
    List (Slot Form) → List (String × Json) → Prop
  | nil : Members allows [] []
  | kept {name : String} {spare : Bool} {form : Form} {j : Json} {slots : List (Slot Form)}
      {members : List (String × Json)} :
      allows form j → Members allows slots members →
      Members allows (⟨name, spare, form⟩ :: slots) ((name, j) :: members)
  | dropped {name : String} {slots : List (Slot Form)} {members : List (String × Json)} :
      Members allows slots members →
      Members allows (⟨name, true, .fixed .null⟩ :: slots) members

namespace Form

/-- What a value of a form may be written as: hexadecimal digits in either case, and records with
any members of other names in any place, and without spare members that would be null. -/
inductive Allows : Form → Json → Prop
  | fixed {j : Json} : Allows (.fixed j) j
  | digits {bytes : List UInt8} {text : String} :
      List.Forall₂ Recased (Hex.encode bytes).toList text.toList →
      Allows (.digits bytes) (.text text)
  | list {forms : List Form} {items : List Json} :
      List.Forall₂ Allows forms items → Allows (.list forms) (.list items)
  | record {slots : List (Slot Form)} {members : List (String × Json)} :
      Members Allows slots (members.filter fun m => m.1 ∈ slots.map (·.name)) →
      Allows (.record slots) (.object members)

mutual

/-- The JSON that a form is the form of. -/
def json : Form → Json
  | .fixed j => j
  | .digits bytes => .ofBytes bytes
  | .list forms => .list (jsonItems forms)
  | .record slots => .object (jsonMembers slots)

/-- The JSON of every form of a list. -/
def jsonItems : List Form → List Json
  | [] => []
  | form :: rest => form.json :: jsonItems rest

/-- The member of every slot of a record. -/
def jsonMembers : List (Slot Form) → List (String × Json)
  | [] => []
  | ⟨name, _, form⟩ :: rest => (name, form.json) :: jsonMembers rest

end

theorem jsonItems_eq_map (forms : List Form) : jsonItems forms = forms.map json := by
  induction forms with
  | nil => rfl
  | cons form rest ih => rw [jsonItems, ih, List.map_cons]

theorem jsonMembers_eq_map (slots : List (Slot Form)) :
    jsonMembers slots = slots.map fun slot => (slot.name, slot.form.json) := by
  induction slots with
  | nil => rfl
  | cons slot rest ih => rw [jsonMembers, ih, List.map_cons]

/-- A record as it is written has no members of other names. -/
theorem filter_jsonMembers (slots : List (Slot Form)) :
    (jsonMembers slots).filter (fun m => m.1 ∈ slots.map (·.name)) = jsonMembers slots := by
  rw [List.filter_eq_self, jsonMembers_eq_map]
  intro m mem
  obtain ⟨slot, inside, rfl⟩ := List.mem_map.mp mem
  exact decide_eq_true (List.mem_map_of_mem inside)

mutual

/-- **A form allows the JSON that it is the form of.** -/
theorem allows_json : ∀ form : Form, form.Allows form.json
  | .fixed _ => .fixed
  | .digits _ => .digits (List.forall₂_same.mpr fun _ _ => .inl rfl)
  | .list forms => .list (allows_jsonItems forms)
  | .record slots => .record ((filter_jsonMembers slots).symm ▸ members_jsonMembers slots)

theorem allows_jsonItems : ∀ forms : List Form, List.Forall₂ Allows forms (jsonItems forms)
  | [] => .nil
  | form :: rest => .cons (allows_json form) (allows_jsonItems rest)

theorem members_jsonMembers : ∀ slots : List (Slot Form), Members Allows slots (jsonMembers slots)
  | [] => .nil
  | ⟨_, _, form⟩ :: rest => .kept (allows_json form) (members_jsonMembers rest)

end

/-- **Bytes may be written in capitals.** -/
theorem allows_capitals (bytes : List UInt8) :
    (Form.digits bytes).Allows (.text (Hex.encode bytes).toUpper) := by
  refine .digits ?_
  rw [String.toUpper, String.toList_map, List.forall₂_map_right_iff]
  exact List.forall₂_same.mpr fun _ _ => .inr rfl

end Form

/-! ## §3. Members that come and go. -/

namespace Members

variable {allows : Form → Json → Prop} {slots : List (Slot Form)} {members : List (String × Json)}

/-- The members that stand for slots are named as they are, in their order. -/
theorem names_sublist (stand : Members allows slots members) :
    (members.map (·.1)).Sublist (slots.map (·.name)) := by
  induction stand with
  | nil => exact .slnil
  | kept _ _ ih => exact ih.cons_cons _
  | dropped _ ih => exact ih.cons _

/-- A null under the name of a spare slot may be left out. -/
theorem drop {name : String} {front back : List (String × Json)}
    (stand : Members allows slots (front ++ (name, .null) :: back))
    (distinct : (slots.map (·.name)).Nodup) (spare : ⟨name, true, .fixed .null⟩ ∈ slots) :
    Members allows slots (front ++ back) := by
  generalize whole : front ++ (name, Json.null) :: back = members at stand
  induction stand generalizing front with
  | nil => cases spare
  | @kept first _ form j slots members allowed stand ih =>
    obtain ⟨fresh, distinct⟩ := List.nodup_cons.mp distinct
    cases front with
    | nil =>
      cases whole
      -- No later slot has this name, so it is the spare one that the null stands in.
      rcases List.mem_cons.mp spare with same | later
      · cases same
        exact .dropped stand
      · exact absurd (List.mem_map_of_mem later) fresh
    | cons m front =>
      cases whole
      rcases List.mem_cons.mp spare with same | later
      · cases same
        have inside : name ∈ (front ++ (name, Json.null) :: back).map (·.1) :=
          List.mem_map_of_mem (List.mem_append_right front List.mem_cons_self)
        exact absurd (stand.names_sublist.subset inside) fresh
      · exact .kept allowed (ih distinct later rfl)
  | @dropped first slots members stand ih =>
    obtain ⟨fresh, distinct⟩ := List.nodup_cons.mp distinct
    rcases List.mem_cons.mp spare with same | later
    · cases same
      have inside : name ∈ members.map (·.1) := by
        rw [← whole]
        exact List.mem_map_of_mem (List.mem_append_right front List.mem_cons_self)
      exact absurd (stand.names_sublist.subset inside) fresh
    · exact .dropped (ih distinct later whole)

end Members

namespace Form.Allows

variable {slots : List (Slot Form)} {name : String} (front back : List (String × Json))

/-- **A member of another name may be added in any place.** -/
theorem add (allowed : (Form.record slots).Allows (.object (front ++ back)))
    (other : name ∉ slots.map (·.name)) (j : Json) :
    (Form.record slots).Allows (.object (front ++ (name, j) :: back)) := by
  cases allowed with
  | record stand =>
    refine .record ?_
    rw [List.filter_append] at stand
    rw [List.filter_append, List.filter_cons, if_neg (by simpa using other)]
    exact stand

/-- **A spare member that is null may be left out.** -/
theorem drop (allowed : (Form.record slots).Allows (.object (front ++ (name, .null) :: back)))
    (distinct : (slots.map (·.name)).Nodup) (spare : ⟨name, true, .fixed .null⟩ ∈ slots) :
    (Form.record slots).Allows (.object (front ++ back)) := by
  cases allowed with
  | record stand =>
    refine .record ?_
    have known : name ∈ slots.map (·.name) := List.mem_map_of_mem spare
    rw [List.filter_append, List.filter_cons, if_pos (decide_eq_true known)] at stand
    rw [List.filter_append]
    exact stand.drop distinct spare

end Form.Allows

/-! ## §4. Finding the members. -/

namespace Json

variable {name : String}

/-- Leaving out members changes nothing of what is found under a name that is kept. -/
theorem lookup_filter (keep : String → Bool) (kept : keep name = true)
    (members : List (String × Json)) :
    lookup name (members.filter fun m => keep m.1) = lookup name members := by
  induction members with
  | nil => rfl
  | cons m rest ih =>
    obtain ⟨n, j⟩ := m
    by_cases own : n = name
    · subst own
      have stays : ((n, j) :: rest).filter (fun m => keep m.1)
          = (n, j) :: rest.filter (fun m => keep m.1) := List.filter_cons_of_pos kept
      rw [stays, lookup, lookup, if_pos rfl, if_pos rfl]
    · rw [List.filter_cons]
      split
      case isTrue => rw [lookup, lookup, if_neg own, if_neg own, ih]
      case isFalse => rw [lookup, if_neg own, ih]

/-- Leaving out members changes nothing of those with a name that is kept. -/
theorem filter_name_filter (keep : String → Bool) (kept : keep name = true)
    (members : List (String × Json)) :
    (members.filter fun m => keep m.1).filter (fun m => m.1 == name)
      = members.filter fun m => m.1 == name := by
  rw [List.filter_filter]
  apply List.filter_congr
  intro m _
  by_cases own : m.1 = name
  · simp [own, kept]
  · simp [own]

/-- Nothing is found under a name that no member has. -/
theorem lookup_eq_none {members : List (String × Json)} (absent : name ∉ members.map (·.1)) :
    lookup name members = none := by
  induction members with
  | nil => rfl
  | cons m rest ih =>
    obtain ⟨n, j⟩ := m
    rw [List.map_cons, List.mem_cons, not_or] at absent
    rw [lookup, if_neg (Ne.symm absent.1), ih absent.2]

end Json

/-- What stands in a slot is found under its name, or it is left out as it may be. -/
def Slot.Found (slot : Slot Form) (r : Json.Record) : Prop :=
  (∃ j, Json.lookup slot.name r.members = some j ∧ slot.form.Allows j) ∨
    slot.spare = true ∧ slot.form = .fixed .null ∧ Json.lookup slot.name r.members = none

/-- Leaving out members changes nothing of a slot whose name is kept. -/
theorem Slot.found_filter {slot : Slot Form} (keep : String → Bool)
    (kept : keep slot.name = true) (members : List (String × Json)) :
    slot.Found ⟨members.filter fun m => keep m.1⟩ ↔ slot.Found ⟨members⟩ := by
  unfold Slot.Found
  rw [Json.lookup_filter keep kept]

/-- A member that has to be there is found. -/
theorem Slot.Found.lookup {name : String} {form : Form} {r : Json.Record}
    (found : Slot.Found ⟨name, false, form⟩ r) :
    ∃ j, Json.lookup name r.members = some j ∧ form.Allows j := by
  obtain found | ⟨spare, -⟩ := found
  · exact found
  · cases spare

namespace Members

variable {slots : List (Slot Form)} {members : List (String × Json)}

/-- Every slot of distinct names is found among the members. -/
theorem found (stand : Members Form.Allows slots members)
    (distinct : (slots.map (·.name)).Nodup) {slot : Slot Form} (mem : slot ∈ slots) :
    slot.Found ⟨members⟩ := by
  induction stand with
  | nil => cases mem
  | @kept name spare form j slots members allowed stand ih =>
    obtain ⟨fresh, distinct⟩ := List.nodup_cons.mp distinct
    rcases List.mem_cons.mp mem with rfl | later
    · exact .inl ⟨j, if_pos rfl, allowed⟩
    · -- The slot has another name than the first one.
      have other : name ≠ slot.name := by
        intro same
        exact fresh (List.mem_map.mpr ⟨slot, later, same.symm⟩)
      have skip : Json.lookup slot.name ((name, j) :: members) = Json.lookup slot.name members :=
        if_neg other
      have rest := ih distinct later
      unfold Slot.Found at rest ⊢
      rwa [skip]
  | @dropped name slots members stand ih =>
    obtain ⟨fresh, distinct⟩ := List.nodup_cons.mp distinct
    rcases List.mem_cons.mp mem with rfl | later
    · exact .inr ⟨rfl, rfl, Json.lookup_eq_none fun inside =>
        fresh (stand.names_sublist.subset inside)⟩
    · exact ih distinct later

end Members

namespace Form.Allows

/-- What stands in the slots of distinct names is found there, and no name of theirs twice. -/
theorem found {slots : List (Slot Form)} {members : List (String × Json)}
    (allowed : (Form.record slots).Allows (.object members))
    (distinct : (slots.map (·.name)).Nodup) {slot : Slot Form} (mem : slot ∈ slots) :
    slot.Found ⟨members⟩ ∧ (members.filter fun m => m.1 == slot.name).length ≤ 1 := by
  let known (name : String) : Bool := decide (name ∈ slots.map (·.name))
  have own : known slot.name = true := decide_eq_true (List.mem_map_of_mem mem)
  cases allowed with
  | record stand =>
    refine ⟨(Slot.found_filter known own members).mp (stand.found distinct mem), ?_⟩
    have once := List.nodup_iff_count_le_one.mp (stand.names_sublist.nodup distinct) slot.name
    rw [List.count, List.countP_map] at once
    rw [← Json.filter_name_filter known own, ← List.countP_eq_length_filter]
    exact once

/-- A tag that no other slot has for its name stands alone under it. -/
theorem tagged {tag : String} {value : Json} {slots : List (Slot Form)}
    {members : List (String × Json)}
    (allowed : (Form.record (⟨tag, false, .fixed value⟩ :: slots)).Allows (.object members))
    (fresh : tag ∉ slots.map (·.name)) :
    members.filter (fun m => m.1 == tag) = [(tag, value)] := by
  let known (name : String) : Bool := decide (name ∈ tag :: slots.map (·.name))
  have own : known tag = true := decide_eq_true List.mem_cons_self
  cases allowed with
  | record stand =>
    change Members Form.Allows _ (members.filter fun m => known m.1) at stand
    rw [← Json.filter_name_filter known own]
    generalize members.filter (fun m => known m.1) = standing at stand
    cases stand with
    | @kept _ _ _ j _ rest allowed stand =>
      cases allowed
      have others : rest.filter (fun m => m.1 == tag) = [] := by
        rw [List.filter_eq_nil_iff]
        intro m mem same
        have inside := stand.names_sublist.subset (List.mem_map_of_mem mem)
        exact fresh (eq_of_beq same ▸ inside)
      rw [List.filter_cons, if_pos (beq_self_eq_true tag), others]

end Form.Allows

end Custody
