/-
  Custody.Proofs.Places
  ────────────────────────────────
  **LISTS OF RESERVATIONS AS ROWS WITH THEIR PLACES.**

  A depositor's list is taken apart into one row for each key, with the place
  that the key has in the list.  As no key comes twice, the rows are a partial
  function from depositor and key to the place, and a list that grows only
  brings rows for it.  In the order of the places the lists stand there again.

  Main facts:
    * `overlay_places`   — the rows of the lists that grew lead to the new lists;
    * `sortedPlaces_own` — the sorted rows of a depositor are the list in order;
    * `indexOf_sorted`   — the lists are put together again from sorted rows.
-/
import Mathlib.Algebra.Group.Nat.Defs
import Mathlib.Data.List.Nodup
import Custody.Proofs.Mirrors

namespace Custody

open Store (Cell Relation)

/-! ## §1. The order of cells. -/

/-- A word in the lower half keeps its value as a signed integer. -/
theorem toInt_toInt64 {n : UInt64} (low : n.toNat < 2 ^ 63) : n.toInt64.toInt = n.toNat := by
  rw [← Int64.toInt_toBitVec, UInt64.toBitVec_toInt64,
    BitVec.toInt_eq_toNat_of_lt (by rw [UInt64.toNat_toBitVec]; omega), UInt64.toNat_toBitVec]

namespace Store.Cell

theorem le_total (a b : Cell) : a.le b = true ∨ b.le a = true := by
  cases a <;> cases b <;> simp [le, rank, Int64.le_total, String.le_total]

/-- Cells are ordered transitively. -/
theorem le_trans {a b c : Cell} (first : a.le b = true) (second : b.le c = true) :
    a.le c = true := by
  cases a <;> cases b <;> cases c <;> simp_all [le, rank]
  case integer.integer.integer => exact Int64.le_trans first second
  case text.text.text => exact String.le_trans first second

/-- Cells that are in order both ways are the same, unless they are approximate. -/
theorem le_antisymm {a b : Cell} (exact : ∀ literal, a ≠ .real literal) (first : a.le b = true)
    (second : b.le a = true) : a = b := by
  cases a <;> cases b <;> simp_all [le, rank]
  case integer.integer => exact Int64.le_antisymm first second
  case text.text => exact String.le_antisymm first second

theorem allLe_total (as bs : List Cell) : allLe as bs = true ∨ allLe bs as = true := by
  induction as generalizing bs with
  | nil => exact .inl rfl
  | cons a as ih =>
    cases bs with
    | nil => exact .inr rfl
    | cons b bs =>
      unfold allLe
      by_cases same : a = b
      · rw [if_pos same, if_pos same.symm]
        exact ih bs
      · rw [if_neg same, if_neg (Ne.symm same)]
        exact le_total a b

/-- Rows of exact cells are ordered transitively. -/
theorem allLe_trans {as bs cs : List Cell} (exact : ∀ a ∈ as, ∀ literal, a ≠ .real literal)
    (first : allLe as bs = true) (second : allLe bs cs = true) : allLe as cs = true := by
  induction as generalizing bs cs with
  | nil => rfl
  | cons a as ih =>
    cases bs with
    | nil => cases first
    | cons b bs =>
      cases cs with
      | nil => cases second
      | cons c cs =>
        unfold allLe at first second ⊢
        by_cases ab : a = b
        · subst ab
          rw [if_pos rfl] at first
          by_cases ac : a = c
          · rw [if_pos ac] at second ⊢
            exact ih (fun x mem => exact x (List.mem_cons_of_mem a mem)) first second
          · rw [if_neg ac] at second ⊢
            exact second
        · rw [if_neg ab] at first
          by_cases bc : b = c
          · rw [← bc, if_neg ab]
            exact first
          · rw [if_neg bc] at second
            rw [if_neg]
            · exact le_trans first second
            · intro same
              rw [← same] at second
              exact ab (le_antisymm (exact a List.mem_cons_self) first second)

end Store.Cell

/-! ## §2. Places. -/

/-- A key with its depositor. -/
abbrev Owned := Identity × DepositKey

/-- The keys of one depositor's list, each with its place. -/
def placesOf (own : Identity × List DepositKey) : List (Owned × Nat) :=
  own.2.mapIdx fun place key => ((own.1, key), place)

/-- The place of a key in its depositor's list. -/
def places (index : Table Identity (List DepositKey)) (owned : Owned) : Option Nat :=
  (index.get? owned.1).bind fun keys => keys.idxOf? owned.2

/-- The places of a depositor's keys are where they stand. -/
theorem mem_placesOf {own : Identity × List DepositKey} {entry : Owned × Nat} :
    entry ∈ placesOf own ↔ entry.1.1 = own.1 ∧ own.2[entry.2]? = some entry.1.2 := by
  obtain ⟨⟨depositor, key⟩, place⟩ := entry
  unfold placesOf
  rw [List.mem_mapIdx]
  constructor
  · intro h
    obtain ⟨i, inside, same⟩ := h
    cases same
    exact ⟨rfl, List.getElem?_eq_getElem inside⟩
  · intro h
    obtain ⟨rfl, found⟩ := h
    obtain ⟨inside, same⟩ := List.getElem?_eq_some_iff.mp found
    exact ⟨place, inside, by rw [same]⟩

/-- Lists in which no key comes twice. -/
def Distinct (index : Table Identity (List DepositKey)) : Prop :=
  ∀ depositor keys, index.get? depositor = some keys → keys.Nodup

/-- Among distinct keys each is found where it stands. -/
theorem idxOf?_eq_some_iff {keys : List DepositKey} (distinct : keys.Nodup) {key : DepositKey}
    {place : Nat} : keys.idxOf? key = some place ↔ keys[place]? = some key := by
  rw [List.idxOf?_eq_some_iff, List.getElem?_eq_some_iff]
  constructor
  · intro h
    exact ⟨h.1, h.2.1⟩
  · -- No earlier place has the key, as no key comes twice.
    intro h
    obtain ⟨inside, same⟩ := h
    refine ⟨inside, same, fun j below other => ?_⟩
    have := (List.Nodup.getElem_inj_iff distinct).mp (other.trans same.symm)
    omega

/-- In an index of distinct keys each has the place at which it stands. -/
theorem places_eq_some_iff {index : Table Identity (List DepositKey)} (distinct : Distinct index)
    {owned : Owned} {place : Nat} :
    places index owned = some place ↔
      ∃ keys, index.get? owned.1 = some keys ∧ keys[place]? = some owned.2 := by
  unfold places
  rw [Option.bind_eq_some_iff]
  refine exists_congr fun keys => and_congr_right fun listed => ?_
  exact idxOf?_eq_some_iff (distinct owned.1 keys listed)

/-- The rows of a list are the rows of its entries. -/
theorem indexRows_eq (own : Identity × List DepositKey) :
    Relational.indexRows own = (placesOf own).map Relational.placeLayout.row := by
  refine List.ext_getElem? fun place => ?_
  simp [Relational.indexRows, placesOf, Relational.placeLayout, Function.comp_def]

/-- The rows of a list stand in the order of their places. -/
theorem pairwise_placesOf (own : Identity × List DepositKey) :
    (placesOf own).Pairwise fun a b => a.2 ≤ b.2 := by
  rw [List.pairwise_iff_getElem]
  intro i j inside inside' below
  simpa [placesOf] using Nat.le_of_lt below

/-- Every key of a depositor has a place. -/
theorem map_owned_placesOf (own : Identity × List DepositKey) :
    (placesOf own).map (·.1) = own.2.map fun key => (own.1, key) := by
  refine List.ext_getElem? fun place => ?_
  simp [placesOf, Function.comp_def]

/-- Distinct keys have distinct places. -/
theorem nodup_placesOf {own : Identity × List DepositKey} (distinct : own.2.Nodup) :
    (placesOf own).Nodup := by
  refine List.Nodup.of_map (·.1) ?_
  rw [map_owned_placesOf]
  exact distinct.map fun _ _ same => congrArg Prod.snd same

section Growth

variable {before after : Table Identity (List DepositKey)}

/-- The places that are written are those of depositors whose keys have changed. -/
theorem mem_changedPlaces {entry : Owned × Nat} :
    entry ∈ (before.changed after).flatMap placesOf ↔
      ∃ keys, after.get? entry.1.1 = some keys ∧ before.get? entry.1.1 ≠ some keys ∧
        keys[entry.2]? = some entry.1.2 := by
  rw [List.mem_flatMap]
  constructor
  · intro h
    obtain ⟨⟨depositor, keys⟩, changed, mem⟩ := h
    obtain ⟨listed, differ⟩ := Table.mem_changed_iff.mp changed
    obtain ⟨same, found⟩ := mem_placesOf.mp mem
    rw [same]
    exact ⟨keys, listed, differ, found⟩
  · intro h
    obtain ⟨keys, listed, differ, found⟩ := h
    exact ⟨(entry.1.1, keys), Table.mem_changed_iff.mpr ⟨listed, differ⟩,
      mem_placesOf.mpr ⟨rfl, found⟩⟩

/-- No key is written twice. -/
theorem nodup_changedPlaces (distinct : Distinct after) :
    (((before.changed after).flatMap placesOf).map (·.1)).Nodup := by
  have keyed : ((before.changed after).flatMap placesOf).map (·.1)
      = (before.changed after).flatMap fun own => own.2.map fun key => (own.1, key) := by
    rw [List.map_flatMap]
    congr 1
    exact funext map_owned_placesOf
  rw [keyed, List.nodup_flatMap]
  constructor
  · intro own changed
    have listed := distinct own.1 own.2 (Table.mem_changed_iff.mp changed).1
    exact listed.map fun _ _ same => congrArg Prod.snd same
  · have apart := List.pairwise_map.mp (Table.nodup_changed before after)
    refine apart.imp fun differ => ?_
    intro owned first second
    obtain ⟨_, -, rfl⟩ := List.mem_map.mp first
    obtain ⟨_, -, same⟩ := List.mem_map.mp second
    exact differ (congrArg Prod.fst same).symm

/-- **The rows of the lists that grew lead to the new lists.** -/
theorem overlay_places (distinct : Distinct after)
    (grows : ∀ depositor keys, before.get? depositor = some keys →
      ∃ more, after.get? depositor = some (keys ++ more)) :
    overlay (places before) ((before.changed after).flatMap placesOf) = places after := by
  funext owned
  by_cases mem : owned ∈ ((before.changed after).flatMap placesOf).map (·.1)
  · obtain ⟨⟨_, place⟩, changed, rfl⟩ := List.mem_map.mp mem
    obtain ⟨keys, listed, -, found⟩ := mem_changedPlaces.mp changed
    rw [overlay_of_mem (nodup_changedPlaces distinct) changed]
    exact ((places_eq_some_iff distinct).mpr ⟨keys, listed, found⟩).symm
  · rw [overlay_of_not_mem mem]
    -- What has no row is at the place where it was, or has no place at all.
    cases listed : after.get? owned.1 with
    | none =>
      cases old : before.get? owned.1 with
      | none => rw [places, places, old, listed]
      | some keys =>
        obtain ⟨more, grown⟩ := grows owned.1 keys old
        rw [listed] at grown
        cases grown
    | some keys =>
      by_cases same : before.get? owned.1 = some keys
      · rw [places, places, same, listed]
      · have absent : owned.2 ∉ keys := by
          intro among
          obtain ⟨place, found⟩ := List.mem_iff_getElem?.mp among
          exact mem (List.mem_map.mpr ⟨(owned, place),
            mem_changedPlaces.mpr ⟨keys, listed, same, found⟩, rfl⟩)
        have gone : places after owned = none := by
          rw [places, listed]
          exact List.idxOf?_eq_none_iff.mpr absent
        rw [gone]
        cases old : before.get? owned.1 with
        | none => rw [places, old]; rfl
        | some keys' =>
          obtain ⟨more, grown⟩ := grows owned.1 keys' old
          rw [listed] at grown
          cases grown
          rw [places, old]
          exact List.idxOf?_eq_none_iff.mpr fun among => absent (List.mem_append_left more among)

end Growth

/-! ## §3. Sorted rows. -/

/-- The cells that the rows of lists are sorted by. -/
def placeCells (entry : Owned × Nat) : List Cell := [
  Relational.cellOfName entry.1.1, .ofWord (UInt64.ofNat entry.2),
  Relational.cellOf entry.1.2]

/-- Entries in the order of their rows. -/
def sortedPlaces (entries : List (Owned × Nat)) : List (Owned × Nat) :=
  entries.mergeSort fun a b => Cell.allLe (placeCells a) (placeCells b)

/-- Sorting rows of the index sorts their entries. -/
theorem sortedIndex_eq (entries : List (Owned × Nat)) :
    Relational.sortedIndex (entries.map Relational.placeLayout.row)
      = (sortedPlaces entries).map Relational.placeLayout.row := by
  have cells (entry : Owned × Nat) : ["depositor", "position", "utxo_hash"].map (fun name =>
      (Relational.placeLayout.row entry).getD (Relational.indexSchema.place name) .null)
      = placeCells entry := by
    simp [Relational.placeLayout, Relational.indexRow, placeCells, Store.Schema.place,
      Relational.indexSchema, Store.Column.text, Store.Column.integer, List.findIdx,
      List.findIdx.go]
  unfold sortedPlaces
  rw [List.map_mergeSort]
  · rfl
  · intro a _ b _
    rw [← cells a, ← cells b]

/-- Sorted entries are in the order of their cells. -/
theorem pairwise_sortedPlaces (entries : List (Owned × Nat)) :
    (sortedPlaces entries).Pairwise fun a b =>
      Cell.allLe (placeCells a) (placeCells b) = true := by
  refine List.pairwise_mergeSort ?_ ?_ entries
  · intro a b c
    refine Store.Cell.allLe_trans fun cell mem literal => ?_
    simp only [placeCells, List.mem_cons, List.not_mem_nil, or_false] at mem
    rcases mem with rfl | rfl | rfl
    all_goals exact nofun
  · intro a b
    simpa using Store.Cell.allLe_total (placeCells a) (placeCells b)

/-- Rows of one depositor are in the order of their places. -/
theorem le_of_allLe {a b : Owned × Nat} (own : a.1.1 = b.1.1) (low : a.2 < 2 ^ 63)
    (low' : b.2 < 2 ^ 63) (h : Cell.allLe (placeCells a) (placeCells b) = true) : a.2 ≤ b.2 := by
  have word {n : Nat} (low : n < 2 ^ 63) : (UInt64.ofNat n).toInt64.toInt = n := by
    have value : (UInt64.ofNat n).toNat = n := UInt64.toNat_ofNat_of_lt' (by
      show n < 2 ^ 64
      omega)
    rw [toInt_toInt64 (by rw [value]; exact low), value]
  -- The names are the same, so it is the places that were compared.
  simp only [placeCells, own, Cell.allLe, if_true] at h
  split at h
  case isTrue same =>
    have words := congrArg Int64.toInt (Cell.integer.inj same)
    rw [word low, word low'] at words
    omega
  case isFalse =>
    have words : (UInt64.ofNat a.2).toInt64 ≤ (UInt64.ofNat b.2).toInt64 := by
      simpa [Cell.le, Cell.ofWord] using h
    rw [Int64.le_iff_toInt_le, word low, word low'] at words
    omega

section Sorted

variable {index : Table Identity (List DepositKey)} {entries : List (Owned × Nat)}

/-- The rows of a depositor are those of its list. -/
theorem mem_own_iff (lists : Lists entries (places index)) (distinct : Distinct index)
    {depositor : Identity} {entry : Owned × Nat} :
    entry ∈ entries.filter (fun e => e.1.1 = depositor) ↔
      entry ∈ placesOf (depositor, (index.get? depositor).getD []) := by
  rw [List.mem_filter, mem_placesOf, lists.mem_iff, places_eq_some_iff distinct]
  constructor
  · intro h
    obtain ⟨⟨keys, listed, found⟩, own⟩ := h
    have own : entry.1.1 = depositor := by simpa using own
    rw [own] at listed
    exact ⟨own, by rw [listed]; exact found⟩
  · intro h
    obtain ⟨own, found⟩ := h
    cases listed : index.get? depositor with
    | none =>
      rw [listed] at found
      cases found
    | some keys =>
      rw [listed] at found
      exact ⟨⟨keys, by rw [own]; exact listed, found⟩, by simpa using own⟩

/-- A place in a list that is short enough can be written as a signed word. -/
theorem place_lt
    (short : ∀ depositor keys, index.get? depositor = some keys → keys.length < 2 ^ 63)
    {depositor : Identity} {entry : Owned × Nat}
    (mem : entry ∈ placesOf (depositor, (index.get? depositor).getD [])) : entry.2 < 2 ^ 63 := by
  obtain ⟨-, found⟩ := mem_placesOf.mp mem
  obtain ⟨inside, -⟩ := List.getElem?_eq_some_iff.mp found
  cases listed : index.get? depositor with
  | none =>
    rw [listed] at inside
    cases inside
  | some keys =>
    rw [listed] at inside
    exact Nat.lt_trans inside (short depositor keys listed)

/-- **The sorted rows of a depositor are the list in order.** -/
theorem sortedPlaces_own (lists : Lists entries (places index)) (distinct : Distinct index)
    (short : ∀ depositor keys, index.get? depositor = some keys → keys.length < 2 ^ 63)
    (depositor : Identity) :
    (sortedPlaces entries).filter (fun entry => entry.1.1 = depositor)
      = placesOf (depositor, (index.get? depositor).getD []) := by
  have perm := List.mergeSort_perm entries fun a b => Cell.allLe (placeCells a) (placeCells b)
  have sorted : Lists (sortedPlaces entries) (places index) := lists.of_perm perm
  -- Both lists have the same members and are in the order of the places, of which each is taken
  -- by one key only.
  refine @List.Perm.eq_of_pairwise _ (fun a b => a.2 ≤ b.2) _ _ ?_ ?_ (pairwise_placesOf _) ?_
  · intro a b first second below above
    obtain ⟨name, found⟩ := mem_placesOf.mp ((mem_own_iff sorted distinct).mp first)
    obtain ⟨name', found'⟩ := mem_placesOf.mp second
    have place : a.2 = b.2 := Nat.le_antisymm below above
    rw [place, found'] at found
    exact Prod.ext (Prod.ext (name.trans name'.symm) (Option.some.inj found).symm) place
  · refine ((pairwise_sortedPlaces entries).filter _).imp_of_mem ?_
    intro a b first second ordered
    have first := (mem_own_iff sorted distinct).mp first
    have second := (mem_own_iff sorted distinct).mp second
    have own : a.1.1 = b.1.1 := (mem_placesOf.mp first).1.trans (mem_placesOf.mp second).1.symm
    exact le_of_allLe own (place_lt short first) (place_lt short second) ordered
  · refine (List.perm_ext_iff_of_nodup ?_ ?_).mpr fun _ => mem_own_iff sorted distinct
    · exact (List.Nodup.of_map _ sorted.distinct).filter _
    · refine nodup_placesOf ?_
      cases listed : index.get? depositor with
      | none => exact List.nodup_nil
      | some keys => exact distinct depositor keys listed

/-! ## §4. Lists put together again. -/

/-- Keys put behind the list of their depositor, one after the other. -/
theorem get?_foldl_behind (rows : List Owned) (t : Table Identity (List DepositKey))
    (depositor : Identity) :
    (rows.foldl (fun index (own : Owned) =>
        index.insert own.1 ((index.get? own.1).getD [] ++ [own.2])) t).get? depositor
      = match (rows.filter (·.1 = depositor)).map (·.2) with
        | [] => t.get? depositor
        | key :: rest => some ((t.get? depositor).getD [] ++ key :: rest) := by
  induction rows generalizing t with
  | nil => rfl
  | cons own rest ih =>
    rw [List.foldl_cons, ih, Table.get?_insert_eq]
    by_cases same : own.1 = depositor
    · -- The key goes behind what the list has so far.
      subst same
      rw [if_pos rfl, List.filter_cons_of_pos (by simp), List.map_cons]
      cases (rest.filter (·.1 = own.1)).map (·.2) with
      | nil => rfl
      | cons => simp
    · rw [if_neg (Ne.symm same), List.filter_cons_of_neg (by simpa using same)]

/-- The index that is read lists the keys of a depositor in the order of the rows. -/
theorem get?_indexOf (rows : List Owned) (depositor : Identity) :
    (Relational.indexOf rows).get? depositor
      = match (rows.filter (·.1 = depositor)).map (·.2) with
        | [] => none
        | key :: rest => some (key :: rest) :=
  get?_foldl_behind rows Table.empty depositor

theorem map_key_placesOf (own : Identity × List DepositKey) :
    (placesOf own).map (·.1.2) = own.2 := by
  refine List.ext_getElem? fun place => ?_
  simp [placesOf, Function.comp_def]

/-- **The lists are put together again from the sorted rows.** -/
theorem indexOf_sorted (lists : Lists entries (places index))
    (listed : ∀ depositor keys, index.get? depositor = some keys → keys ≠ [] ∧ keys.Nodup)
    (short : ∀ depositor keys, index.get? depositor = some keys → keys.length < 2 ^ 63) :
    Relational.indexOf ((sortedPlaces entries).map (·.1)) = index := by
  refine Table.ext_get? fun depositor => ?_
  have own := sortedPlaces_own lists (fun d keys known => (listed d keys known).2) short depositor
  have keys : (((sortedPlaces entries).map (·.1)).filter (·.1 = depositor)).map (·.2)
      = (index.get? depositor).getD [] := by
    have kept : (((sortedPlaces entries).map (·.1)).filter (·.1 = depositor)).map (·.2)
        = ((sortedPlaces entries).filter (·.1.1 = depositor)).map (·.1.2) := by
      rw [List.filter_map, List.map_map]
      rfl
    rw [kept, own, map_key_placesOf]
  rw [get?_indexOf, keys]
  cases known : index.get? depositor with
  | none => rfl
  | some keys =>
    cases keys with
    | nil => exact absurd rfl (listed depositor [] known).1
    | cons => rfl

end Sorted

end Custody
