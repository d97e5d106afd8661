/-
  Custody.Proofs.Tables
  ────────────────────────────────
  **SUMS OVER TABLES, AND TABLES THAT ONLY GROW.**

  Amounts are summed over the rows of a table, and a row that is put in moves
  the sum by what it is worth less what it replaces.  A table that keeps every
  key of an earlier one is rebuilt from it by the rows that changed, which is
  all that a commit carries.

  Main facts:
    * `sumBy_insert`             — new sum plus old row is old sum plus new row;
    * `sumBy_retell`             — a measure that changes at one key only;
    * `sumBy_eq_of_get?`         — tables with the same measure under every key;
    * `get?_insertAll_changed`   — the changed rows lay a table over another;
    * `insertAll_changed_eq_iff` — they lead to it exactly if it keeps the keys;
    * `insertAll_of_lists`       — a list of a table's rows in any order rebuilds it.
-/
import Custody.Table

namespace Custody

/-! ## §1. Sums over lists. -/

/-- The sum of a measure over a list. -/
def sumOver {β : Type} (measure : β → Nat) : List β → Nat
  | [] => 0
  | x :: rest => measure x + sumOver measure rest

section Sums

variable {β γ : Type}

@[simp] theorem sumOver_nil (measure : β → Nat) : sumOver measure [] = 0 := rfl

@[simp] theorem sumOver_cons (measure : β → Nat) (x : β) (rest : List β) :
    sumOver measure (x :: rest) = measure x + sumOver measure rest := rfl

theorem sumOver_append (measure : β → Nat) (xs ys : List β) :
    sumOver measure (xs ++ ys) = sumOver measure xs + sumOver measure ys := by
  induction xs with
  | nil => simp
  | cons x rest ih =>
    rw [List.cons_append, sumOver_cons, sumOver_cons, ih]
    omega

theorem sumOver_map (measure : γ → Nat) (f : β → γ) (xs : List β) :
    sumOver measure (xs.map f) = sumOver (fun x => measure (f x)) xs := by
  induction xs with
  | nil => rfl
  | cons x rest ih => rw [List.map_cons, sumOver_cons, sumOver_cons, ih]

theorem sumOver_congr {f g : β → Nat} {xs : List β} (h : ∀ x ∈ xs, f x = g x) :
    sumOver f xs = sumOver g xs := by
  induction xs with
  | nil => rfl
  | cons x rest ih =>
    rw [sumOver_cons, sumOver_cons, h x List.mem_cons_self,
      ih fun y hy => h y (List.mem_cons_of_mem _ hy)]

theorem sumOver_mono {f g : β → Nat} {xs : List β} (h : ∀ x ∈ xs, f x ≤ g x) :
    sumOver f xs ≤ sumOver g xs := by
  induction xs with
  | nil => exact Nat.le_refl _
  | cons x rest ih =>
    rw [sumOver_cons, sumOver_cons]
    have first := h x List.mem_cons_self
    have others := ih fun y mem => h y (List.mem_cons_of_mem x mem)
    omega

theorem sumOver_add (f g : β → Nat) (xs : List β) :
    sumOver (fun x => f x + g x) xs = sumOver f xs + sumOver g xs := by
  induction xs with
  | nil => rfl
  | cons x rest ih =>
    rw [sumOver_cons, sumOver_cons, sumOver_cons, ih]
    omega

theorem sumOver_mul (weight : Nat) (f : β → Nat) (xs : List β) :
    sumOver (fun x => weight * f x) xs = weight * sumOver f xs := by
  induction xs with
  | nil => rfl
  | cons x rest ih => rw [sumOver_cons, sumOver_cons, ih, Nat.mul_add]

theorem sumOver_zero (xs : List β) : sumOver (fun _ => 0) xs = 0 := by
  induction xs with
  | nil => rfl
  | cons x rest ih => rw [sumOver_cons, ih]

theorem le_sumOver (measure : β → Nat) {x : β} {xs : List β} (h : x ∈ xs) :
    measure x ≤ sumOver measure xs := by
  induction xs with
  | nil => cases h
  | cons y rest ih =>
    rw [sumOver_cons]
    rcases List.mem_cons.mp h with rfl | h
    · omega
    · have := ih h
      omega

/-- A sum does not depend on the order. -/
theorem sumOver_perm (measure : β → Nat) {xs ys : List β} (h : xs.Perm ys) :
    sumOver measure xs = sumOver measure ys := by
  induction h with
  | nil => rfl
  | cons x rest ih => rw [sumOver_cons, sumOver_cons, ih]
  | swap x y rest =>
    simp only [sumOver_cons]
    omega
  | trans first second ih₁ ih₂ => exact ih₁.trans ih₂

/-- Lists with the same keys, each once, have the same sum if what has one key has one measure. -/
theorem sumOver_eq_of_keys {f : β → γ} {measure : β → Nat} {xs ys : List β}
    (keys : (xs.map f).Perm (ys.map f)) (distinct : (xs.map f).Nodup)
    (agree : ∀ x ∈ xs, ∀ y ∈ ys, f x = f y → measure x = measure y) :
    sumOver measure xs = sumOver measure ys := by
  -- With their measures the keys are the same rows.
  let row (x : β) : γ × Nat := (f x, measure x)
  have once {zs : List β} (h : (zs.map f).Nodup) : (zs.map row).Nodup :=
    List.pairwise_map.mpr ((List.pairwise_map.mp h).imp fun differ same =>
      differ (congrArg Prod.fst same))
  have rows : (xs.map row).Perm (ys.map row) := by
    refine (List.perm_ext_iff_of_nodup (once distinct) (once (keys.nodup distinct))).mpr fun r => ?_
    constructor
    · intro mem
      obtain ⟨x, here, rfl⟩ := List.mem_map.mp mem
      obtain ⟨y, there, same⟩ := List.mem_map.mp (keys.mem_iff.mp (List.mem_map_of_mem here))
      exact List.mem_map.mpr ⟨y, there, Prod.ext same (agree x here y there same.symm).symm⟩
    · intro mem
      obtain ⟨y, there, rfl⟩ := List.mem_map.mp mem
      obtain ⟨x, here, same⟩ := List.mem_map.mp (keys.mem_iff.mpr (List.mem_map_of_mem there))
      exact List.mem_map.mpr ⟨x, here, Prod.ext same (agree x here y there same)⟩
  have sums := sumOver_perm Prod.snd rows
  rwa [sumOver_map, sumOver_map] at sums

end Sums

namespace Table

variable {κ α : Type} [Ord κ]

/-! ## §2. Sums over tables. -/

/-- The sum of a measure over the rows of a table. -/
def sumBy (measure : κ → α → Nat) (t : Table κ α) : Nat :=
  sumOver (fun row => measure row.1 row.2) t.rows

@[simp] theorem sumBy_empty (measure : κ → α → Nat) : (empty : Table κ α).sumBy measure = 0 := rfl

/-- A sum of two measures is the sum of their sums. -/
theorem sumBy_add (f g : κ → α → Nat) (t : Table κ α) :
    (t.sumBy fun key x => f key x + g key x) = t.sumBy f + t.sumBy g :=
  sumOver_add (fun row : κ × α => f row.1 row.2) (fun row => g row.1 row.2) t.rows

theorem contains_eq_false_iff {t : Table κ α} {key : κ} :
    t.contains key = false ↔ t.get? key = none := by
  simp [contains]

/-- A key below the first of ascending rows is not among them. -/
theorem lookup_eq_none_of_below {key : κ} {rows : List (κ × α)}
    (h : ∀ row ∈ rows, compare key row.1 = .lt) : lookup key rows = none := by
  induction rows with
  | nil => rfl
  | cons first rest ih =>
    have less := h first List.mem_cons_self
    rw [lookup, if_neg (by rw [less]; decide)]
    exact ih fun row hrow => h row (List.mem_cons_of_mem _ hrow)

section Lawful

variable [Std.LawfulEqOrd κ]

theorem compare_eq_iff {a b : κ} : compare a b = .eq ↔ a = b :=
  ⟨Std.LawfulEqOrd.eq_of_compare, fun h => h ▸ Std.ReflOrd.compare_self⟩

theorem sumBy_congr {f g : κ → α → Nat} {t : Table κ α}
    (h : ∀ key x, t.get? key = some x → f key x = g key x) : t.sumBy f = t.sumBy g :=
  sumOver_congr fun row mem => h row.1 row.2 ((mem_rows_iff t row.1 row.2).mp mem)

theorem sumBy_mono {f g : κ → α → Nat} {t : Table κ α}
    (h : ∀ key x, t.get? key = some x → f key x ≤ g key x) : t.sumBy f ≤ t.sumBy g :=
  sumOver_mono fun row mem => h row.1 row.2 ((mem_rows_iff t row.1 row.2).mp mem)

theorem le_sumBy (measure : κ → α → Nat) {t : Table κ α} {key : κ} {x : α}
    (h : t.get? key = some x) : measure key x ≤ t.sumBy measure :=
  le_sumOver (fun row : κ × α => measure row.1 row.2) ((mem_rows_iff t key x).mpr h)

/-- Two measures that agree off one key give sums that differ by that key's row. -/
theorem sumBy_retell {f g : κ → α → Nat} {t : Table κ α} {key : κ} {value : α}
    (h : t.get? key = some value) (agree : ∀ other x, other ≠ key → f other x = g other x) :
    t.sumBy f + g key value = t.sumBy g + f key value := by
  have found := (mem_rows_iff t key value).mpr h
  have ascending := t.ascending
  unfold sumBy
  generalize t.rows = rows at found ascending
  induction rows with
  | nil => cases found
  | cons first rest ih =>
    obtain ⟨k, x⟩ := first
    obtain ⟨above, tail⟩ := List.pairwise_cons.mp ascending
    simp only [sumOver_cons]
    -- Either the first row is the one of the key, and the measures agree on the rest, or it is
    -- one on which they agree, and the key's row comes later.
    rcases List.mem_cons.mp found with eq | found
    · cases eq
      have same : sumOver (fun row => f row.1 row.2) rest
          = sumOver (fun row => g row.1 row.2) rest := by
        refine sumOver_congr fun row hrow => agree _ _ ?_
        intro eq
        have less := above row hrow
        rw [eq] at less
        simp at less
      omega
    · have differ : k ≠ key := by
        intro eq
        have less := above _ found
        simp [eq] at less
      have := ih found tail
      have := agree k x differ
      omega

theorem nodup_keys (t : Table κ α) : (t.rows.map (·.1)).Nodup := by
  refine List.pairwise_map.mpr (t.ascending.imp ?_)
  intro a b less eq
  rw [eq] at less
  simp at less

/-- What has changed is what is there now and was not so before. -/
theorem mem_changed_iff [DecidableEq α] {before after : Table κ α} {key : κ} {value : α} :
    (key, value) ∈ before.changed after ↔
      after.get? key = some value ∧ before.get? key ≠ some value := by
  simp [changed, mem_rows_iff]

/-- Nothing changes from a table to itself. -/
theorem changed_self [DecidableEq α] (t : Table κ α) : t.changed t = [] := by
  refine List.eq_nil_iff_forall_not_mem.mpr ?_
  rintro ⟨key, value⟩ mem
  obtain ⟨found, other⟩ := mem_changed_iff.mp mem
  exact other found

/-- Nothing changes exactly if every later row was there before. -/
theorem changed_eq_nil_iff [DecidableEq α] {before after : Table κ α} :
    before.changed after = [] ↔ ∀ key x, after.get? key = some x → before.get? key = some x := by
  rw [List.eq_nil_iff_forall_not_mem]
  constructor
  · intro unchanged key x found
    exact Decidable.byContradiction fun differ =>
      unchanged (key, x) (mem_changed_iff.mpr ⟨found, differ⟩)
  · rintro within ⟨key, x⟩ mem
    obtain ⟨found, differ⟩ := mem_changed_iff.mp mem
    exact differ (within key x found)

theorem nodup_changed [DecidableEq α] (before after : Table κ α) :
    ((before.changed after).map (·.1)).Nodup :=
  (List.filter_sublist.map _).nodup (nodup_keys after)

/-- Rows that carry their keys are found again under them. -/
theorem rekey_changed [DecidableEq α] {before after : Table κ α} {keyOf : α → κ}
    (keyed : ∀ key x, after.get? key = some x → keyOf x = key) :
    ((before.changed after).map (·.2)).map (fun row => (keyOf row, row))
      = before.changed after := by
  rw [List.map_map]
  have same : ∀ row ∈ before.changed after, ((fun x => (keyOf x, x)) ∘ (·.2)) row = row := by
    intro row mem
    show (keyOf row.2, row.2) = row
    rw [keyed row.1 row.2 (mem_changed_iff.mp mem).1]
  rw [List.map_congr_left same, List.map_id']

theorem sumOver_place [Std.TransOrd κ] (measure : κ → α → Nat) (key : κ) (value : α)
    {rows : List (κ × α)} (h : Ascending rows) :
    sumOver (fun row => measure row.1 row.2) (place key value rows)
        + ((lookup key rows).map (measure key)).getD 0
      = sumOver (fun row => measure row.1 row.2) rows + measure key value := by
  induction rows with
  | nil => simp [place, lookup]
  | cons first rest ih =>
    obtain ⟨k, x⟩ := first
    obtain ⟨above, tail⟩ := List.pairwise_cons.mp h
    simp only [place, lookup]
    split
    case h_1 less =>
      -- The key is below the first row, so below all of them.
      have absent : lookup key rest = none :=
        lookup_eq_none_of_below fun row hrow => Std.TransCmp.lt_trans less (above row hrow)
      rw [if_neg (by rw [less]; decide), absent]
      simp only [sumOver_cons, Option.map_none, Option.getD_none]
      omega
    case h_2 same =>
      -- The first row is replaced, and its worth is what the sum loses.
      cases Std.LawfulEqOrd.eq_of_compare same
      simp only [same, if_true, sumOver_cons, Option.map_some, Option.getD_some]
      omega
    case h_3 greater =>
      rw [if_neg (by rw [greater]; decide)]
      have := ih tail
      simp only [sumOver_cons]
      omega

end Lawful

section Ordered

variable [Std.TransOrd κ] [Std.LawfulEqOrd κ]

/-- **The sum after a row was put in**: it grows by the row and loses what the row replaces. -/
theorem sumBy_insert (measure : κ → α → Nat) (t : Table κ α) (key : κ) (value : α) :
    (t.insert key value).sumBy measure + ((t.get? key).map (measure key)).getD 0
      = t.sumBy measure + measure key value :=
  sumOver_place measure key value t.ascending

/-- A row that is new adds its measure. -/
theorem sumBy_insert_of_none (measure : κ → α → Nat) (value : α) {t : Table κ α} {key : κ}
    (h : t.get? key = none) :
    (t.insert key value).sumBy measure = t.sumBy measure + measure key value := by
  have := sumBy_insert measure t key value
  rw [h] at this
  exact this

/-- A row that is replaced changes a sum by the difference of the measures. -/
theorem sumBy_insert_of_some (measure : κ → α → Nat) (value : α) {t : Table κ α} {key : κ}
    {old : α} (h : t.get? key = some old) :
    (t.insert key value).sumBy measure + measure key old
      = t.sumBy measure + measure key value := by
  have := sumBy_insert measure t key value
  rw [h] at this
  exact this

theorem get?_insert_eq [DecidableEq κ] (t : Table κ α) (key other : κ) (value : α) :
    (t.insert key value).get? other = if other = key then some value else t.get? other := by
  rw [get?_insert]
  simp only [compare_eq_iff]

theorem get?_modify_eq [DecidableEq κ] (t : Table κ α) (key other : κ) (f : α → α) :
    (t.modify key f).get? other = if other = key then (t.get? key).map f else t.get? other := by
  rw [get?_modify]
  simp only [compare_eq_iff]

/-- Putting in the row that is there changes nothing. -/
theorem insert_of_get? [DecidableEq κ] {t : Table κ α} {key : κ} {value : α}
    (found : t.get? key = some value) : t.insert key value = t := by
  refine ext_get? fun other => ?_
  rw [get?_insert_eq]
  by_cases same : other = key
  · rw [if_pos same, same, found]
  · rw [if_neg same]

theorem modify_of_some {t : Table κ α} {key : κ} {value : α} (f : α → α)
    (h : t.get? key = some value) : t.modify key f = t.insert key (f value) := by
  unfold modify
  rw [h]

/-- A change of one row that the measure does not see. -/
theorem sumBy_modify_of_same {measure : κ → α → Nat} {t : Table κ α} {key : κ} {f : α → α}
    (same : ∀ value, t.get? key = some value → measure key (f value) = measure key value) :
    (t.modify key f).sumBy measure = t.sumBy measure := by
  cases found : t.get? key with
  | none =>
    unfold modify
    rw [found]
  | some value =>
    have inserted := sumBy_insert_of_some measure (f value) found
    rw [modify_of_some f found]
    rw [same value found] at inserted
    omega

/-- The sum over a table, with one row told apart. -/
theorem sumBy_erase (measure : κ → α → Nat) (t : Table κ α) (key : κ) :
    t.sumBy measure
      = ((t.get? key).map (measure key)).getD 0 + (t.erase key).sumBy measure := by
  cases found : t.get? key with
  | none =>
    -- There is no such row.
    have same : t.erase key = t := by
      refine ext_get? fun other => ?_
      rw [get?_erase]
      split
      case isTrue eq => rw [compare_eq_iff.mp eq, found]
      case isFalse => rfl
    rw [same]
    simp
  | some value =>
    have absent : (t.erase key).get? key = none := by
      rw [get?_erase, if_pos (compare_eq_iff.mpr rfl)]
    have back : (t.erase key).insert key value = t := by
      refine ext_get? fun other => ?_
      rw [get?_insert, get?_erase]
      split
      case isTrue eq => rw [compare_eq_iff.mp eq, found]
      case isFalse => rfl
    have inserted := sumBy_insert_of_none measure value absent
    rw [back] at inserted
    rw [inserted, Option.map_some, Option.getD_some, Nat.add_comm]

/-- **Two tables with the same measure under every key have the same sum.** -/
theorem sumBy_eq_of_get? {β : Type} {f : κ → α → Nat} {g : κ → β → Nat} (a : Table κ α)
    (b : Table κ β)
    (same : ∀ key, ((a.get? key).map (f key)).getD 0 = ((b.get? key).map (g key)).getD 0) :
    a.sumBy f = b.sumBy g := by
  obtain ⟨rows, ascending⟩ := a
  induction rows generalizing b with
  | nil =>
    -- Nothing in the other table counts.
    have zero : b.sumBy g = b.sumBy fun _ _ => 0 := by
      refine sumBy_congr fun key x found => ?_
      have := same key
      rw [found] at this
      exact this.symm
    rw [zero]
    exact (sumOver_zero b.rows).symm
  | cons first rest ih =>
    obtain ⟨k, x⟩ := first
    obtain ⟨above, tail⟩ := List.pairwise_cons.mp ascending
    have own : ((b.get? k).map (g k)).getD 0 = f k x := by
      rw [← same k]
      show ((lookup k ((k, x) :: rest)).map (f k)).getD 0 = _
      rw [lookup, if_pos (compare_eq_iff.mpr rfl)]
      rfl
    -- The other rows are those of the other table without the row of this key.
    have others : sumBy f ⟨rest, tail⟩ = (b.erase k).sumBy g := by
      refine ih (b.erase k) tail fun key => ?_
      rw [get?_erase]
      split
      case isTrue eq =>
        cases compare_eq_iff.mp eq
        show ((lookup k rest).map (f k)).getD 0 = _
        rw [lookup_eq_none_of_below above]
        rfl
      case isFalse differ =>
        rw [← same key]
        show _ = ((lookup key ((k, x) :: rest)).map (f key)).getD 0
        rw [lookup, if_neg differ]
        rfl
    rw [sumBy_erase g b k, own, ← others]
    rfl

end Ordered

/-! ## §3. Tables that keep their keys. -/

/-- Every key of a table is a key of a later one. -/
def Keeps (before after : Table κ α) : Prop :=
  ∀ key, (before.get? key).isSome → (after.get? key).isSome

theorem Keeps.refl (t : Table κ α) : t.Keeps t := fun _ h => h

theorem Keeps.trans {a b c : Table κ α} (first : a.Keeps b) (second : b.Keeps c) : a.Keeps c :=
  fun key h => second key (first key h)

section Growth

variable [Std.TransOrd κ] [Std.LawfulEqOrd κ]

/-- Inserting a row loses no key. -/
theorem keeps_insert (t : Table κ α) (key : κ) (value : α) : t.Keeps (t.insert key value) := by
  intro other h
  rw [get?_insert]
  split
  · rfl
  · exact h

/-- Modifying a row loses no key. -/
theorem keeps_modify (t : Table κ α) (key : κ) (f : α → α) : t.Keeps (t.modify key f) := by
  unfold modify
  split
  · exact keeps_insert t key _
  · exact Keeps.refl t

end Growth

section Seen

variable [Std.TransOrd κ] [Std.LawfulEqOrd κ] [DecidableEq κ] {β : Type} {t : Table κ α} {key : κ}

/-- A row that replaces another is seen as that one was, by whoever cannot tell them apart. -/
theorem seen_insert {old new : α} (f : α → β) (found : t.get? key = some old)
    (same : f old = f new) (other : κ) (x : α) (held : (t.insert key new).get? other = some x) :
    ∃ before, t.get? other = some before ∧ f before = f x := by
  rw [get?_insert_eq] at held
  split at held
  case isTrue own =>
    cases held
    exact ⟨old, own ▸ found, same⟩
  case isFalse => exact ⟨x, held, rfl⟩

theorem seen_modify {change : α → α} (f : α → β) (same : ∀ x, f (change x) = f x) (other : κ)
    (x : α) (held : (t.modify key change).get? other = some x) :
    ∃ before, t.get? other = some before ∧ f before = f x := by
  rw [get?_modify_eq] at held
  split at held
  case isTrue own =>
    obtain ⟨before, found, rfl⟩ := Option.map_eq_some_iff.mp held
    exact ⟨before, own ▸ found, (same before).symm⟩
  case isFalse => exact ⟨x, held, rfl⟩

/-- Notes on all rows are kept up to date when a row is put in. -/
theorem noted_insert {note : κ → β} {f : α → β}
    (noted : ∀ key x, t.get? key = some x → note key = f x) (new : α) (other : κ) (x : α)
    (held : (t.insert key new).get? other = some x) :
    (if other = key then f new else note other) = f x := by
  rw [get?_insert_eq] at held
  split at held
  case isTrue own =>
    cases held
    rw [if_pos own]
  case isFalse differ =>
    rw [if_neg differ]
    exact noted other x held

end Seen

end Table

/-! ## §4. Rows put over a partial function. -/

section Rows

variable {κ α : Type}

/-- A list that holds each row of a partial function once, in any order. -/
structure Lists (entries : List (κ × α)) (f : κ → Option α) : Prop where
  distinct : (entries.map (·.1)).Nodup
  mem_iff : ∀ key x, (key, x) ∈ entries ↔ f key = some x

theorem Lists.empty : Lists ([] : List (κ × α)) fun _ => none where
  distinct := List.nodup_nil
  mem_iff key x := by simp

/-- What is listed may be listed in another order. -/
theorem Lists.of_perm {entries other : List (κ × α)} {f : κ → Option α} (h : Lists entries f)
    (perm : other.Perm entries) : Lists other f where
  distinct := (perm.map _).nodup_iff.mpr h.distinct
  mem_iff key x := by rw [perm.mem_iff, h.mem_iff]

variable [DecidableEq κ]

/-- A partial function with one row put over it. -/
def put (f : κ → Option α) (row : κ × α) : κ → Option α :=
  fun key => if key = row.1 then some row.2 else f key

/-- A partial function with rows put over it, one after the other. -/
def overlay (f : κ → Option α) (rows : List (κ × α)) : κ → Option α := rows.foldl put f

@[simp] theorem overlay_nil (f : κ → Option α) : overlay f [] = f := rfl

@[simp] theorem overlay_cons (f : κ → Option α) (row : κ × α) (rest : List (κ × α)) :
    overlay f (row :: rest) = overlay (put f row) rest := rfl

/-- A key that no row has is as before. -/
theorem overlay_of_not_mem {f : κ → Option α} {rows : List (κ × α)} {key : κ}
    (h : key ∉ rows.map (·.1)) : overlay f rows key = f key := by
  induction rows generalizing f with
  | nil => rfl
  | cons row rest ih =>
    rw [List.map_cons, List.mem_cons, not_or] at h
    rw [overlay_cons, ih h.2, put, if_neg h.1]

/-- A key that a row has is as the row says. -/
theorem overlay_of_mem {f : κ → Option α} {rows : List (κ × α)} {key : κ} {value : α}
    (distinct : (rows.map (·.1)).Nodup) (h : (key, value) ∈ rows) :
    overlay f rows key = some value := by
  induction rows generalizing f with
  | nil => cases h
  | cons row rest ih =>
    obtain ⟨fresh, distinct⟩ := List.nodup_cons.mp (List.map_cons ▸ distinct)
    rw [overlay_cons]
    rcases List.mem_cons.mp h with eq | h
    · cases eq
      -- no later row has the key
      rw [overlay_of_not_mem fresh, put, if_pos rfl]
    · exact ih distinct h

/-- A partial function is built up from a list of its rows in any order. -/
theorem Lists.overlay {entries : List (κ × α)} {f : κ → Option α} (h : Lists entries f) :
    Custody.overlay (fun _ => none) entries = f := by
  funext key
  cases found : f key with
  | some value => exact overlay_of_mem h.distinct ((h.mem_iff key value).mpr found)
  | none =>
    refine overlay_of_not_mem fun mem => ?_
    obtain ⟨row, listed, rfl⟩ := List.mem_map.mp mem
    have := (h.mem_iff row.1 row.2).mp listed
    rw [found] at this
    cases this

/-- The row under a key is found in a list of all rows. -/
theorem Lists.find? {entries : List (κ × α)} {f : κ → Option α} (h : Lists entries f) (key : κ) :
    entries.find? (fun entry => entry.1 = key) = (f key).map fun value => (key, value) := by
  cases found : entries.find? (fun entry => entry.1 = key) with
  | some entry =>
    have same : entry.1 = key := by simpa using List.find?_some found
    rw [← same, (h.mem_iff entry.1 entry.2).mp (List.mem_of_find?_eq_some found)]
    rfl
  | none =>
    cases held : f key with
    | none => rfl
    | some value =>
      have other := List.find?_eq_none.mp found _ ((h.mem_iff key value).mpr held)
      simp at other

/-- Putting a row in behind all others, in place of the one with its key. -/
theorem Lists.put {entries : List (κ × α)} {f : κ → Option α} (h : Lists entries f)
    (row : κ × α) :
    Lists (entries.filter (fun other => other.1 ≠ row.1) ++ [row]) (Custody.put f row) where
  distinct := by
    rw [List.map_append]
    refine List.nodup_append.mpr ⟨(List.filter_sublist.map _).nodup h.distinct, by simp, ?_⟩
    intro a ha b hb same
    obtain ⟨other, kept, rfl⟩ := List.mem_map.mp ha
    have differ : other.1 ≠ row.1 := by simpa using (List.mem_filter.mp kept).2
    rw [List.map_singleton, List.mem_singleton] at hb
    exact differ (same.trans hb)
  mem_iff other x := by
    rw [Custody.put, List.mem_append, List.mem_filter, List.mem_singleton, h.mem_iff]
    by_cases same : other = row.1
    · simp [same, Prod.ext_iff, eq_comm]
    · simp [same, Prod.ext_iff]

end Rows

/-! ## §5. Rows put into a table one after the other. -/

namespace Table

section InsertAll

variable {κ α : Type} [Ord κ] [Std.LawfulEqOrd κ]

theorem lists_rows (t : Table κ α) : Lists t.rows t.get? where
  distinct := nodup_keys t
  mem_iff key x := mem_rows_iff t key x

variable [Std.TransOrd κ]

@[simp] theorem insertAll_nil (t : Table κ α) : t.insertAll [] = t := rfl

@[simp] theorem insertAll_cons (t : Table κ α) (row : κ × α) (rest : List (κ × α)) :
    t.insertAll (row :: rest) = (t.insert row.1 row.2).insertAll rest := rfl

variable [DecidableEq κ]

theorem get?_insertAll (t : Table κ α) (rows : List (κ × α)) :
    (t.insertAll rows).get? = overlay t.get? rows := by
  induction rows generalizing t with
  | nil => rfl
  | cons row rest ih =>
    rw [insertAll_cons, ih, overlay_cons]
    congr 1
    funext key
    exact get?_insert_eq t row.1 key row.2

/-- **The changed rows, put over a table, lay all later rows over it.** -/
theorem get?_insertAll_changed [DecidableEq α] (before after : Table κ α) (key : κ) :
    (before.insertAll (before.changed after)).get? key
      = (after.get? key).or (before.get? key) := by
  rw [get?_insertAll]
  cases found : after.get? key with
  | none =>
    -- No later row has the key, so the change does not touch it.
    rw [overlay_of_not_mem, Option.none_or]
    intro mem
    obtain ⟨row, changed, rfl⟩ := List.mem_map.mp mem
    have := (mem_changed_iff.mp changed).1
    rw [found] at this
    cases this
  | some value =>
    rw [Option.some_or]
    by_cases same : before.get? key = some value
    · -- The row did not change, so the change does not touch the key.
      rw [overlay_of_not_mem, same]
      intro mem
      obtain ⟨row, changed, rfl⟩ := List.mem_map.mp mem
      obtain ⟨now, differ⟩ := mem_changed_iff.mp changed
      rw [found] at now
      cases now
      exact differ same
    · exact overlay_of_mem (nodup_changed before after)
        (mem_changed_iff.mpr ⟨found, same⟩)

/-- **The changed rows lead from a table to those that keep its keys, and to no others.** -/
theorem insertAll_changed_eq_iff [DecidableEq α] {before after : Table κ α} :
    before.insertAll (before.changed after) = after ↔ before.Keeps after := by
  constructor
  · intro leads key known
    rw [← leads, get?_insertAll_changed, Option.isSome_or, known, Bool.or_true]
  · intro keeps
    apply ext_get?
    intro key
    rw [get?_insertAll_changed]
    cases found : after.get? key with
    | some value => rfl
    | none =>
      -- A key without a row now had none before, as the keys are kept.
      rw [Option.none_or]
      refine Option.not_isSome_iff_eq_none.mp fun known => ?_
      have := keeps key known
      rw [found] at this
      cases this

/-- Putting the changed rows over the table before gives the table after. -/
theorem insertAll_changed [DecidableEq α] {before after : Table κ α} (h : before.Keeps after) :
    before.insertAll (before.changed after) = after := insertAll_changed_eq_iff.mpr h

/-- **A table is rebuilt from its rows in any order.** -/
theorem insertAll_of_lists {entries : List (κ × α)} {t : Table κ α} (h : Lists entries t.get?) :
    (Table.empty : Table κ α).insertAll entries = t := by
  apply ext_get?
  intro key
  have blank : (Table.empty : Table κ α).get? = fun _ => none := rfl
  rw [get?_insertAll, blank, h.overlay]

end InsertAll

end Table

end Custody
