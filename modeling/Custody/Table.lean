/-
  Custody.Table
  ────────────────────────────────
  **TABLES ORDERED BY THEIR KEY.**

  Every collection of records that an answer can show is a table: at most one
  row for a key, rows in the order of their keys.  Two tables are the same
  exactly when they look up the same, so a table is as good as the function
  it stands for and still has a canonical form.

  Main facts:
    * `get?_empty`, `get?_insert`, `get?_modify`, `get?_erase` — how each
                      operation looks up;
    * `ext_get?`    — tables that look up alike are equal;
    * `mem_rows_iff` — the rows are exactly what is looked up.
-/

namespace Custody

/-! ## §1. Rows in order. -/

/-- Rows whose keys ascend strictly. -/
def Ascending {κ α : Type} [Ord κ] (rows : List (κ × α)) : Prop :=
  rows.Pairwise fun a b => compare a.1 b.1 = .lt

/-- A finite map kept as its rows in ascending order of the keys. -/
structure Table (κ α : Type) [Ord κ] where
  rows : List (κ × α)
  ascending : Ascending rows

namespace Table

variable {κ α : Type} [Ord κ]

theorem ext {a b : Table κ α} (h : a.rows = b.rows) : a = b := by
  cases a; cases b; cases h; rfl

instance [DecidableEq κ] [DecidableEq α] : DecidableEq (Table κ α) := fun a b =>
  if h : a.rows = b.rows then isTrue (ext h) else isFalse fun same => h (same ▸ rfl)

/-- The table without rows. -/
def empty : Table κ α := ⟨[], List.Pairwise.nil⟩

instance : Inhabited (Table κ α) := ⟨empty⟩

instance [Repr κ] [Repr α] : Repr (Table κ α) where
  reprPrec a _ := repr a.rows

/-- The keys in ascending order. -/
def keys (t : Table κ α) : List κ := t.rows.map (·.1)

/-- The values in the order of their keys. -/
def values (t : Table κ α) : List α := t.rows.map (·.2)

/-- Looks a key up among rows. -/
def lookup (key : κ) : List (κ × α) → Option α
  | [] => none
  | (k, x) :: rest => if compare key k = .eq then some x else lookup key rest

/-- The value under a key. -/
def get? (t : Table κ α) (key : κ) : Option α := lookup key t.rows

/-- Whether there is a row under a key. -/
def contains (t : Table κ α) (key : κ) : Bool := (t.get? key).isSome

/-- Puts a row at its place, over the row that had its key. -/
def place (key : κ) (value : α) : List (κ × α) → List (κ × α)
  | [] => [(key, value)]
  | (k, x) :: rest =>
    match compare key k with
    | .lt => (key, value) :: (k, x) :: rest
    | .eq => (key, value) :: rest
    | .gt => (k, x) :: place key value rest

theorem mem_place {key : κ} {value : α} {row : κ × α} {rows : List (κ × α)}
    (h : row ∈ place key value rows) : row = (key, value) ∨ row ∈ rows := by
  induction rows with
  | nil => simpa [place] using h
  | cons first rest ih =>
    obtain ⟨k, x⟩ := first
    simp only [place] at h
    split at h
    case h_1 => simpa using h
    case h_2 => rcases List.mem_cons.mp h with h | h <;> simp [h]
    case h_3 =>
      rcases List.mem_cons.mp h with h | h
      · simp [h]
      · rcases ih h with h | h <;> simp [h]

@[simp] theorem get?_empty (key : κ) : (empty : Table κ α).get? key = none := rfl

section Lawful

variable [Std.LawfulEqOrd κ]

theorem lookup_place (key other : κ) (value : α) (rows : List (κ × α)) :
    lookup other (place key value rows)
      = if compare other key = .eq then some value else lookup other rows := by
  induction rows with
  | nil => simp [place, lookup]
  | cons first rest ih =>
    obtain ⟨k, x⟩ := first
    simp only [place]
    split
    case h_1 => simp [lookup]
    case h_2 same =>
      cases Std.LawfulEqOrd.eq_of_compare same
      simp only [lookup]
      split <;> simp_all
    case h_3 greater =>
      simp only [lookup, ih]
      split
      case isTrue hk =>
        have : compare other key ≠ .eq := by
          intro same
          cases Std.LawfulEqOrd.eq_of_compare same
          rw [greater] at hk
          cases hk
        simp [this]
      case isFalse => rfl

/-- In ascending rows a lookup finds exactly the rows that are there. -/
theorem lookup_eq_some_iff {rows : List (κ × α)} (h : Ascending rows) (key : κ) (value : α) :
    lookup key rows = some value ↔ (key, value) ∈ rows := by
  induction rows with
  | nil => simp [lookup]
  | cons first rest ih =>
    obtain ⟨k, x⟩ := first
    obtain ⟨above, tail⟩ := List.pairwise_cons.mp h
    simp only [lookup]
    split
    case isTrue same =>
      cases Std.LawfulEqOrd.eq_of_compare same
      constructor
      · rintro ⟨⟩
        exact List.mem_cons_self
      · intro mem
        rcases List.mem_cons.mp mem with eq | mem
        · cases eq; rfl
        · have := above _ mem
          simp at this
    case isFalse differ =>
      rw [ih tail]
      constructor
      · exact List.mem_cons_of_mem _
      · intro mem
        rcases List.mem_cons.mp mem with eq | mem
        · cases eq
          exact absurd Std.ReflOrd.compare_self differ
        · exact mem

/-- The rows of a table are what is found in it. -/
theorem mem_rows_iff (t : Table κ α) (key : κ) (value : α) :
    (key, value) ∈ t.rows ↔ t.get? key = some value :=
  (lookup_eq_some_iff t.ascending key value).symm

end Lawful

section Ordered

variable [Std.TransOrd κ] [Std.LawfulEqOrd κ]

theorem ascending_place {key : κ} {value : α} {rows : List (κ × α)} (h : Ascending rows) :
    Ascending (place key value rows) := by
  induction rows with
  | nil => exact List.pairwise_singleton _ _
  | cons first rest ih =>
    obtain ⟨k, x⟩ := first
    obtain ⟨above, tail⟩ := List.pairwise_cons.mp h
    simp only [place]
    split
    case h_1 less =>
      refine List.pairwise_cons.mpr ⟨fun row hrow => ?_, h⟩
      rcases List.mem_cons.mp hrow with rfl | hrow
      · exact less
      · exact Std.TransCmp.lt_trans less (above row hrow)
    case h_2 same =>
      cases Std.LawfulEqOrd.eq_of_compare same
      exact List.pairwise_cons.mpr ⟨above, tail⟩
    case h_3 greater =>
      refine List.pairwise_cons.mpr ⟨fun row hrow => ?_, ih tail⟩
      rcases mem_place hrow with rfl | hrow
      · exact Std.OrientedCmp.lt_of_gt greater
      · exact above row hrow

/-! ## §2. Operations. -/

/-- The table with a row put in, over the row that had its key. -/
def insert (t : Table κ α) (key : κ) (value : α) : Table κ α :=
  ⟨place key value t.rows, ascending_place t.ascending⟩

/-- The table with the value under a key changed; a key without a row is left without one. -/
def modify (t : Table κ α) (key : κ) (f : α → α) : Table κ α :=
  match t.get? key with
  | some value => t.insert key (f value)
  | none => t

/-- The table without the row under a key. -/
def erase (t : Table κ α) (key : κ) : Table κ α :=
  ⟨t.rows.filter fun row => compare key row.1 != .eq, t.ascending.filter _⟩

/-- The table of a list of rows, of which later ones replace earlier ones. -/
def ofList (rows : List (κ × α)) : Table κ α :=
  rows.foldl (fun t row => t.insert row.1 row.2) empty

/-- The table of a list of values that carry their keys. -/
def ofValues (key : α → κ) (values : List α) : Table κ α :=
  ofList (values.map fun value => (key value, value))

/-- Puts a list of rows in, one after the other. -/
def insertAll (t : Table κ α) (rows : List (κ × α)) : Table κ α :=
  rows.foldl (fun t row => t.insert row.1 row.2) t

/-! ## §3. Looking up. -/

/-- A value that was inserted is found under its key, and other keys are as before. -/
theorem get?_insert (t : Table κ α) (key other : κ) (value : α) :
    (t.insert key value).get? other
      = if compare other key = .eq then some value else t.get? other :=
  lookup_place key other value t.rows

@[simp] theorem get?_insert_self (t : Table κ α) (key : κ) (value : α) :
    (t.insert key value).get? key = some value := by
  simp [get?_insert]

/-- Inserting a value changes nothing under the other keys. -/
theorem get?_insert_of_ne (t : Table κ α) {key other : κ} (value : α) (h : other ≠ key) :
    (t.insert key value).get? other = t.get? other := by
  rw [get?_insert, if_neg]
  intro same
  exact h (Std.LawfulEqOrd.eq_of_compare same)

/-- A modification changes what is under its key, if anything is, and nothing else. -/
theorem get?_modify (t : Table κ α) (key other : κ) (f : α → α) :
    (t.modify key f).get? other
      = if compare other key = .eq then (t.get? key).map f else t.get? other := by
  unfold modify
  split
  case h_1 value found => rw [get?_insert, found]; rfl
  case h_2 missing =>
    split
    case isTrue same =>
      cases Std.LawfulEqOrd.eq_of_compare same
      simp [missing]
    case isFalse => rfl

theorem get?_erase (t : Table κ α) (key other : κ) :
    (t.erase key).get? other = if compare other key = .eq then none else t.get? other := by
  show lookup other (t.rows.filter _) = _
  unfold get?
  induction t.rows with
  | nil => simp [lookup]
  | cons first rest ih =>
    obtain ⟨k, x⟩ := first
    by_cases hk : compare key k = .eq
    · cases Std.LawfulEqOrd.eq_of_compare hk
      simp only [List.filter_cons, lookup]
      simp only [hk, bne_self_eq_false, Bool.false_eq_true, if_false, ih]
      split <;> simp_all
    · have keep : (compare key k != .eq) = true := by simpa using hk
      simp only [List.filter_cons, keep, if_true, lookup, ih]
      split
      case isTrue same =>
        cases Std.LawfulEqOrd.eq_of_compare same
        have : compare other key ≠ .eq := by
          intro same
          exact hk (Std.OrientedCmp.eq_symm same)
        simp [this]
      case isFalse => rfl

/-! ## §4. Rows and look-ups agree. -/

/-- Tables that look up alike are equal. -/
theorem ext_get? {a b : Table κ α} (h : ∀ key, a.get? key = b.get? key) : a = b := by
  apply ext
  have same : ∀ row, row ∈ a.rows ↔ row ∈ b.rows := by
    intro (key, value)
    rw [mem_rows_iff, mem_rows_iff, h]
  have irrefl : ∀ {rows : List (κ × α)}, Ascending rows → rows.Nodup := by
    intro rows hrows
    refine hrows.imp ?_
    intro x y less eq
    cases eq
    simp at less
  have perm : a.rows.Perm b.rows :=
    (List.perm_ext_iff_of_nodup (irrefl a.ascending) (irrefl b.ascending)).mpr same
  refine perm.eq_of_pairwise ?_ a.ascending b.ascending
  intro x y _ _ less greater
  have := Std.TransCmp.lt_trans less greater
  simp at this

end Ordered

/-! ## §5. What a later table changes. -/

/-- The rows of `after` that are no rows of `before`, in order. -/
def changed [DecidableEq α] (before after : Table κ α) : List (κ × α) :=
  after.rows.filter fun row => before.get? row.1 ≠ some row.2

end Table

end Custody
