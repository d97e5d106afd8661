/-
  Custody.Proofs.Mirrors
  ────────────────────────────────
  **RELATIONS THAT MIRROR A PARTIAL FUNCTION.**

  A relation mirrors a partial function if it has one row for each of its
  values, in any order.  A layout says how: which cells are the key of a row,
  and which row a value is written as.  Putting rows in keeps the mirror, and
  what is asked of the relation is answered as the function answers it.

  Main facts:
    * `Mirrors.upsertAll` — rows that are put in are put over the function;
    * `Mirrors.find?`     — the row under a key is that of the key's value;
    * `readAll_mirrors`   — every row is read, once;
    * `readKey_eq`        — so is the row under one key.
-/
import Mathlib.Data.List.Find
import Custody.Proofs.Tables
import Custody.Store.Relational

namespace Custody

open Store (Cell Schema Row Relation)

/-! ## §1. Layouts. -/

/-- How the values of a partial function are written as rows. -/
structure Layout (κ α : Type) where
  schema : Schema
  /-- The cells of a key. -/
  cells : κ → List Cell
  /-- The row of a value under its key. -/
  row : κ × α → Row
  cells_inj : ∀ {a b : κ}, cells a = cells b → a = b

/-- An entry that is written under its own key. -/
def Layout.Fits {κ α : Type} (layout : Layout κ α) (entry : κ × α) : Prop :=
  layout.schema.key (layout.row entry) = layout.cells entry.1

namespace Relational

/-- Bytes are told from their cell. -/
theorem cellOf_inj {n : Nat} {a b : Octets n} (h : cellOf a = cellOf b) : a = b := by
  have same : a.hex = b.hex := Cell.text.inj h
  have back := parse_readOctets a
  rw [same, parse_readOctets b] at back
  exact (Except.ok.inj back).symm

theorem cellOfName_inj {a b : Identity} (h : cellOfName a = cellOfName b) : a = b := by
  cases a
  cases b
  exact congrArg Identity.mk (Cell.text.inj h)

/-- The layout of rows that carry octets as their key. -/
def octetsLayout {n : Nat} {α : Type} (schema : Schema) (row : α → Row) :
    Layout (Octets n) α where
  schema
  cells key := [cellOf key]
  row entry := row entry.2
  cells_inj same := cellOf_inj (List.cons.inj same).1

/-- The layout of rows under a name. -/
def nameLayout {α : Type} (schema : Schema) (row : Identity × α → Row) : Layout Identity α where
  schema
  cells name := [cellOfName name]
  row
  cells_inj same := cellOfName_inj (List.cons.inj same).1

/-- The layout of deposits. -/
def depositLayout : Layout DepositKey Deposit := octetsLayout depositSchema depositRow

/-- The layout of reservations. -/
def reservationLayout : Layout DepositKey Reservation :=
  octetsLayout reservationSchema reservationRow

/-- The layout of wallets. -/
def walletLayout : Layout PubKeyHash Wallet := octetsLayout walletSchema walletRow

/-- The layout of redemptions. -/
def redemptionLayout : Layout DepositKey PriorityRedemption :=
  octetsLayout redemptionSchema redemptionRow

/-- The layout of vaults. -/
def vaultLayout : Layout Identity Bool := nameLayout vaultSchema vaultRow

/-- The layout of balances. -/
def balanceLayout : Layout Identity UInt64 := nameLayout balanceSchema balanceRow

/-- The layout of the places that reservations have in their depositors' lists. -/
def placeLayout : Layout (Identity × DepositKey) Nat where
  schema := indexSchema
  cells own := [cellOfName own.1, cellOf own.2]
  row entry := indexRow entry.1.1 entry.2 entry.1.2
  cells_inj same := by
    obtain ⟨name, key⟩ := List.cons.inj same
    exact Prod.ext (cellOfName_inj name) (cellOf_inj (List.cons.inj key).1)

end Relational

/-! ## §2. Mirrors. -/

section Mirrors

variable {κ α : Type} {layout : Layout κ α} {rows : Relation} {f : κ → Option α}

/-- A relation with one row for each value of a partial function. -/
def Mirrors (layout : Layout κ α) (rows : Relation) (f : κ → Option α) : Prop :=
  ∃ entries, Lists entries f ∧ rows = entries.map layout.row ∧
    ∀ entry ∈ entries, layout.Fits entry

namespace Mirrors

/-- No rows mirror nothing. -/
theorem empty (layout : Layout κ α) : Mirrors layout [] fun _ => none :=
  ⟨[], .empty, rfl, by simp⟩

/-- Two entries that fit have the same key just if their rows do. -/
theorem key_eq_iff {a b : κ × α} (fits : layout.Fits a) (other : layout.Fits b) :
    layout.schema.key (layout.row a) = layout.schema.key (layout.row b) ↔ a.1 = b.1 := by
  rw [fits, other]
  exact ⟨layout.cells_inj, congrArg layout.cells⟩

variable [DecidableEq κ]

/-- Rows that mirror a function still do after a row was put in both. -/
theorem upsert (mirrors : Mirrors layout rows f) {entry : κ × α} (fits : layout.Fits entry) :
    Mirrors layout (rows.upsert layout.schema (layout.row entry)) (put f entry) := by
  obtain ⟨entries, lists, rfl, each⟩ := mirrors
  refine ⟨_, lists.put entry, ?_, ?_⟩
  · unfold Relation.upsert
    rw [List.map_append, List.filter_map, List.map_singleton]
    congr 2
    -- A row is overwritten just if it has the key of the entry.
    refine List.filter_congr fun other mem => ?_
    show (layout.schema.key (layout.row other) != layout.schema.key (layout.row entry)) = _
    rw [Bool.eq_iff_iff]
    simp [key_eq_iff (each other mem) fits]
  · intro other mem
    rcases List.mem_append.mp mem with mem | mem
    · exact each other (List.mem_filter.mp mem).1
    · rw [List.mem_singleton.mp mem]
      exact fits

/-- **Rows that are put in are put over the function.** -/
theorem upsertAll (mirrors : Mirrors layout rows f) {entries : List (κ × α)}
    (fits : ∀ entry ∈ entries, layout.Fits entry) :
    Mirrors layout (Relational.upsertAll layout.schema rows (entries.map layout.row))
      (overlay f entries) := by
  induction entries generalizing rows f with
  | nil => exact mirrors
  | cons entry rest ih =>
    exact ih (mirrors.upsert (fits entry List.mem_cons_self)) fun other mem =>
      fits other (List.mem_cons_of_mem entry mem)

/-- **The row under a key is that of the key's value.** -/
theorem find? (mirrors : Mirrors layout rows f) (key : κ) :
    rows.find? (fun row => layout.schema.key row == layout.cells key)
      = (f key).map fun value => layout.row (key, value) := by
  obtain ⟨entries, lists, rfl, each⟩ := mirrors
  have own : ∀ entry ∈ entries,
      (layout.schema.key (layout.row entry) == layout.cells key) = decide (entry.1 = key) := by
    intro entry mem
    rw [each entry mem, Bool.eq_iff_iff]
    simp only [beq_iff_eq, decide_eq_true_eq]
    exact ⟨layout.cells_inj, congrArg layout.cells⟩
  have among : entries.find? ((fun row => layout.schema.key row == layout.cells key) ∘ layout.row)
      = entries.find? fun entry => entry.1 = key := by
    refine List.find?_congr fun entry mem => ?_
    exact own entry mem
  rw [List.find?_map, among, lists.find?, Option.map_map]
  rfl

/-- **The rows that changed lead to the mirror of the next table.** -/
theorem changed [Ord κ] [Std.TransOrd κ] [Std.LawfulEqOrd κ] [DecidableEq α]
    {before after : Table κ α} (mirrors : Mirrors layout rows before.get?)
    (keeps : before.Keeps after)
    (fits : ∀ key x, after.get? key = some x → layout.Fits (key, x)) :
    Mirrors layout (Relational.upsertAll layout.schema rows
      ((before.changed after).map layout.row)) after.get? := by
  have own : ∀ entry ∈ before.changed after, layout.Fits entry := fun entry mem =>
    fits entry.1 entry.2 (Table.mem_changed_iff.mp mem).1
  have next := mirrors.upsertAll own
  rw [← Table.get?_insertAll, Table.insertAll_changed keeps] at next
  exact next

omit [DecidableEq κ] in
/-- The order of the rows does not matter. -/
theorem sortedBy (mirrors : Mirrors layout rows f) (schema : Schema) (names : List String) :
    Mirrors layout (rows.sortedBy schema names) f := by
  obtain ⟨entries, lists, rfl, each⟩ := mirrors
  -- Sorting the rows is sorting the entries that they were made from.
  have sorted (le : Row → Row → Bool) : Mirrors layout ((entries.map layout.row).mergeSort le) f :=
    ⟨entries.mergeSort fun a b => le (layout.row a) (layout.row b),
      lists.of_perm (List.mergeSort_perm entries _),
      (@List.map_mergeSort _ _ _ le layout.row entries fun _ _ _ _ => rfl).symm,
      fun entry mem => each entry (List.mem_mergeSort.mp mem)⟩
  exact sorted _

end Mirrors

end Mirrors

/-! ## §3. Reading. -/

namespace Relational

section Reading

variable {κ α β : Type} {layout : Layout κ α} {rows : Relation} {f : κ → Option α}
  (fault : String → StoreFault) {read : Row → Except String β}

/-- Rows that can be read are read one by one. -/
theorem readAll_map {γ : Type} {row : γ → Row} {g : γ → β} {entries : List γ}
    (each : ∀ entry ∈ entries, read (row entry) = .ok (g entry)) :
    readAll fault read (entries.map row) = .ok (entries.map g) := by
  have all : (entries.map row).mapM read = .ok (entries.map g) := by
    induction entries with
    | nil => rfl
    | cons entry rest ih =>
      rw [List.map_cons, List.mapM_cons, each entry List.mem_cons_self,
        ih fun other mem => each other (List.mem_cons_of_mem entry mem)]
      rfl
  unfold readAll
  rw [all]
  rfl

/-- **Every row is read, once.** -/
theorem readAll_mirrors {g : κ × α → β} (mirrors : Mirrors layout rows f)
    (each : ∀ entry, f entry.1 = some entry.2 → read (layout.row entry) = .ok (g entry)) :
    ∃ entries, Lists entries f ∧ readAll fault read rows = .ok (entries.map g) := by
  obtain ⟨entries, lists, rfl, -⟩ := mirrors
  refine ⟨entries, lists, readAll_map fault fun entry mem => each entry ?_⟩
  exact (lists.mem_iff entry.1 entry.2).mp mem

variable [Ord κ] [Std.TransOrd κ] [Std.LawfulEqOrd κ] [DecidableEq κ]

/-- A table is read back from its rows, if its values carry their keys. -/
theorem readAll_values {keyOf : α → κ} {t : Table κ α} {read : Row → Except String α}
    (mirrors : Mirrors layout rows t.get?)
    (keyed : ∀ key x, t.get? key = some x → keyOf x = key)
    (each : ∀ key x, t.get? key = some x → read (layout.row (key, x)) = .ok x) :
    ∃ values, readAll fault read rows = .ok values ∧ Table.ofValues keyOf values = t := by
  obtain ⟨entries, lists, read⟩ := readAll_mirrors fault mirrors fun entry => each entry.1 entry.2
  refine ⟨_, read, ?_⟩
  have paired : (entries.map (·.2)).map (fun value => (keyOf value, value)) = entries := by
    rw [List.map_map]
    refine (List.map_congr_left fun entry mem => ?_).trans (List.map_id _)
    show (keyOf entry.2, entry.2) = entry
    rw [keyed entry.1 entry.2 ((lists.mem_iff entry.1 entry.2).mp mem)]
  unfold Table.ofValues
  rw [paired]
  exact Table.insertAll_of_lists lists

end Reading

/-- **The row under a key is read.** -/
theorem readKey_eq {n : Nat} {α : Type} {schema : Schema} {row : α → Row} {rows : Relation}
    {f : Octets n → Option α} {read : Row → Except String α}
    (mirrors : Mirrors (octetsLayout schema row) rows f) (each : ∀ x, read (row x) = .ok x)
    (key : Octets n) : readKey schema read rows (cellOf key) = .ok (f key) := by
  have found : rows.find? (fun row => schema.key row == [cellOf key]) = (f key).map row :=
    mirrors.find? key
  unfold readKey
  rw [found]
  cases f key with
  | none => rfl
  | some x =>
    show ((read (row x)).mapError StoreFault.database).map some = _
    rw [each]
    rfl

/-! ## §4. The rows that no record is read from. -/

theorem vault_of_row (vault : Identity × Bool) : vaultOf (vaultRow vault) = .ok vault := by
  obtain ⟨name, trusted⟩ := vault
  cases trusted <;>
    simp [vaultOf, vaultRow, Store.RowView.text, Store.RowView.word, Store.RowView.integer,
      Store.RowView.cell, Store.Schema.place, vaultSchema, Store.Column.text,
      Store.Column.integer, List.findIdx, List.findIdx.go, cellOfName, Cell.ofWord, bind,
      Except.bind, pure, Except.pure, Except.map] <;>
    decide

theorem balance_of_row (balance : Identity × UInt64) :
    balanceOf (balanceRow balance) = .ok balance := by
  simp [balanceOf, balanceRow, Store.RowView.text, Store.RowView.word, Store.RowView.integer,
    Store.RowView.cell, Store.Schema.place, balanceSchema, Store.Column.text,
    Store.Column.integer, List.findIdx, List.findIdx.go, cellOfName, Cell.ofWord, bind,
    Except.bind, pure, Except.pure, Except.map]

theorem entry_of_row (depositor : Identity) (place : Nat) (key : DepositKey) :
    indexEntryOf (indexRow depositor place key) = .ok (depositor, key) := by
  have octets : Store.RowView.parse (Store.RowView.readOctets 32) (Octets.hex key) = .ok key :=
    parse_readOctets (n := 32) key
  simp [indexEntryOf, indexRow, Store.RowView.text, Store.RowView.octets, Store.RowView.cell,
    Store.Schema.place, indexSchema, Store.Column.text, Store.Column.integer, List.findIdx,
    List.findIdx.go, cellOf, cellOfName, octets, bind, Except.bind, pure, Except.pure]

end Relational

end Custody
