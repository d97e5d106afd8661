/-
  Custody.Proofs.Persistence
  ────────────────────────────────
  **THE RELATIONAL STORE HOLDS THE BOOKS.**

  The relations of a store mirror the tables of the books, the rows of the
  depositors' lists mirror the places in them, and the events stand in the
  order of their numbers.  The rows of a commit lead from the mirror of one
  state to that of the next, and every question is answered from rows that
  are read back as what they were written from.

  Numbers and places are kept as signed integers, so there is room for less
  than half of all numbers.

  Main facts:
    * `commit_holds`      — a commit leaves the store with the new books;
    * `load_holds`        — the books are loaded as they are;
    * `reservationsOf_holds`, `eventsSince_holds` — lists and events are
      answered in their order.
-/
import Custody.Proofs.Durability
import Custody.Proofs.Payloads
import Custody.Proofs.Places

namespace Custody

open Store (Cell Row Relation)

/-! ## §1. Events as rows. -/

namespace Relational

/-- An event is read back from its row. -/
theorem event_of_row (e : LoggedEvent) : eventOf (eventRow e) = .ok e := by
  have payload : Store.RowView.parse payloadOf (toJson e.event).print = .ok e.event := by
    rw [Store.RowView.parse, payloadOf, Event.read?_print]
    rfl
  simp [eventOf, eventRow, Store.RowView.text, Store.RowView.word, Store.RowView.integer,
    Store.RowView.cell, Store.Schema.place, eventSchema, Store.Column.text,
    Store.Column.integer, List.findIdx, List.findIdx.go, Cell.ofWord, payload, bind, Except.bind,
    pure, Except.pure, Except.map]

/-- Numbered events stand in the order of their rows. -/
theorem sortedEvents_eq {events : List LoggedEvent} (numbered : Numbered events)
    (low : events.length < 2 ^ 63) :
    sortedEvents (events.map eventRow) = events.map eventRow := by
  refine List.mergeSort_of_pairwise ?_
  rw [List.pairwise_map, List.pairwise_iff_getElem]
  intro i j inside inside' below
  have first := numbered.toNat_seq (by omega) (List.getElem?_eq_getElem inside)
  have second := numbered.toNat_seq (by omega) (List.getElem?_eq_getElem inside')
  have ordered : events[i].seq.toInt64 ≤ events[j].seq.toInt64 := by
    rw [Int64.le_iff_toInt_le, toInt_toInt64 (by omega), toInt_toInt64 (by omega)]
    omega
  simp only [Store.Schema.place, eventSchema, eventRow, Store.Column.text, Store.Column.integer,
    List.findIdx, List.findIdx.go, List.map_cons, List.map_nil, beq_self_eq_true, cond_true,
    List.getD_cons_zero, Cell.allLe, Cell.ofWord, Cell.le, decide_eq_true ordered, ite_self]

/-- Rows of events that go on with the numbers can be added. -/
theorem addEvents_eq {events staged : List LoggedEvent} (numbered : Numbered (events ++ staged))
    (low : (events ++ staged).length < 2 ^ 63) :
    addEvents (events.map eventRow) staged = .ok ((events ++ staged).map eventRow) := by
  induction staged generalizing events with
  | nil => rw [List.append_nil]; rfl
  | cons event rest ih =>
    -- The event comes next in the numbers, and every row before has a smaller one.
    have next : events ++ event :: rest = (events ++ [event]) ++ rest := by
      rw [List.append_assoc]
      rfl
    have untaken :
        Relation.hasKeyOf eventSchema (events.map eventRow) (eventRow event) = false := by
      refine List.any_eq_false.mpr fun row mem => ?_
      obtain ⟨old, among, rfl⟩ := List.mem_map.mp mem
      have length : events.length < 2 ^ 64 := by
        rw [List.length_append] at low
        omega
      have before := (numbered.of_append).toNat_seq_le length among
      have own := numbered.toNat_seq (by omega) (i := events.length) (e := event) (by simp)
      intro same
      have seq : Cell.ofWord old.seq = Cell.ofWord event.seq := by
        simpa [eventSchema, Store.Schema.key, eventRow] using same
      have words := congrArg Cell.word? seq
      rw [Cell.word_ofWord, Cell.word_ofWord] at words
      rw [Option.some.inj words] at before
      omega
    unfold addEvents
    rw [untaken, if_neg (by decide)]
    rw [next] at numbered low ⊢
    have more := ih numbered low
    rw [List.map_append] at more
    exact more

/-! ## §2. Relations that hold the books. -/

/-- The relations mirror the books. -/
structure Holds (db : Relational) (b : Books) : Prop where
  deposits : Mirrors depositLayout db.deposits b.state.deposits.get?
  reservations : Mirrors reservationLayout db.reservations b.state.reservations.get?
  wallets : Mirrors walletLayout db.wallets b.state.wallets.get?
  index : Mirrors placeLayout db.index (places b.state.index)
  redemptions : Mirrors redemptionLayout db.redemptions b.state.redemptions.get?
  vaults : Mirrors vaultLayout db.vaults b.state.vaults.get?
  balances : Mirrors balanceLayout db.balances b.balances.get?
  events : db.events = b.events.map eventRow

theorem Holds.empty : Holds empty Books.empty where
  deposits := .empty depositLayout
  reservations := .empty reservationLayout
  wallets := .empty walletLayout
  index := .empty placeLayout
  redemptions := .empty redemptionLayout
  vaults := .empty vaultLayout
  balances := .empty balanceLayout
  events := rfl

/-- Rows that carry octets fit under the octets that they carry. -/
theorem fits_of_key {n : Nat} {α : Type} {schema : Store.Schema} {row : α → Row}
    (keyOf : α → Octets n) (carried : ∀ x, schema.key (row x) = [cellOf (keyOf x)])
    {key : Octets n} {x : α} (own : keyOf x = key) : (octetsLayout schema row).Fits (key, x) := by
  show schema.key (row x) = [cellOf key]
  rw [carried, own]

section Commit

variable {db : Relational} {before after : Books}

/-- The rows of a change lead to the mirrors of the next state. -/
theorem write_holds (holds : db.Holds before) (audited : after.Audited)
    (grows : before.Grows after) :
    let next := db.write (before.state.diff after.state)
    Mirrors depositLayout next.deposits after.state.deposits.get? ∧
    Mirrors reservationLayout next.reservations after.state.reservations.get? ∧
    Mirrors walletLayout next.wallets after.state.wallets.get? ∧
    Mirrors placeLayout next.index (places after.state.index) ∧
    Mirrors redemptionLayout next.redemptions after.state.redemptions.get? ∧
    Mirrors vaultLayout next.vaults after.state.vaults.get? := by
  have keyed := audited.standing.keyed
  have deposits := holds.deposits.changed grows.deposits fun key d found =>
    fits_of_key Deposit.key (fun _ => rfl) (keyed.deposit key d found)
  have reservations := holds.reservations.changed grows.reservations fun key r found =>
    fits_of_key Reservation.key (fun _ => rfl) (keyed.reservation key r found)
  have wallets := holds.wallets.changed grows.wallets fun key w found =>
    fits_of_key Wallet.keyHash (fun _ => rfl) (keyed.wallet key w found)
  have redemptions := holds.redemptions.changed grows.redemptions fun key owed found =>
    fits_of_key PriorityRedemption.key (fun _ => rfl) (keyed.redemption key owed found)
  have vaults := holds.vaults.changed grows.vaults fun _ _ _ => rfl
  have distinct : Distinct after.state.index := fun depositor keys listed =>
    (audited.standing.indexed depositor keys listed).2.1
  have fits : ∀ entry ∈ (before.state.index.changed after.state.index).flatMap placesOf,
      placeLayout.Fits entry := fun _ _ => rfl
  -- The lists that changed are written whole, one row for each of their keys.
  have index := holds.index.upsertAll fits
  rw [overlay_places distinct grows.index] at index
  dsimp only [write, State.diff]
  rw [List.map_map, List.map_map, List.map_map, List.map_map]
  refine ⟨deposits, reservations, wallets, ?_, redemptions, vaults⟩
  have rows : (before.state.index.changed after.state.index).flatMap indexRows
      = ((before.state.index.changed after.state.index).flatMap placesOf).map
        placeLayout.row := by
    rw [List.map_flatMap]
    congr 1
    exact funext indexRows_eq
  rw [rows]
  exact index

/-- **A commit leaves the store with the new books.** -/
theorem commit_holds {staged : List LoggedEvent} (holds : db.Holds before)
    (audited : after.Audited) (grows : before.Grows after)
    (appended : after.events = before.events ++ staged) (low : after.events.length < 2 ^ 63) :
    ∃ next, db.commit (before.state.diff after.state) staged
        (before.balances.changed after.balances) = .ok next ∧ Holds next after := by
  obtain ⟨deposits, reservations, wallets, index, redemptions, vaults⟩ :=
    write_holds holds audited grows
  have added : addEvents db.events staged = .ok (after.events.map eventRow) := by
    have numbered := audited.numbered
    rw [appended] at numbered low ⊢
    rw [holds.events]
    exact addEvents_eq numbered low
  have balances := holds.balances.changed grows.balances fun _ _ _ => rfl
  refine ⟨{ db.write (before.state.diff after.state) with
    balances := upsertAll balanceSchema db.balances
      ((before.balances.changed after.balances).map balanceRow)
    events := after.events.map eventRow }, ?_, ?_⟩
  · show (addEvents db.events staged).bind _ = _
    rw [added]
    rfl
  · exact ⟨deposits, reservations, wallets, index, redemptions, vaults, balances, rfl⟩

end Commit

/-! ## §3. Answers. -/

section Answers

variable {db : Relational} {b : Books}

/-- No list of reservations is too long for its places. -/
theorem short_of_audited (audited : b.Audited) (low : b.events.length < 2 ^ 63)
    (depositor : Identity) (keys : List DepositKey)
    (listed : b.state.index.get? depositor = some keys) : keys.length < 2 ^ 63 :=
  Nat.lt_of_le_of_lt (audited.listed depositor keys listed) low

/-- Events are read back from their rows. -/
theorem read_events (fault : String → StoreFault) (events : List LoggedEvent) :
    readAll fault eventOf (events.map eventRow) = .ok events := by
  have read : readAll fault eventOf (events.map eventRow) = .ok (events.map fun e => e) :=
    readAll_map fault fun e _ => event_of_row e
  rw [read, List.map_id']

/-- **The books are loaded as they are.** -/
theorem load_holds (holds : db.Holds b) (audited : b.Audited) (low : b.events.length < 2 ^ 63) :
    db.load = .ok (b.state, b.events) := by
  have keyed := audited.standing.keyed
  obtain ⟨deposits, readDeposits, sameDeposits⟩ := readAll_values .invalidData holds.deposits
    keyed.deposit fun _ d _ => deposit_of_row d
  obtain ⟨reservations, readReservations, sameReservations⟩ :=
    readAll_values .invalidData holds.reservations keyed.reservation
      fun _ r _ => reservation_of_row r
  obtain ⟨wallets, readWallets, sameWallets⟩ := readAll_values .invalidData holds.wallets
    keyed.wallet fun _ w _ => wallet_of_row w
  obtain ⟨redemptions, readRedemptions, sameRedemptions⟩ :=
    readAll_values .invalidData holds.redemptions keyed.redemption
      fun _ owed _ => redemption_of_row owed
  obtain ⟨vaults, listsVaults, readVaults⟩ := readAll_mirrors .invalidData holds.vaults
    fun entry _ => vault_of_row entry
  have sameVaults : Table.ofList (vaults.map fun entry => entry) = b.state.vaults := by
    rw [List.map_id']
    exact Table.insertAll_of_lists listsVaults
  -- The lists are put together from rows, and in the right order only because these are sorted.
  obtain ⟨entries, lists, rows, -⟩ := holds.index
  have readIndex : readAll .invalidData indexEntryOf (sortedIndex db.index)
      = .ok ((sortedPlaces entries).map (·.1)) := by
    rw [rows, sortedIndex_eq]
    exact readAll_map .invalidData fun entry _ => entry_of_row entry.1.1 entry.2 entry.1.2
  have sameIndex := indexOf_sorted lists
    (fun depositor keys listed =>
      have known := audited.standing.indexed depositor keys listed
      ⟨known.1, known.2.1⟩)
    (short_of_audited audited low)
  have readEvents : readAll .invalidData eventOf (sortedEvents db.events) = .ok b.events := by
    rw [holds.events, sortedEvents_eq audited.numbered low]
    exact read_events .invalidData b.events
  unfold load
  rw [readDeposits, readReservations, readWallets, readRedemptions, readIndex, readVaults,
    readEvents]
  show Except.ok (State.mk _ _ _ _ _ _, b.events) = _
  rw [sameDeposits, sameReservations, sameWallets, sameIndex, sameRedemptions, sameVaults]

/-- Balances are read back from tables that hold them. -/
theorem loadBalances_holds (holds : db.Holds b) :
    ∃ rows, db.loadBalances = .ok rows ∧ Lists rows b.balances.get? := by
  have sorted := holds.balances.sortedBy balanceSchema ["account"]
  obtain ⟨rows, lists, read⟩ := readAll_mirrors .invalidData sorted
    fun entry _ => balance_of_row entry
  rw [List.map_id'] at read
  exact ⟨rows, read, lists⟩

/-- The row of a reservation is found by its first cell. -/
theorem find?_reservation (holds : db.Holds b) (key : DepositKey) :
    db.reservations.find? (fun row => row[0]? == some (cellOf key))
      = (b.state.reservations.get? key).map reservationRow := by
  have first : (fun (row : Row) => row[0]? == some (cellOf key))
      = fun row => reservationSchema.key row == [cellOf key] := by
    funext row
    cases row <;> simp [Store.Schema.key, reservationSchema]
  rw [first]
  exact holds.reservations.find? key

/-- **The reservations of a depositor are answered in the order of their places.** -/
theorem reservationsOf_holds (holds : db.Holds b) (audited : b.Audited)
    (low : b.events.length < 2 ^ 63) (depositor : Identity) :
    db.reservationsOf depositor = .ok (b.state.reservationsOf depositor) := by
  obtain ⟨entries, lists, rows, -⟩ := holds.index
  have sorted := sortedPlaces_own lists
    (fun depositor keys listed => (audited.standing.indexed depositor keys listed).2.1)
    (short_of_audited audited low) depositor
  -- First the rows of the depositor in order, then the reservations that they name.
  have own : (sortedIndex db.index).filter (fun row => row[0]? == some (cellOfName depositor))
      = (placesOf (depositor, (b.state.index.get? depositor).getD [])).map placeLayout.row := by
    rw [rows, sortedIndex_eq, List.filter_map, ← sorted]
    congr 2
    funext entry
    show (some (cellOfName entry.1.1) == some (cellOfName depositor)) = _
    rw [Bool.eq_iff_iff]
    simp only [beq_iff_eq, Option.some.injEq, decide_eq_true_eq]
    exact ⟨cellOfName_inj, congrArg cellOfName⟩
  have joined : ((placesOf (depositor, (b.state.index.get? depositor).getD [])).map
        placeLayout.row).filterMap
        (fun entry => db.reservations.find? fun row => row[0]? == entry[1]?)
      = (b.state.reservationsOf depositor).map reservationRow := by
    have each : ((fun entry : Row => db.reservations.find? fun row => row[0]? == entry[1]?)
          ∘ placeLayout.row)
        = (fun key => (b.state.reservations.get? key).map reservationRow) ∘ (·.1.2) := by
      funext entry
      exact find?_reservation holds entry.1.2
    rw [List.filterMap_map, each, ← List.filterMap_map, map_key_placesOf,
      State.reservationsOf, List.map_filterMap]
  unfold reservationsOf
  dsimp only
  rw [own, joined, readAll_map .database fun r _ => reservation_of_row r, List.map_id']

/-- **The events after a number are answered in the order of their numbers.** -/
theorem eventsSince_holds (holds : db.Holds b) (audited : b.Audited)
    (low : b.events.length < 2 ^ 63) {after : UInt64} (bounded : after.toNat < 2 ^ 63) :
    db.eventsSince after = .ok (b.events.filter fun e => after < e.seq) := by
  unfold eventsSince
  dsimp only
  rw [holds.events, sortedEvents_eq audited.numbered low, List.filter_map, read_events]
  refine congrArg Except.ok (List.filter_congr fun e mem => ?_)
  -- Both numbers are in the lower half, where the signed order is that of the numbers.
  have small := audited.numbered.toNat_seq_le (by omega) mem
  show decide (after.toInt64 < e.seq.toInt64) = decide (after < e.seq)
  rw [decide_eq_decide, Int64.lt_iff_toInt_lt, toInt_toInt64 bounded, toInt_toInt64 (by omega),
    UInt64.lt_iff_toNat_lt]
  omega

end Answers

/-! ## §4. The relational store is durable. -/

theorem length_mapM {ε α β : Type} {read : α → Except ε β} {rows : List α} {xs : List β}
    (h : rows.mapM read = .ok xs) : xs.length = rows.length := by
  induction rows generalizing xs with
  | nil =>
    cases h
    rfl
  | cons row rest ih =>
    rw [List.mapM_cons] at h
    obtain ⟨x, -, h⟩ := bind_ok_iff.mp h
    obtain ⟨ys, others, h⟩ := bind_ok_iff.mp h
    cases h
    rw [List.length_cons, List.length_cons, ih others]

/-- As many events are loaded as there are rows of them. -/
theorem length_load {db : Relational} {state : State} {events : List LoggedEvent}
    (h : db.load = .ok (state, events)) : events.length = db.events.length := by
  unfold load at h
  simp only [bind_ok_iff, pure_ok_iff] at h
  obtain ⟨_, -, _, -, _, -, _, -, _, -, _, -, read, each, same⟩ := h
  cases same
  rw [length_mapM (mapError_ok_iff.mp each)]
  exact List.length_mergeSort _

theorem length_addEvents {rows next : Relation} {events : List LoggedEvent}
    (h : addEvents rows events = .ok next) : next.length = rows.length + events.length := by
  induction events generalizing rows with
  | nil =>
    cases h
    rfl
  | cons event rest ih =>
    unfold addEvents at h
    split at h
    case isTrue => cases h
    case isFalse =>
      rw [ih h, List.length_append, List.length_singleton, List.length_cons]
      omega

/-- A commit makes one row of each of its events. -/
theorem length_commit {db next : Relational} {delta : Delta} {events : List LoggedEvent}
    {balances : List (Identity × UInt64)} (h : db.commit delta events balances = .ok next) :
    next.events.length = db.events.length + events.length := by
  unfold commit at h
  simp only [bind_ok_iff, pure_ok_iff] at h
  obtain ⟨rows, added, rfl⟩ := h
  exact length_addEvents added

/-- Tables without rows are blank. -/
theorem isBlank_empty : IsBlank empty where
  load := load_holds Holds.empty Books.Audited.empty (by decide)
  balances := by
    show readAll .invalidData balanceOf (List.mergeSort [] _) = .ok []
    rw [List.mergeSort_nil]
    rfl

instance : DurableStore Relational where
  blank := empty
  size db := db.events.length
  HasRoom n := n < 2 ^ 63
  Holds := Holds
  isBlank_blank := isBlank_empty
  size_blank := rfl
  holds_blank := Holds.empty
  hasRoom_of_le small low := Nat.lt_of_le_of_lt small low
  size_load := length_load
  size_commit := length_commit
  commit holds _ audited grows appended low := commit_holds holds audited grows appended low
  load holds audited low := load_holds holds audited low
  loadBalances := loadBalances_holds
  deposit? holds key := readKey_eq holds.deposits deposit_of_row key
  reservation? holds key := readKey_eq holds.reservations reservation_of_row key
  reservationsOf := reservationsOf_holds
  eventsSince holds audited low _ bounded := eventsSince_holds holds audited low bounded

end Relational

end Custody
