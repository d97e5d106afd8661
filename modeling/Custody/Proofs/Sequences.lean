/-
  Custody.Proofs.Sequences
  ────────────────────────────────
  **STORES THAT GO BY THE NUMBERS OF EVENTS.**

  What keeps a commit apart from one that was prepared on older books is the
  number of its first event.  The two stores check it in different ways: one
  compares it with the last number it has, the other looks for the number
  among all that it has.  Both come to the same: events that go on with the
  numbers are not refused as duplicates, and events that begin with a number
  that is taken never land.

  Main facts:
    * `numbered_iff`        — to be numbered is a matter of the numbers alone;
    * `addEvents_of_fresh`  — events with numbers of their own can be added;
    * `Reached.sequential`  — the store of a service has the numbers of its log.
-/
import Custody.Proofs.Atomicity

namespace Custody

open Store (Cell Row Relation)

/-! ## §1. Numbers. -/

/-- The numbers of events. -/
def numbersOf (events : List LoggedEvent) : List UInt64 := events.map (·.seq)

theorem numbersOf_append (events more : List LoggedEvent) :
    numbersOf (events ++ more) = numbersOf events ++ numbersOf more := List.map_append

theorem length_numbersOf (events : List LoggedEvent) :
    (numbersOf events).length = events.length := List.length_map ..

/-- To be numbered is a matter of the numbers alone. -/
theorem numbered_iff {events : List LoggedEvent} :
    Numbered events ↔ ∀ (i : Nat) (seq : UInt64),
      (numbersOf events)[i]? = some seq → seq = UInt64.ofNat (i + 1) := by
  constructor
  · intro numbered i seq found
    rw [numbersOf, List.getElem?_map] at found
    obtain ⟨e, at_place, rfl⟩ := Option.map_eq_some_iff.mp found
    exact numbered i e at_place
  · intro each i e found
    refine each i e.seq ?_
    rw [numbersOf, List.getElem?_map, found]
    rfl

/-- Whether a log has gaps is told from its numbers. -/
theorem Numbered.congr {events other : List LoggedEvent} (numbered : Numbered events)
    (same : numbersOf other = numbersOf events) : Numbered other := by
  rw [numbered_iff, same]
  exact numbered_iff.mp numbered

/-- As long as there are numbers enough, no two events have one number. -/
theorem Numbered.nodup {events : List LoggedEvent} (numbered : Numbered events)
    (few : events.length < UInt64.size) : (numbersOf events).Nodup := by
  refine List.nodup_iff_getElem?_ne_getElem?.mpr fun i j before inside same => ?_
  rw [length_numbersOf] at inside
  obtain ⟨seq, found⟩ : ∃ seq, (numbersOf events)[j]? = some seq :=
    ⟨_, List.getElem?_eq_getElem (by rw [length_numbersOf]; exact inside)⟩
  have later := numbered_iff.mp numbered j seq found
  have earlier := numbered_iff.mp numbered i seq (same.trans found)
  -- One number at two places, both below the number of words, is impossible.
  have words := congrArg UInt64.toNat (later.symm.trans earlier)
  have size : UInt64.size = 2 ^ 64 := rfl
  rw [UInt64.toNat_ofNat_of_lt' (by omega), UInt64.toNat_ofNat_of_lt' (by omega)] at words
  omega

/-! ## §2. Stores. -/

/-- A store that keeps the numbers of the events that it has taken, and goes by them. -/
class SequencedStore (σ : Type) [Store σ] where
  /-- The numbers of the events in the store, in the order of their commits. -/
  numbers : σ → List UInt64
  /-- Whether so many events can be told apart by their numbers. -/
  HasNumbers : Nat → Prop
  numbers_blank {store : σ} : IsBlank store → numbers store = []
  numbers_commit {store next : σ} {delta : Delta} {staged : List LoggedEvent}
    {balances : List (Identity × UInt64)} :
    Store.commit store delta staged balances = .ok next →
      numbers next = numbers store ++ numbersOf staged
  /-- Events that go on with the numbers are no duplicates. -/
  untaken {store : σ} {delta : Delta} {events staged : List LoggedEvent}
    {balances : List (Identity × UInt64)} {what : String} :
    numbers store = numbersOf events → Numbered (events ++ staged) →
      HasNumbers (events ++ staged).length →
      Store.commit store delta staged balances ≠ .error (.duplicate what)
  /-- Events that begin with a number that is taken do not land. -/
  taken {store next : σ} {delta : Delta} {events rest : List LoggedEvent} {first : LoggedEvent}
    {balances : List (Identity × UInt64)} :
    numbers store = numbersOf events → Numbered events → events.length < 2 ^ 63 →
      first.seq ∈ numbersOf events →
      Store.commit store delta (first :: rest) balances ≠ .ok next
  commit_nothing (store : σ) : Store.commit store {} [] [] = .ok store

/-! ### The store that forgets. -/

namespace Volatile

/-- A store in memory takes events that go on with the numbers it has. -/
theorem untaken {store : Volatile} {delta : Delta} {events staged : List LoggedEvent}
    {balances : List (Identity × UInt64)} (held : numbersOf store.events = numbersOf events)
    (numbered : Numbered (events ++ staged)) :
    store.commit delta staged balances = .ok (store.put delta staged balances) := by
  have own : Numbered (store.events ++ staged) := by
    refine numbered.congr ?_
    rw [numbersOf_append, numbersOf_append, held]
  exact (commit_eq_ok_iff ..).mpr ⟨isPassed_of_numbered own, rfl⟩

/-- A store in memory has passed every number that it has. -/
theorem taken {store : Volatile} {events rest : List LoggedEvent} {first : LoggedEvent}
    (held : numbersOf store.events = numbersOf events) (numbered : Numbered events)
    (low : events.length < 2 ^ 63) (old : first.seq ∈ numbersOf events) :
    store.isPassed (first :: rest) = some first := by
  have own : Numbered store.events := numbered.congr held
  have length : store.events.length = events.length := by
    rw [← length_numbersOf, held, length_numbersOf]
  have next : EventLog.nextAfter store.events = UInt64.ofNat (store.events.length + 1) :=
    @EventLog.nextSeq_of_numbered ⟨store.events⟩ own
  obtain ⟨e, mem, same⟩ := List.mem_map.mp old
  have below := numbered.toNat_seq_le (by omega) mem
  have passed : first.seq < EventLog.nextAfter store.events := by
    rw [next, UInt64.lt_iff_toNat_lt, UInt64.toNat_ofNat_of_lt' (by show _ < 2 ^ 64; omega), ← same]
    omega
  rw [isPassed, List.head?_cons, Option.filter_some, decide_eq_true passed]
  rfl

instance : SequencedStore Volatile where
  numbers store := numbersOf store.events
  HasNumbers _ := True
  numbers_blank := by
    intro store blank
    have loaded := blank.load
    have none_held : store.events = [] := congrArg Prod.snd (Except.ok.inj loaded)
    rw [none_held]
    rfl
  numbers_commit := by
    intro store next delta staged balances landed
    obtain ⟨-, rfl⟩ := (commit_eq_ok_iff ..).mp landed
    exact numbersOf_append store.events staged
  untaken := by
    intro store delta events staged balances what held numbered _ refused
    have landed : Store.commit store delta staged balances = .ok _ := untaken held numbered
    rw [landed] at refused
    cases refused
  taken := by
    intro store next delta events rest first balances held numbered low old landed
    obtain ⟨free, -⟩ := (commit_eq_ok_iff ..).mp landed
    rw [taken held numbered low old] at free
    cases free
  commit_nothing store := by
    refine (commit_eq_ok_iff ..).mpr ⟨rfl, ?_⟩
    show store = ⟨store.state, store.events ++ [], store.balances⟩
    rw [List.append_nil]

end Volatile

/-! ### The store of relations. -/

namespace Relational

/-- The numbers that event rows stand under. -/
def rowNumbers (rows : Relation) : List UInt64 :=
  rows.filterMap fun row => row.head?.bind Cell.word?

/-- The row of an event bears its number. -/
theorem rowNumbers_append_event (rows : Relation) (e : LoggedEvent) :
    rowNumbers (rows ++ [eventRow e]) = rowNumbers rows ++ [e.seq] := by
  unfold rowNumbers
  rw [List.filterMap_append]
  congr 1

/-- A row has the key of an event exactly if it stands under its number. -/
theorem hasKeyOf_eventRow (rows : Relation) (e : LoggedEvent) :
    Relation.hasKeyOf eventSchema rows (eventRow e) = true ↔ e.seq ∈ rowNumbers rows := by
  have key : ∀ row : Row, eventSchema.key row = eventSchema.key (eventRow e) ↔
      row.head?.bind Cell.word? = some e.seq := by
    intro row
    cases row with
    | nil => simp [Store.Schema.key, eventSchema, eventRow]
    | cons cell rest =>
      have cells : cell = Cell.ofWord e.seq ↔ cell.word? = some e.seq := by
        cases cell with
        | integer value =>
          simp only [Cell.ofWord, Cell.word?, Cell.integer.injEq, Option.some.injEq]
          constructor
          · rintro rfl
            exact UInt64.toUInt64_toInt64 e.seq
          · intro same
            rw [← same]
            exact (Int64.toInt64_toUInt64 value).symm
        | null | real | text => simp [Cell.ofWord, Cell.word?]
      simpa [Store.Schema.key, eventSchema, eventRow] using cells
  unfold Relation.hasKeyOf rowNumbers
  rw [List.any_eq_true, List.mem_filterMap]
  simp only [beq_iff_eq, key]

/-- **Events with numbers of their own can be added.** -/
theorem addEvents_of_fresh {rows : Relation} {staged : List LoggedEvent}
    (fresh : (rowNumbers rows ++ numbersOf staged).Nodup) :
    ∃ next, addEvents rows staged = .ok next := by
  induction staged generalizing rows with
  | nil => exact ⟨rows, rfl⟩
  | cons e rest ih =>
    have apart : rowNumbers rows ++ numbersOf (e :: rest)
        = rowNumbers (rows ++ [eventRow e]) ++ numbersOf rest := by
      rw [rowNumbers_append_event, List.append_assoc]
      rfl
    have free : ¬ Relation.hasKeyOf eventSchema rows (eventRow e) = true := by
      rw [hasKeyOf_eventRow]
      intro mem
      exact (List.nodup_append.mp fresh).2.2 _ mem e.seq List.mem_cons_self rfl
    rw [apart] at fresh
    rw [addEvents, if_neg free]
    exact ih fresh

/-- Rows that are added bear the numbers of the events. -/
theorem rowNumbers_addEvents {rows next : Relation} {staged : List LoggedEvent}
    (added : addEvents rows staged = .ok next) :
    rowNumbers next = rowNumbers rows ++ numbersOf staged := by
  induction staged generalizing rows with
  | nil =>
    cases added
    exact (List.append_nil _).symm
  | cons e rest ih =>
    unfold addEvents at added
    split at added
    case isTrue => cases added
    case isFalse =>
      rw [ih added, rowNumbers_append_event, List.append_assoc]
      rfl

/-- A commit lands exactly if its events can be added. -/
theorem commit_eq_ok {db next : Relational} {delta : Delta} {staged : List LoggedEvent}
    {balances : List (Identity × UInt64)} (landed : db.commit delta staged balances = .ok next) :
    addEvents db.events staged = .ok next.events := by
  simp only [commit, bind_ok_iff, pure_ok_iff] at landed
  obtain ⟨rows, added, rfl⟩ := landed
  exact added

/-- A commit whose events can be added is taken. -/
theorem commit_of_added {db : Relational} {delta : Delta} {staged : List LoggedEvent}
    {balances : List (Identity × UInt64)} {rows : Relation}
    (added : addEvents db.events staged = .ok rows) :
    ∃ next, db.commit delta staged balances = .ok next := by
  simp only [commit, bind_ok_iff, pure_ok_iff]
  exact ⟨_, rows, added, rfl⟩

instance : SequencedStore Relational where
  numbers db := rowNumbers db.events
  HasNumbers n := n < UInt64.size
  numbers_blank := by
    intro db blank
    have none_held := length_load blank.load
    rw [List.eq_nil_of_length_eq_zero none_held.symm]
    rfl
  numbers_commit landed := rowNumbers_addEvents (commit_eq_ok landed)
  untaken := by
    intro db delta events staged balances what held numbered few refused
    have fresh := numbered.nodup few
    rw [numbersOf_append, ← held] at fresh
    obtain ⟨rows, added⟩ := addEvents_of_fresh fresh
    obtain ⟨next, landed⟩ : ∃ next, db.commit delta staged balances = .ok next :=
      commit_of_added added
    have refused : db.commit delta staged balances = .error (.duplicate what) := refused
    rw [landed] at refused
    cases refused
  taken := by
    intro db next delta events rest first balances held _ _ old landed
    have added := commit_eq_ok landed
    rw [← held] at old
    rw [addEvents, if_pos ((hasKeyOf_eventRow _ _).mpr old)] at added
    cases added
  commit_nothing _ := rfl

end Relational

/-! ## §3. A service and its store. -/

namespace World

variable {σ : Type} [Store σ] [SequencedStore σ] {params : Params} {orders : List Order}
  {w : World σ}

/-- The store has the numbers of the service's log, which go from one on. -/
structure Sequential (w : World σ) : Prop where
  held : SequencedStore.numbers w.store = numbersOf w.service.log.events
  numbered : Numbered w.service.log.events

/-- An order leaves the store with the numbers of the log. -/
theorem Sequential.carry (sequential : w.Sequential) (order : Order) :
    (w.carry order).Sequential := by
  rcases w.answer_cases order with ⟨-, -, same⟩ | ⟨t, -, -, advanced⟩
  · rw [same]
    exact sequential
  · constructor
    · rw [SequencedStore.numbers_commit advanced.store, sequential.held, advanced.log,
        numbersOf_append]
    · rw [advanced.log]
      exact EventLog.numbered_stage sequential.numbered t.events order.env.now

/-- Orders leave the store with the numbers of the log. -/
theorem Sequential.serve (sequential : w.Sequential) (orders : List Order) :
    (w.serve orders).Sequential := by
  induction orders generalizing w with
  | nil => exact sequential
  | cons order rest ih => exact ih (sequential.carry order)

/-- **Wherever a run ends, the store has the numbers of the service's log.** -/
theorem Reached.sequential (reached : w.Reached params orders) : w.Sequential := by
  have start {store : σ} (blank : IsBlank store) :
      (World.mk (Service.opened params) store).Sequential :=
    ⟨SequencedStore.numbers_blank blank, Books.Audited.empty.numbered⟩
  cases reached with
  | @served store service blank loaded =>
    rw [Service.load_blank blank loaded]
    exact (start blank).serve orders
  | @resumed durable steps same room =>
    -- Within its room a run with reloads is the run without them.
    obtain ⟨served, -⟩ := run_eq_serve (.opened params) (.opened params) room
    rw [served]
    exact (start DurableStore.isBlank_blank).serve _

end World

end Custody
