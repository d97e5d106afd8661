/-
  Custody.Proofs.Books
  ────────────────────────────────
  **WHAT A STORE HAS TO HOLD, AND HOW A COMMIT MOVES IT.**

  The books of a service are what its store has to hold: the state, the events
  and the balances.  A commit never takes a key out of a table, it only
  lengthens the lists of reservations, and it numbers its events on from the
  last, so the rows that it brings are enough to find the new books.

  Main facts:
    * `numbered_stage`  — events are numbered from one on without a gap;
    * `Accepted.grows`  — a commit only adds to the books or replaces rows;
    * `Accepted.audited` — the books stay such that a store can hold them.
-/
import Mathlib.Algebra.Group.Nat.Defs
import Custody.Proofs.Deltas
import Custody.Proofs.Runs

namespace Custody

/-! ## §1. Numbered events. -/

/-- Events that are numbered from one on. -/
def Numbered (events : List LoggedEvent) : Prop :=
  ∀ (i : Nat) (e : LoggedEvent), events[i]? = some e → e.seq = UInt64.ofNat (i + 1)

namespace EventLog

/-- The events are numbered one after the other. -/
theorem getElem?_number (seq time : UInt64) (events : List Event) (i : Nat) :
    (number seq time events)[i]?
      = (events[i]?).map fun event => ⟨seq + UInt64.ofNat i, time, event⟩ := by
  induction events generalizing seq i with
  | nil => rfl
  | cons event rest ih =>
    cases i with
    | zero => simp [number]
    | succ i =>
      rw [number, List.getElem?_cons_succ, List.getElem?_cons_succ, ih]
      congr 1
      funext event
      rw [UInt64.ofNat_add, UInt64.add_assoc]
      congr 2
      exact UInt64.add_comm _ _

/-- As many events are numbered as there are. -/
theorem length_number (seq time : UInt64) (events : List Event) :
    (number seq time events).length = events.length := by
  rw [← List.length_map (·.event), number_events]

theorem length_stage (log : EventLog) (events : List Event) (time : UInt64) :
    (log.stage events time).length = events.length := length_number ..

/-- In a log without gaps the next number is one more than its length. -/
theorem nextSeq_of_numbered {log : EventLog} (numbered : Numbered log.events) :
    log.nextSeq = UInt64.ofNat (log.events.length + 1) := by
  unfold nextSeq nextAfter
  cases last : log.events.getLast? with
  | none =>
    rw [List.getLast?_eq_none_iff.mp last]
    rfl
  | some e =>
    have place : log.events[log.events.length - 1]? = some e := by
      rw [← List.getLast?_eq_getElem?, last]
    -- The last event has the length of the log for its number.
    have positive : 0 < log.events.length := by
      refine List.length_pos_iff.mpr ?_
      intro none_logged
      rw [none_logged] at last
      cases last
    show e.seq + 1 = _
    rw [numbered _ e place, Nat.sub_add_cancel positive, UInt64.ofNat_add]
    rfl

/-- **Staged events go on with the numbers.** -/
theorem numbered_stage {log : EventLog} (numbered : Numbered log.events) (events : List Event)
    (time : UInt64) : Numbered (log.events ++ log.stage events time) := by
  intro i e found
  by_cases old : i < log.events.length
  -- An event of the log keeps its place, and a staged one stands behind all of them.
  · rw [List.getElem?_append_left old] at found
    exact numbered i e found
  · have place : log.events.length ≤ i := Nat.le_of_not_lt old
    rw [List.getElem?_append_right place, stage, getElem?_number] at found
    obtain ⟨event, -, rfl⟩ := Option.map_eq_some_iff.mp found
    show log.nextSeq + _ = _
    rw [nextSeq_of_numbered numbered, ← UInt64.ofNat_add]
    congr 1
    omega

end EventLog

/-- The number of an event, if there are fewer events than numbers. -/
theorem Numbered.toNat_seq {events : List LoggedEvent} (numbered : Numbered events)
    (few : events.length < 2 ^ 64) {i : Nat} {e : LoggedEvent} (found : events[i]? = some e) :
    e.seq.toNat = i + 1 := by
  have inside : i < events.length := (List.getElem?_eq_some_iff.mp found).1
  rw [numbered i e found]
  exact UInt64.toNat_ofNat_of_lt' (by show i + 1 < 2 ^ 64; omega)

/-- In a log without gaps no number is above the length. -/
theorem Numbered.toNat_seq_le {events : List LoggedEvent} (numbered : Numbered events)
    (few : events.length < 2 ^ 64) {e : LoggedEvent} (mem : e ∈ events) :
    e.seq.toNat ≤ events.length := by
  obtain ⟨i, found⟩ := List.mem_iff_getElem?.mp mem
  rw [numbered.toNat_seq few found]
  exact (List.getElem?_eq_some_iff.mp found).1

theorem Numbered.of_append {events more : List LoggedEvent} (numbered : Numbered (events ++ more)) :
    Numbered events := by
  intro i e found
  have inside : i < events.length := (List.getElem?_eq_some_iff.mp found).1
  exact numbered i e (by rw [List.getElem?_append_left inside, found])

/-! ## §2. Books. -/

/-- What a store has to hold. -/
structure Books where
  state : State
  events : List LoggedEvent
  balances : Balances

/-- The books of a service. -/
def Service.books (service : Service) : Books :=
  ⟨service.state, service.log.events, service.ledger.balances⟩

namespace Books

/-- The books without entries. -/
def empty : Books := ⟨State.empty, [], Table.empty⟩

/-- What is true of the books of every service. -/
structure Audited (b : Books) : Prop where
  standing : b.state.Standing
  numbered : Numbered b.events
  /-- No list of reservations is longer than the log. -/
  listed : ∀ depositor keys, b.state.index.get? depositor = some keys →
    keys.length ≤ b.events.length

/-- What is true of the books after a commit, seen from those before it. -/
structure Grows (before after : Books) : Prop where
  deposits : before.state.deposits.Keeps after.state.deposits
  reservations : before.state.reservations.Keeps after.state.reservations
  wallets : before.state.wallets.Keeps after.state.wallets
  redemptions : before.state.redemptions.Keeps after.state.redemptions
  vaults : before.state.vaults.Keeps after.state.vaults
  balances : before.balances.Keeps after.balances
  /-- A list of reservations is only lengthened. -/
  index : ∀ depositor keys, before.state.index.get? depositor = some keys →
    ∃ more, after.state.index.get? depositor = some (keys ++ more)

theorem Audited.empty : Books.empty.Audited where
  standing := State.Standing.empty
  numbered _ _ found := by
    rw [show Books.empty.events = [] from rfl, List.getElem?_nil] at found
    cases found
  listed := nofun

theorem Grows.keeps {before after : Books} (h : before.Grows after) :
    before.state.Keeps after.state where
  deposits := h.deposits
  reservations := h.reservations
  wallets := h.wallets
  index depositor known := by
    obtain ⟨keys, found⟩ := Option.isSome_iff_exists.mp known
    obtain ⟨more, grown⟩ := h.index depositor keys found
    exact Option.isSome_iff_exists.mpr ⟨keys ++ more, grown⟩
  redemptions := h.redemptions
  vaults := h.vaults

end Books

/-! ## §3. A commit lets the books grow. -/

section Commit

variable {service : Service} {env : Circumstances} {command : Command} {t : Transition Receipt}
  {ledger : Ledger}

/-- **A commit only adds to the books or replaces rows.** -/
theorem Accepted.grows (h : Accepted service.state service.params env command t)
    (paid : service.ledger.applyBatch t.ledgerOps = .ok ledger) :
    service.books.Grows (service.advance t env.now ledger).books where
  deposits := h.keeps.deposits
  reservations := h.keeps.reservations
  wallets := h.keeps.wallets
  redemptions := h.keeps.redemptions
  vaults := h.keeps.vaults
  balances := Ledger.applyBatch_keeps paid
  index _ _ := h.lengthens

/-- Every accepted command leaves books that pass the audit. -/
theorem Accepted.audited (h : Accepted service.state service.params env command t)
    (audited : service.books.Audited) :
    (service.advance t env.now ledger).books.Audited where
  standing := h.standing audited.standing
  numbered := EventLog.numbered_stage audited.numbered t.events env.now
  listed depositor keys found := by
    replace found : t.state.index.get? depositor = some keys := found
    show keys.length ≤ (service.log.events ++ service.log.stage t.events env.now).length
    rw [List.length_append, EventLog.length_stage]
    have before : ∀ old, service.state.index.get? depositor = some old →
        old.length ≤ service.log.events.length := audited.listed depositor
    -- A list that gets longer does so with a command that reports something.
    rcases h.index_cases with same | ⟨r, -, -, lists, reported⟩
    · rw [same] at found
      exact Nat.le_add_right_of_le (before keys found)
    · rw [lists, Table.get?_insert_eq] at found
      split at found
      case isFalse => exact Nat.le_add_right_of_le (before keys found)
      case isTrue own =>
        cases found
        rw [List.length_append, List.length_singleton]
        cases known : service.state.index.get? r.depositor with
        | none =>
          rw [Option.getD_none, List.length_nil]
          omega
        | some old =>
          have := before old (own ▸ known)
          rw [Option.getD_some]
          omega

end Commit

end Custody
