/-
  Custody.Proofs.Liquidations
  ────────────────────────────────
  **A LIQUIDATED OUTPUT IS NOT MINTED AGAIN, UNLESS THE CLOCK STOOD AT ZERO.**

  Liquidation takes the reservation tag off a deposit.  From then on the time
  of the sweep alone keeps the deposit from being settled as an ordinary one,
  and that time is the reading of the clock when it was swept.  A reading of
  zero is taken for no time at all: such a deposit stays unswept, and once its
  reservation is liquidated it is minted a second time.

  What is said here is said of one key and of every clock, one that goes
  backwards included.

  Main facts:
    * `Turn.guards`               — a turn keeps what stands between a liquidation
                                    and another settlement;
    * `liquidated_never_settled`  — after a liquidation nothing is settled, if
                                    nothing was settled at reading zero before;
    * `liquidated_settled_again`  — and otherwise it may be.
-/
import Custody.Proofs.Lifecycle

namespace Custody

/-! ## §1. What the log tells of a key, with its times. -/

/-- A milestone with the reading of the clock when it was reached. -/
abbrev Dated := UInt64 × Milestone

/-- The milestone of a key that a logged event tells, if it tells one. -/
def LoggedEvent.dated? (key : DepositKey) (e : LoggedEvent) : Option Dated :=
  if e.event.key? = some key then e.event.milestone?.map (e.time, ·) else none

/-- A logged event tells a milestone and bears its time. -/
theorem LoggedEvent.dated?_eq_some {key : DepositKey} {e : LoggedEvent} {m : Dated} :
    e.dated? key = some m ↔ e.event.Tells key m.2 ∧ e.time = m.1 := by
  obtain ⟨time, m⟩ := m
  simp only [dated?, Event.Tells, Option.ite_none_right_eq_some, Option.map_eq_some_iff,
    Prod.mk.injEq]
  constructor
  · rintro ⟨own, _, told, rfl, rfl⟩
    exact ⟨⟨own, told⟩, rfl⟩
  · rintro ⟨⟨own, told⟩, rfl⟩
    exact ⟨own, m, told, rfl, rfl⟩

/-- The milestones of a key in a log. -/
def history (key : DepositKey) (log : List LoggedEvent) : List Dated :=
  log.filterMap (LoggedEvent.dated? key)

/-- What a log tells of a key after a commit is what it told, and what the commit adds. -/
theorem Service.history_advance {α : Type} (service : Service) (t : Transition α) (now : UInt64)
    (ledger : Ledger) (key : DepositKey) :
    history key (service.advance t now ledger).log.events
      = history key service.log.events ++ (milestones (eventsOf key t.events)).map (now, ·) := by
  have staged : history key (service.log.stage t.events now)
      = (milestones (eventsOf key t.events)).map (now, ·) := by
    refine (EventLog.filterMap_number_timed
      (fun time e => if e.key? = some key then e.milestone?.map (time, ·) else none) ..).trans ?_
    simp [milestones, eventsOf, List.filterMap_filter, List.map_filterMap, apply_ite]
  rw [← staged]
  exact List.filterMap_append

/-! ## §2. What a turn does to a swept deposit. -/

/-- A deposit is held that has been swept. -/
def Holding.Swept (held : Holding) : Prop := ∃ d, held.deposit = some d ∧ d.isSwept = true

section Turns

variable {key : DepositKey} {now : UInt64} {caller : Option Identity} {held next : Holding}
  {events : List Event}

/-- A swept deposit stays swept, and is not settled. -/
theorem Turn.swept_stays (h : Turn key now caller held events next) (swept : held.Swept) :
    next.Swept ∧ .settled ∉ milestones events := by
  obtain ⟨d, kept, swept⟩ := swept
  cases h with
  | idle => exact ⟨⟨d, kept, swept⟩, List.not_mem_nil⟩
  | reveal | reserve => cases kept
  | settle unswept | activate unswept =>
    cases kept
    rw [unswept] at swept
    cases swept
  | redeem => exact ⟨⟨d, kept, swept⟩, by simp [milestones, Event.milestone?]⟩
  | liquidate =>
    cases kept
    exact ⟨⟨_, rfl, swept⟩, by simp [milestones, Event.milestone?]⟩

/-- A deposit that is settled is swept, unless the clock stands at zero. -/
theorem Turn.swept_of_settled (h : Turn key now caller held events next)
    (settled : .settled ∈ milestones events) (clocked : now ≠ 0) : next.Swept := by
  cases h with
  | settle => exact ⟨_, rfl, Deposit.isSwept_of_now clocked⟩
  | activate => exact ⟨_, rfl, Deposit.isSwept_of_now clocked⟩
  | _ => simp [milestones, Event.milestone?, Deposit.revealed] at settled

/-- A reservation that is no longer pending was so before, or its deposit is settled now. -/
theorem Turn.settled_of_opened (h : Turn key now caller held events next) {r : Reservation}
    (kept : next.reservation = some r) (opened : r.status ≠ .revealed) :
    (∃ old, held.reservation = some old ∧ old.status ≠ .revealed) ∨
      .settled ∈ milestones events := by
  cases h with
  | idle | reveal | settle => exact .inl ⟨r, kept, opened⟩
  | reserve _ _ _ _ _ _ pending =>
    cases kept
    exact absurd pending opened
  | activate => exact .inr (by simp [milestones, Event.milestone?])
  | redeem active | liquidate active => exact .inl ⟨_, rfl, by simp [active]⟩

/-- What is liquidated was active, and nothing else is told of it. -/
theorem Turn.active_of_liquidated (h : Turn key now caller held events next)
    (liquidated : .liquidated ∈ milestones events) :
    milestones events = [.liquidated] ∧ ∃ r, held.reservation = some r ∧ r.status = .active := by
  cases h with
  | liquidate active => exact ⟨rfl, _, rfl, active⟩
  | _ => simp [milestones, Event.milestone?, Deposit.revealed] at liquidated

end Turns

/-! ## §3. What stands between a liquidation and another settlement. -/

/-- Unless something was settled at zero, a settled deposit is swept; what is no longer pending was
settled; and after a liquidation nothing is. -/
structure Guarded (told : List Dated) (held : Holding) : Prop where
  swept : (∃ m ∈ told, m.2 = .settled) → (0, .settled) ∉ told → held.Swept
  opened : ∀ r, held.reservation = some r → r.status ≠ .revealed → ∃ m ∈ told, m.2 = .settled
  barred : ∀ before time after, told = before ++ (time, .liquidated) :: after →
    (0, .settled) ∉ before → held.Swept ∧ ∀ m ∈ after, m.2 ≠ .settled

/-- Where nothing is told or held, there is nothing to guard. -/
theorem Guarded.start : Guarded [] ⟨none, none, none⟩ where
  swept := nofun
  opened := nofun
  barred before _ _ split := by simp at split

section Guards

variable {key : DepositKey} {now : UInt64} {caller : Option Identity} {held next : Holding}
  {events : List Event} {told : List Dated}

/-- The milestones of a commit are told at its time. -/
theorem mem_told_later {m : Milestone} (h : m ∈ milestones events) :
    (now, m) ∈ told ++ (milestones events).map (now, ·) :=
  List.mem_append_right _ (List.mem_map_of_mem h)

/-- An entry of a prolonged list is among what was added, or was there before. -/
theorem split_of_append {α : Type} {old more before after : List α} {x : α}
    (h : old ++ more = before ++ x :: after) :
    (∃ mid, before = old ++ mid ∧ more = mid ++ x :: after) ∨
      ∃ rest, old = before ++ x :: rest ∧ after = rest ++ more := by
  rcases List.append_eq_append_iff.mp h with added | ⟨mid, earlier, later⟩
  · exact .inl added
  · rcases List.cons_eq_append_iff.mp later with ⟨rfl, added⟩ | ⟨rest, rfl, rfl⟩
    · exact .inl ⟨[], by simpa using earlier.symm, added⟩
    · exact .inr ⟨rest, earlier, rfl⟩

/-- **A turn keeps what stands between a liquidation and another settlement.** -/
theorem Turn.guards (h : Turn key now caller held events next) (guarded : Guarded told held) :
    Guarded (told ++ (milestones events).map (now, ·)) next where
  swept := by
    rintro ⟨⟨time, m⟩, mem, rfl⟩ nonzero
    rw [List.mem_append, not_or] at nonzero
    rcases List.mem_append.mp mem with earlier | now_told
    · exact (h.swept_stays (guarded.swept ⟨_, earlier, rfl⟩ nonzero.1)).1
    · obtain ⟨m, settled, same⟩ := List.mem_map.mp now_told
      cases same
      refine h.swept_of_settled settled ?_
      rintro rfl
      exact nonzero.2 now_told
  opened r kept opened := by
    rcases h.settled_of_opened kept opened with ⟨old, was_kept, was_opened⟩ | settled
    · obtain ⟨m, mem, settled⟩ := guarded.opened old was_kept was_opened
      exact ⟨m, List.mem_append_left _ mem, settled⟩
    · exact ⟨_, mem_told_later settled, rfl⟩
  barred before time after split nonzero := by
    rcases split_of_append split with ⟨mid, rfl, added⟩ | ⟨rest, rfl, rfl⟩
    · -- The liquidation is told now, of a reservation whose deposit was settled before.
      have liquidated : .liquidated ∈ milestones events := by
        have mem : (time, .liquidated) ∈ (milestones events).map (now, ·) := by simp [added]
        obtain ⟨m, mem, same⟩ := List.mem_map.mp mem
        cases same
        exact mem
      obtain ⟨alone, r, kept, active⟩ := h.active_of_liquidated liquidated
      rw [alone, List.map_singleton, eq_comm, List.append_eq_singleton_iff] at added
      obtain ⟨rfl, last⟩ | ⟨-, ⟨⟩⟩ := added
      cases last
      rw [List.append_nil] at nonzero
      have settled := guarded.opened r kept (by simp [active])
      exact ⟨(h.swept_stays (guarded.swept settled nonzero)).1, nofun⟩
    · obtain ⟨swept, unsettled⟩ := guarded.barred before time rest rfl nonzero
      obtain ⟨still, quiet⟩ := h.swept_stays swept
      refine ⟨still, fun m mem settled => ?_⟩
      rcases List.mem_append.mp mem with earlier | now_told
      · exact unsettled m earlier settled
      · obtain ⟨m, told_now, rfl⟩ := List.mem_map.mp now_told
        cases settled
        exact quiet told_now

end Guards

/-! ## §4. Runs. -/

/-- **After a liquidation nothing is settled under its key, whatever the clock shows, if nothing
was settled there at reading zero before.** -/
theorem liquidated_never_settled {σ : Type} [Store σ] {params : Params} {orders : List Order}
    {w : World σ} (reached : w.Reached params orders) {key : DepositKey}
    {before after : List LoggedEvent} {close : LoggedEvent}
    (split : w.service.log.events = before ++ close :: after)
    (closes : close.event.Tells key .liquidated)
    (clocked : ∀ e ∈ before, e.event.Tells key .settled → e.time ≠ 0) :
    ∀ e ∈ after, ¬ e.event.Tells key .settled := by
  have guarded : Guarded (history key w.service.log.events) (w.service.state.holding key) := by
    refine reached.invariant
      (fun service => Guarded (history key service.log.events) (service.state.holding key)) .start
      fun service order t ledger _ guarded accepted _ => ?_
    rw [Service.history_advance]
    exact (accepted.turn key).guards guarded
  have told : history key w.service.log.events
      = history key before ++ (close.time, .liquidated) :: history key after := by
    have closing : close.dated? key = some (close.time, .liquidated) :=
      LoggedEvent.dated?_eq_some.mpr ⟨closes, rfl⟩
    rw [split, history, List.filterMap_append, List.filterMap_cons, closing]
    rfl
  have nonzero : (0, .settled) ∉ history key before := by
    intro mem
    obtain ⟨e, among, dated⟩ := List.mem_filterMap.mp mem
    obtain ⟨tells, zero⟩ := LoggedEvent.dated?_eq_some.mp dated
    exact clocked e among tells zero
  obtain ⟨-, unsettled⟩ := guarded.barred _ _ _ told nonzero
  intro e among tells
  exact unsettled (e.time, .settled)
    (List.mem_filterMap.mpr ⟨e, among, LoggedEvent.dated?_eq_some.mpr ⟨tells, rfl⟩⟩) rfl

namespace Sample

/-- A sweep of the reserved deposit on top of the one that it was swept in. -/
def third : Tx := tx [secondOutput.outpoint, promised.outpoint] 41998000

/-- The reservation expires and is liquidated, and somebody tries to sweep its deposit again. -/
def expired : List Order := orders.take 5 ++ [
  ⟨env 2592005, .liquidate ⟨"carol"⟩ promised.key⟩,
  ⟨env 2592006, .settleSweep ⟨"carol"⟩ (sweep third secondOutput)⟩,
  ⟨env 2592007, .setVaultStatus ⟨"vault"⟩ true⟩]

/-- A first sweep of the reserved deposit, and one on top of it. -/
def once : Tx := tx [promised.outpoint] 19999500
def onceOutput : MainOutput := ⟨once.hash, 0, 19999500⟩
def again : Tx := tx [onceOutput.outpoint, promised.outpoint] 39999000

/-- The same, but the clock stands at zero until the reservation is liquidated. -/
def atZero : List Order := [
  ⟨env 0, .registerWallet wallet .live⟩,
  ⟨env 0, .reserve ⟨"alice"⟩ ⟨promised, 30, address⟩⟩,
  ⟨env 0, .settleSweep ⟨"alice"⟩ (sweep once none)⟩,
  ⟨env 2592001, .liquidate ⟨"bob"⟩ promised.key⟩,
  ⟨env 2592001, .settleSweep ⟨"alice"⟩ (sweep again onceOutput)⟩]

/-- Where the two runs lead from an empty store. -/
def lapsed : World Volatile := (World.mk (Service.opened {}) Volatile.empty).serve expired
def unclocked : World Volatile := (World.mk (Service.opened {}) Volatile.empty).serve atZero

end Sample

/-- An attempt to sweep the deposit of a liquidated reservation again leaves nothing in the log. -/
theorem liquidated_never_settled_sample :
    (Sample.lapsed.service.log.events = Sample.lapsed.service.log.events.take 11
        ++ ⟨12, 2592005, .reservationLiquidated Sample.promised.key ⟨"carol"⟩ 100000⟩
        :: Sample.lapsed.service.log.events.drop 12 ∧
      ∀ e ∈ Sample.lapsed.service.log.events.take 11,
        e.event.Tells Sample.promised.key .settled → e.time ≠ 0) ∧
    ∀ e ∈ Sample.lapsed.service.log.events.drop 12,
      ¬ e.event.Tells Sample.promised.key .settled := by
  have told : Sample.lapsed.service.log.events = Sample.lapsed.service.log.events.take 11
        ++ ⟨12, 2592005, .reservationLiquidated Sample.promised.key ⟨"carol"⟩ 100000⟩
        :: Sample.lapsed.service.log.events.drop 12 ∧
      ∀ e ∈ Sample.lapsed.service.log.events.take 11,
        e.event.Tells Sample.promised.key .settled → e.time ≠ 0 := by
    decide +kernel
  have reached : Sample.lapsed.Reached {} Sample.expired := Volatile.reached_serve ..
  exact ⟨told, liquidated_never_settled reached told.1 ⟨rfl, rfl⟩ told.2⟩

/-- At reading zero the same deposit is minted twice. -/
theorem liquidated_settled_again :
    milestones (eventsOf Sample.promised.key (Sample.unclocked.service.log.events.map (·.event)))
      = [.revealed true, .created, .activated, .settled, .liquidated, .settled] ∧
    Sample.unclocked.service.ledger.balanceOf ⟨"alice"⟩ = 38899000 := by
  decide +kernel

end Custody
