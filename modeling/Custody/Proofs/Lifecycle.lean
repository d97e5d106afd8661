/-
  Custody.Proofs.Lifecycle
  ────────────────────────────────
  **THE LIFE OF A KEY, AS THE LOG TELLS IT.**

  An event that carries a key is a milestone in the life of a deposit, and an
  act is what one command tells of it.  There are three courses of acts: an
  ordinary deposit is revealed and settled; a reserved one is revealed with its
  reservation, activated by the sweep that settles it, and then redeemed or
  liquidated.  The acts in the log follow one course from its beginning, and
  the rows in the state are those that the acts told so far leave behind.

  A sweep at clock reading zero would leave its deposits unswept, so the
  readings of the clock are taken not to be zero.

  Main facts:
    * `Turn.advances`    — a turn on a key adds at most one act to its life;
    * `lifecycle`        — after any run, log and state agree on every key.
-/
import Custody.Proofs.Durability

namespace Custody

/-! ## §1. Milestones. -/

/-- What an event tells of the deposit whose key it carries. -/
inductive Milestone where
  | revealed (reserved : Bool)
  | settled
  | created
  | activated
  | redeemed
  | owed
  | liquidated
deriving DecidableEq, Repr

/-- The milestone that an event tells. -/
def Event.milestone? : Event → Option Milestone
  | .depositRevealed _ _ _ _ _ _ _ _ reserved => some (.revealed reserved)
  | .depositSettled .. => some .settled
  | .reservationCreated .. => some .created
  | .reservationActivated .. => some .activated
  | .reservationRedeemed .. => some .redeemed
  | .reservationLiquidated .. => some .liquidated
  | .priorityRedemptionRequested .. => some .owed
  | .depositsSwept .. | .mainOutputUpdated .. => none
  | .walletRegistered .. | .walletStateChanged .. | .vaultStatusUpdated .. => none

/-- An event tells a milestone of a key. -/
def Event.Tells (key : DepositKey) (m : Milestone) (e : Event) : Prop :=
  e.key? = some key ∧ e.milestone? = some m

instance (key : DepositKey) (m : Milestone) (e : Event) : Decidable (e.Tells key m) :=
  inferInstanceAs (Decidable (_ ∧ _))

/-- The milestones that events tell. -/
def milestones (events : List Event) : List Milestone := events.filterMap Event.milestone?

/-- A milestone that an event tells is among those of its key. -/
theorem Event.Tells.mem_milestones {key : DepositKey} {m : Milestone} {e : Event}
    {events : List Event} (tells : e.Tells key m) (mem : e ∈ events) :
    m ∈ milestones (eventsOf key events) :=
  List.mem_filterMap.mpr ⟨e, List.mem_filter.mpr ⟨mem, decide_eq_true tells.1⟩, tells.2⟩

/-- The events that tell a milestone are those that carry a key. -/
theorem Event.milestone?_isSome (e : Event) : e.milestone?.isSome = e.key?.isSome := by
  cases e <;> rfl

/-- The status that a milestone gives to the reservation, if it gives one. -/
def Milestone.status? : Milestone → Option ReservationStatus
  | .created => some .revealed
  | .activated => some .active
  | .redeemed => some .redeemed
  | .liquidated => some .liquidated
  | .revealed _ | .settled | .owed => none

/-! ## §2. Acts and courses. -/

/-- What one command tells of a key. -/
abbrev Act := List Milestone

/-- The three courses that a life can take. -/
def courses : List (List Act) := [
  [[.revealed false], [.settled]],
  [[.revealed true, .created], [.activated, .settled], [.redeemed, .owed]],
  [[.revealed true, .created], [.activated, .settled], [.liquidated]]]

/-- What is held under a key after the acts of its life. -/
inductive Life : List Act → Holding → Prop
  | unknown {owed : Option PriorityRedemption} : Life [] ⟨none, none, owed⟩
  | revealed {d : Deposit} {owed : Option PriorityRedemption} (unswept : d.isSwept = false)
      (untagged : d.isReserved = false) : Life [[.revealed false]] ⟨some d, none, owed⟩
  | settled {d : Deposit} {owed : Option PriorityRedemption} (swept : d.isSwept = true) :
      Life [[.revealed false], [.settled]] ⟨some d, none, owed⟩
  | promised {d : Deposit} {r : Reservation} {owed : Option PriorityRedemption}
      (unswept : d.isSwept = false) (tagged : d.isReserved = true)
      (pending : r.status = .revealed) :
      Life [[.revealed true, .created]] ⟨some d, some r, owed⟩
  | active {d : Deposit} {r : Reservation} {owed : Option PriorityRedemption}
      (swept : d.isSwept = true) (active : r.status = .active) :
      Life [[.revealed true, .created], [.activated, .settled]] ⟨some d, some r, owed⟩
  | redeemed {d : Deposit} {r : Reservation} {owed : Option PriorityRedemption}
      (swept : d.isSwept = true) (ended : r.status = .redeemed) :
      Life [[.revealed true, .created], [.activated, .settled], [.redeemed, .owed]]
        ⟨some d, some r, owed⟩
  | liquidated {d : Deposit} {r : Reservation} {owed : Option PriorityRedemption}
      (swept : d.isSwept = true) (ended : r.status = .liquidated) :
      Life [[.revealed true, .created], [.activated, .settled], [.liquidated]]
        ⟨some d, some r, owed⟩

namespace Life

variable {acts : List Act} {held : Holding}

/-- A life follows one of the courses from its beginning. -/
theorem follows (life : Life acts held) : ∃ course ∈ courses, acts <+: course := by
  cases life <;> decide

/-- No life settles twice. -/
theorem settled_once (life : Life acts held) :
    (acts.flatten.map some).count (some .settled) ≤ 1 := by
  cases life <;> decide

/-- There is a deposit exactly if anything has happened. -/
theorem deposit_iff (life : Life acts held) : held.deposit.isSome = true ↔ acts.flatten ≠ [] := by
  cases life <;> simp

/-- The deposit is swept exactly if it was settled. -/
theorem swept_iff (life : Life acts held) :
    (∃ d, held.deposit = some d ∧ d.isSwept = true) ↔ .settled ∈ acts.flatten := by
  cases life <;> simp_all

/-- There is a reservation exactly if one was created. -/
theorem reservation_iff (life : Life acts held) :
    held.reservation.isSome = true ↔ .created ∈ acts.flatten := by
  cases life <;> simp

/-- The stage of the reservation is the one that the last milestone of it tells. -/
theorem status_eq (life : Life acts held) :
    held.reservation.map (·.status) = (acts.flatten.filterMap Milestone.status?).getLast? := by
  cases life with
  | unknown | revealed | settled => rfl
  | promised _ _ status | active _ status | redeemed _ status | liquidated _ status =>
    exact congrArg some status

end Life

/-! ## §3. A turn adds at most one act. -/

/-- A deposit that is swept at a reading above zero counts as swept. -/
theorem Deposit.isSwept_of_now {d : Deposit} {now : UInt64} (clocked : now ≠ 0) :
    Deposit.isSwept { d with sweptAt := now } = true := by
  simpa [Deposit.isSwept] using clocked

/-- **A turn on a key adds at most one act to its life, and reports it.** -/
theorem Turn.advances {key : DepositKey} {now : UInt64} {caller : Option Identity}
    {held next : Holding} {events : List Event} {acts : List Act}
    (h : Turn key now caller held events next) (life : Life acts held) (clocked : now ≠ 0) :
    ∃ more : List Act, more.length ≤ 1 ∧ events.map Event.milestone? = more.flatten.map some ∧
      Life (acts ++ more) next := by
  cases h with
  | idle => exact ⟨[], Nat.zero_le _, rfl, by rwa [List.append_nil]⟩
  | @reveal d r owed own outpoint unswept untagged =>
    -- Nothing was held, so the life begins here.
    cases life
    refine ⟨[[.revealed false]], Nat.le_refl _, ?_, .revealed ?_ untagged⟩
    · simp [Deposit.revealed, Event.milestone?, untagged]
    · simp [Deposit.isSwept, unswept]
  | @reserve d r owed own outpoint unswept tagged sent reservationOwn pending =>
    cases life
    refine ⟨[[.revealed true, .created]], Nat.le_refl _, ?_, .promised ?_ tagged pending⟩
    · simp [Deposit.revealed, Event.milestone?, tagged]
    · simp [Deposit.isSwept, unswept]
  | @settle d r owed hash credited share unswept untagged =>
    -- A deposit that was swept once is never unswept again, and a tag leaves it only after that.
    cases life with
    | revealed => exact ⟨[[.settled]], Nat.le_refl _, rfl, .settled (d.isSwept_of_now clocked)⟩
    | promised _ tagged =>
      rw [untagged] at tagged
      cases tagged
    | settled swept | active swept | redeemed swept | liquidated swept =>
      rw [unswept] at swept
      cases swept
  | @activate d r final owed hash share unswept tagged pending balanced left row =>
    -- A pending reservation has its deposit unswept, and no other life has that and a reservation.
    cases life with
    | promised =>
      exact ⟨[[.activated, .settled]], Nat.le_refl _, rfl,
        .active (d.isSwept_of_now clocked) (by rw [row])⟩
    | active swept | redeemed swept | liquidated swept =>
      rw [unswept] at swept
      cases swept
  | @redeem d r owed active =>
    -- Only one life has an active reservation.
    cases life with
    | active swept => exact ⟨[[.redeemed, .owed]], Nat.le_refl _, rfl, .redeemed swept rfl⟩
    | promised _ _ status | redeemed _ status | liquidated _ status =>
      rw [active] at status
      cases status
  | @liquidate d r owed liquidator active =>
    cases life with
    | active swept => exact ⟨[[.liquidated]], Nat.le_refl _, rfl, .liquidated swept rfl⟩
    | promised _ _ status | redeemed _ status | liquidated _ status =>
      rw [active] at status
      cases status

/-! ## §4. Lives after a run. -/

/-- The events in the log of a service that carry a key. -/
def Service.told (service : Service) (key : DepositKey) : List Event :=
  eventsOf key (service.log.events.map (·.event))

/-- A commit adds what its events tell of a key. -/
theorem Service.told_advance {α : Type} (service : Service) (t : Transition α) (now : UInt64)
    (ledger : Ledger) (key : DepositKey) :
    (service.advance t now ledger).told key = service.told key ++ eventsOf key t.events := by
  unfold told
  rw [← eventsOf_append]
  congr 1
  have all := service.filterMap_advance t now ledger some
  simpa using all

/-- A key whose life is told in the log and has left its rows in the state. -/
def Service.Lived (service : Service) (key : DepositKey) : Prop :=
  ∃ acts, Life acts (service.state.holding key) ∧
    (service.told key).map Event.milestone? = acts.flatten.map some

theorem Service.Lived.opened (params : Params) (key : DepositKey) :
    (Service.opened params).Lived key := ⟨[], .unknown, rfl⟩

/-- **An accepted command continues the life of every key.** -/
theorem Service.Lived.advance {service : Service} {params : Params} {env : Circumstances}
    {command : Command} {t : Transition Receipt} {ledger : Ledger} {key : DepositKey}
    (lived : service.Lived key) (accepted : Accepted service.state params env command t)
    (clocked : env.now ≠ 0) : (service.advance t env.now ledger).Lived key := by
  obtain ⟨acts, life, told⟩ := lived
  obtain ⟨more, -, reported, next⟩ := (accepted.turn key).advances life clocked
  refine ⟨acts ++ more, next, ?_⟩
  rw [Service.told_advance, List.map_append, told, reported, List.flatten_append,
    List.map_append]

/-- What the log tells of a key follows one of the courses, from its beginning and act by act, and
the rows in the state are those that it tells of. -/
structure Service.Recounts (service : Service) (key : DepositKey) (acts : List Act) : Prop where
  follows : ∃ course ∈ courses, acts <+: course
  told : (service.told key).map Event.milestone? = acts.flatten.map some
  settled_once : ((service.told key).map Event.milestone?).count (some .settled) ≤ 1
  deposit : (service.state.deposits.get? key).isSome = true ↔ service.told key ≠ []
  swept : (∃ d, service.state.deposits.get? key = some d ∧ d.isSwept = true) ↔
    ∃ e ∈ service.told key, e.milestone? = some .settled
  reservation : (service.state.reservations.get? key).isSome = true ↔
    ∃ e ∈ service.told key, e.milestone? = some .created
  status : (service.state.reservations.get? key).map (·.status)
    = ((service.told key).filterMap fun e => e.milestone?.bind Milestone.status?).getLast?

/-- **After any run, log and state agree on the life of every key.** -/
theorem lifecycle {σ : Type} [Store σ] {params : Params} {orders : List Order} {w : World σ}
    (reached : w.Reached params orders) (clocked : ∀ order ∈ orders, order.env.now ≠ 0)
    (key : DepositKey) : ∃ acts, w.service.Recounts key acts := by
  obtain ⟨acts, life, told⟩ : w.service.Lived key :=
    reached.invariant (fun service => service.Lived key) (.opened params key)
      fun _ _ _ _ mem lived accepted _ => lived.advance accepted (clocked _ mem)
  -- What the acts mention is what the events tell.
  have mentioned (m : Milestone) :
      m ∈ acts.flatten ↔ ∃ e ∈ w.service.told key, e.milestone? = some m := by
    rw [← List.mem_map, told, List.mem_map]
    exact ⟨fun mem => ⟨m, mem, rfl⟩, fun ⟨_, mem, same⟩ => Option.some.inj same ▸ mem⟩
  refine ⟨acts, life.follows, told, ?_, ?_, ?_, ?_, ?_⟩
  · rw [told]
    exact life.settled_once
  · rw [show (w.service.state.deposits.get? key).isSome = true ↔ acts.flatten ≠ [] from
      life.deposit_iff]
    have lengths := congrArg List.length told
    rw [List.length_map, List.length_map] at lengths
    rw [← List.length_pos_iff, ← List.length_pos_iff, lengths]
  · rw [← mentioned]
    exact life.swept_iff
  · rw [← mentioned]
    exact life.reservation_iff
  · have each := congrArg (List.filterMap fun m => m.bind Milestone.status?) told
    rw [List.filterMap_map, List.filterMap_map] at each
    exact life.status_eq.trans (congrArg List.getLast? each.symm)

/-- In the sample run the reserved deposit takes the second course to its end. -/
theorem lifecycle_sample :
    (∀ order ∈ Sample.orders, order.env.now ≠ 0) ∧
    (((World.mk (Service.opened {}) Volatile.empty).serve Sample.orders).service.told
        Sample.promised.key).map Event.milestone?
      = [.revealed true, .created, .activated, .settled, .redeemed, .owed].map some ∧
    (∃ acts, ((World.mk (Service.opened {}) Volatile.empty).serve Sample.orders).service.Recounts
      Sample.promised.key acts) ∧
    ∃ acts, ((World.opened {} : World Volatile).run
      (.reload :: Sample.orders.map .order ++ [.reload])).service.Recounts
      Sample.promised.key acts := by
  have clocked : ∀ order ∈ Sample.orders, order.env.now ≠ 0 := by decide +kernel
  have straight : ((World.mk (Service.opened {}) Volatile.empty).serve Sample.orders).Reached {}
      Sample.orders := .served ⟨rfl, rfl⟩ rfl
  have resumed : ((World.opened {} : World Volatile).run
      (.reload :: Sample.orders.map .order ++ [.reload])).Reached {} Sample.orders :=
    .resumed rfl trivial
  exact ⟨clocked, by decide +kernel, lifecycle straight clocked _, lifecycle resumed clocked _⟩

end Custody
