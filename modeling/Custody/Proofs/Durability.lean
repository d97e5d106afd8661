/-
  Custody.Proofs.Durability
  ────────────────────────────────
  **STORES THAT HOLD THE BOOKS OF THEIR SERVICE.**

  A durable store holds books in some way of its own: it takes every commit
  that lets audited books grow, and answers every question from the books that
  it holds.  A store may have room for so many events only; within its room a
  service that is loaded anew is the service that was there before, so reloads
  do not show in a run.

  Main facts:
    * `Kept.carry`         — an order leaves the store with the service's books;
    * `Kept.reload_eq`     — a service is loaded with what it held;
    * `run_eq_serve`       — a run with reloads is the run without them.
-/
import Custody.Proofs.Books

namespace Custody

/-! ## §1. Durable stores. -/

/-- A store that holds books, with what it promises about them. -/
class DurableStore (σ : Type) [Store σ] where
  /-- The store without contents. -/
  blank : σ
  /-- How many events are in a store. -/
  size : σ → Nat
  /-- Whether there is room for so many events. -/
  HasRoom : Nat → Prop
  /-- Whether the contents are those of some books. -/
  Holds : σ → Books → Prop
  isBlank_blank : IsBlank blank
  size_blank : size blank = 0
  holds_blank : Holds blank Books.empty
  hasRoom_of_le {m n : Nat} : m ≤ n → HasRoom n → HasRoom m
  size_load {store : σ} {state : State} {events : List LoggedEvent} :
    Store.load store = .ok (state, events) → events.length = size store
  size_commit {store next : σ} {delta : Delta} {events : List LoggedEvent}
    {balances : List (Identity × UInt64)} :
    Store.commit store delta events balances = .ok next → size next = size store + events.length
  commit {store : σ} {before after : Books} {staged : List LoggedEvent} :
    Holds store before → before.Audited → after.Audited → before.Grows after →
      after.events = before.events ++ staged → HasRoom after.events.length →
      ∃ next, Store.commit store (before.state.diff after.state) staged
        (before.balances.changed after.balances) = .ok next ∧ Holds next after
  load {store : σ} {b : Books} : Holds store b → b.Audited → HasRoom b.events.length →
    Store.load store = .ok (b.state, b.events)
  loadBalances {store : σ} {b : Books} : Holds store b →
    ∃ rows, Store.loadBalances store = .ok rows ∧ Lists rows b.balances.get?
  deposit? {store : σ} {b : Books} : Holds store b → ∀ key,
    Store.deposit? store key = .ok (b.state.deposits.get? key)
  reservation? {store : σ} {b : Books} : Holds store b → ∀ key,
    Store.reservation? store key = .ok (b.state.reservations.get? key)
  reservationsOf {store : σ} {b : Books} : Holds store b → b.Audited → HasRoom b.events.length →
    ∀ depositor, Store.reservationsOf store depositor = .ok (b.state.reservationsOf depositor)
  eventsSince {store : σ} {b : Books} : Holds store b → b.Audited → HasRoom b.events.length →
    ∀ after : UInt64, after.toNat < 2 ^ 63 →
      Store.eventsSince store after = .ok (b.events.filter fun e => after < e.seq)

/-- The steps of a run that are orders. -/
def ordersOf (steps : List Step) : List Order :=
  steps.filterMap fun
    | .order order => some order
    | .reload => none

/-! ## §2. Worlds in which the store holds the books. -/

namespace World

variable {σ : Type} [Store σ] [DurableStore σ]

/-- A service that is loaded over a store without contents. -/
def opened (params : Params) : World σ := ⟨Service.opened params, DurableStore.blank⟩

/-- The store holds the books of the service. -/
structure Kept (w : World σ) : Prop where
  holds : DurableStore.Holds w.store w.service.books
  audited : w.service.books.Audited
  bridge : w.service.ledger.bridge = w.service.params.bridge

/-- There is room in the store for the log of the service. -/
def Roomy (w : World σ) : Prop := DurableStore.HasRoom σ w.service.log.events.length

theorem Kept.opened (params : Params) : (World.opened params : World σ).Kept where
  holds := DurableStore.holds_blank
  audited := Books.Audited.empty
  bridge := rfl

/-- **A store in which there is room takes every commit that it is not kept from taking.** -/
theorem Kept.bring {w : World σ} (kept : w.Kept) {env : Circumstances} {command : Command}
    {t : Transition Receipt} {ledger : Ledger}
    (accepted : Accepted w.service.state w.service.params env command t)
    (paid : w.service.ledger.applyBatch t.ledgerOps = .ok ledger)
    (room : DurableStore.HasRoom σ (w.service.advance t env.now ledger).log.events.length)
    (works : env.storeFault = none) :
    ∃ next, Service.bring env w.store (w.service.state.diff t.state)
        (w.service.log.stage t.events env.now)
        (w.service.ledger.balances.changed ledger.balances) = .ok next ∧
      DurableStore.Holds next (w.service.advance t env.now ledger).books := by
  unfold Service.bring
  rw [works]
  exact DurableStore.commit kept.holds kept.audited (accepted.audited kept.audited)
    (accepted.grows paid) rfl room

/-- **A store refuses only what it is made to refuse, or has no room for.** -/
theorem Kept.refusal {w : World σ} (kept : w.Kept) {env : Circumstances} {command : Command}
    {reason : StoreFault}
    (refused : (w.service.execute w.store env command).result = .error (.store reason)) :
    env.storeFault = some reason ∨ ∃ t, w.service.propose env command = .ok t ∧
      ¬ DurableStore.HasRoom σ (w.service.log.events.length + t.events.length) := by
  have executes := w.service.execute_executes w.store env command
  generalize w.service.execute w.store env command = out at executes refused
  cases executes with
  | @unproposed fault journal proposed =>
    cases refused
    exact absurd proposed (Service.propose_ne_store reason)
  | unpaid => cases refused
  | @unstored t ledger reason' journal proposed paid unstored =>
    cases refused
    -- Either it was made to refuse, or there was no room for the events.
    cases works : env.storeFault with
    | some forced =>
      unfold Service.bring at unstored
      rw [works] at unstored
      cases unstored
      exact .inl rfl
    | none =>
      refine .inr ⟨t, proposed, fun room => ?_⟩
      have grown : (w.service.advance t env.now ledger).log.events.length
          = w.service.log.events.length + t.events.length := by
        show (w.service.log.events ++ w.service.log.stage t.events env.now).length = _
        rw [List.length_append, EventLog.length_stage]
      obtain ⟨next, stored, -⟩ := kept.bring (Service.propose_accepted proposed) paid
        (by rw [grown]; exact room) works
      rw [stored] at unstored
      cases unstored
  | committed => cases refused

/-- **After an order the store holds the books of the service.** -/
theorem Kept.carry {w : World σ} (kept : w.Kept) {order : Order} (room : (w.carry order).Roomy) :
    (w.carry order).Kept := by
  rcases w.carry_cases order with same | ⟨t, ledger, next, proposed, paid, stored, carried⟩
  · rw [same]
    exact kept
  · rw [carried] at room ⊢
    have accepted := Service.propose_accepted proposed
    -- The commit went through, so nothing kept the store from it.
    have works : order.env.storeFault = none := (Service.bring_ok_iff.mp stored).1
    obtain ⟨brought, same, holds⟩ := kept.bring accepted paid room works
    rw [stored] at same
    cases same
    refine ⟨holds, accepted.audited kept.audited, ?_⟩
    exact ((Ledger.applyBatch_eq_ok_iff ..).mp paid).1.trans kept.bridge

/-- **A service is loaded with what it held.** -/
theorem Kept.reload_eq {w : World σ} (kept : w.Kept) (room : w.Roomy) :
    Service.load w.service.params w.store = .ok w.service := by
  -- The balances may be listed in any order; the table that they make is the one that was kept.
  obtain ⟨rows, loaded, lists⟩ := DurableStore.loadBalances kept.holds
  refine (Service.load_eq_ok_iff ..).mpr
    ⟨_, _, _, DurableStore.load kept.holds kept.audited room, loaded, ?_⟩
  have restored : (Ledger.opened w.service.params.bridge).restore rows = w.service.ledger := by
    show Ledger.mk w.service.params.bridge (Table.empty.insertAll rows) = w.service.ledger
    rw [Table.insertAll_of_lists lists, ← kept.bridge]
    rfl
  rw [restored]
  rfl

/-! ## §3. The number of events. -/

/-- The log of the service is as long as that of the store. -/
def Sized (w : World σ) : Prop := w.service.log.events.length = DurableStore.size w.store

/-- At first the logs of service and store are empty. -/
theorem Sized.opened (params : Params) : (World.opened params : World σ).Sized :=
  DurableStore.size_blank.symm

/-- A step keeps the logs of service and store at one length, and shortens neither. -/
theorem Sized.after {w : World σ} (sized : w.Sized) (step : Step) :
    (w.after step).Sized ∧
      w.service.log.events.length ≤ (w.after step).service.log.events.length := by
  cases step with
  | order order =>
    show (w.carry order).Sized ∧ _ ≤ (w.carry order).service.log.events.length
    rcases w.carry_cases order with same | ⟨t, ledger, next, proposed, paid, stored, carried⟩
    · rw [same]
      exact ⟨sized, Nat.le_refl _⟩
    · have longer : (w.carry order).service.log.events
          = w.service.log.events ++ w.service.log.stage t.events order.env.now := by
        rw [carried]
        rfl
      have grown : DurableStore.size next = DurableStore.size w.store
          + (w.service.log.stage t.events order.env.now).length :=
        DurableStore.size_commit (Service.bring_ok_iff.mp stored).2
      refine ⟨?_, by rw [longer, List.length_append]; exact Nat.le_add_right _ _⟩
      show (w.carry order).service.log.events.length = DurableStore.size (w.carry order).store
      rw [longer, List.length_append, sized, carried, grown]
  | reload =>
    cases loaded : Service.load w.service.params w.store with
    | error fault =>
      have same : w.after .reload = w := by
        unfold World.after
        rw [loaded]
      rw [same]
      exact ⟨sized, Nat.le_refl _⟩
    | ok service =>
      have next : w.after .reload = ⟨service, w.store⟩ := by
        unfold World.after
        rw [loaded]
      obtain ⟨state, events, balances, held, -, rfl⟩ := (Service.load_eq_ok_iff ..).mp loaded
      have same := DurableStore.size_load held
      rw [next]
      exact ⟨same, Nat.le_of_eq (sized.trans same.symm)⟩

/-- A run keeps the logs of service and store at one length, and shortens neither. -/
theorem Sized.run {w : World σ} (sized : w.Sized) (steps : List Step) :
    (w.run steps).Sized ∧
      w.service.log.events.length ≤ (w.run steps).service.log.events.length := by
  induction steps generalizing w with
  | nil => exact ⟨sized, Nat.le_refl _⟩
  | cons step rest ih =>
    obtain ⟨next, grown⟩ := sized.after step
    obtain ⟨last, further⟩ := ih next
    exact ⟨last, Nat.le_trans grown further⟩

/-! ## §4. Runs with reloads. -/

/-- **A run with reloads is the run without them**, and the store holds the books in the end, as
long as there is room. -/
theorem run_eq_serve {w : World σ} {steps : List Step} (kept : w.Kept) (sized : w.Sized)
    (room : (w.run steps).Roomy) :
    w.run steps = w.serve (ordersOf steps) ∧ (w.run steps).Kept := by
  induction steps generalizing w with
  | nil => exact ⟨rfl, kept⟩
  | cons step rest ih =>
    obtain ⟨next, -⟩ := sized.after step
    -- The log never gets shorter, so room in the end is room on the way.
    have within : (w.after step).Roomy :=
      DurableStore.hasRoom_of_le (next.run rest).2 room
    cases step with
    | order order => exact ih (kept.carry within) next room
    | reload =>
      have before : w.Roomy := DurableStore.hasRoom_of_le (sized.after .reload).2 within
      have same : w.after .reload = w := by
        unfold World.after
        rw [kept.reload_eq before]
      rw [run_cons, same] at room ⊢
      exact ih kept sized room

/-- The log does not get shorter while orders are served. -/
theorem Sized.length_le_serve {w : World σ} (sized : w.Sized) (orders : List Order) :
    w.service.log.events.length ≤ (w.serve orders).service.log.events.length := by
  rw [← run_map_order]
  exact (sized.run (orders.map .order)).2

/-- **The same, if there is room for the orders alone.** -/
theorem run_eq_serve_of_room {w : World σ} {steps : List Step} (kept : w.Kept) (sized : w.Sized)
    (room : (w.serve (ordersOf steps)).Roomy) : w.run steps = w.serve (ordersOf steps) := by
  induction steps generalizing w with
  | nil => rfl
  | cons step rest ih =>
    obtain ⟨next, -⟩ := sized.after step
    cases step with
    | order order =>
      have within : (w.carry order).Roomy :=
        DurableStore.hasRoom_of_le (next.length_le_serve (ordersOf rest)) room
      exact ih (kept.carry within) next room
    | reload =>
      have before : w.Roomy :=
        DurableStore.hasRoom_of_le (sized.length_le_serve (ordersOf rest)) room
      have same : w.after .reload = w := by
        unfold World.after
        rw [kept.reload_eq before]
      rw [run_cons, same]
      exact ih kept sized room

/-- The worlds in which a run ends that has served orders: straight away over any store that holds
nothing yet, or with reloads over a durable store with room. -/
inductive Reached {σ : Type} [Store σ] (params : Params) (orders : List Order) : World σ → Prop
  | served {store : σ} {service : Service} (blank : IsBlank store)
      (loaded : Service.load params store = .ok service) :
      Reached params orders ((World.mk service store).serve orders)
  | resumed [DurableStore σ] {steps : List Step} (same : ordersOf steps = orders)
      (room : ((opened params : World σ).run steps).Roomy) :
      Reached params orders ((opened params).run steps)

section Reached

variable {σ : Type} [Store σ] {params : Params} {orders : List Order} {w : World σ}

/-- Every world that is reached has been served the accepted orders over some store. -/
theorem Reached.eq_serve (reached : w.Reached params orders) :
    ∃ store : σ, w = (World.mk (Service.opened params) store).serve orders := by
  cases reached with
  | @served store service blank loaded =>
    rw [Service.load_blank blank loaded]
    exact ⟨store, rfl⟩
  | @resumed durable steps same room =>
    obtain ⟨served, -⟩ := run_eq_serve (.opened params) (.opened params) room
    rw [served, same]
    exact ⟨DurableStore.blank, rfl⟩

/-- **What every committed transition keeps holds wherever a run ends.** -/
theorem Reached.invariant (holds : Service → Prop) (reached : w.Reached params orders)
    (start : holds (Service.opened params))
    (step : ∀ service order t ledger, order ∈ orders → holds service →
      Accepted service.state service.params order.env order.command t →
      service.ledger.applyBatch t.ledgerOps = .ok ledger →
      holds (service.advance t order.env.now ledger)) :
    holds w.service := by
  obtain ⟨store, served⟩ := reached.eq_serve
  rw [served]
  exact serve_invariant holds start step

end Reached

end World

/-! ## §5. The store that forgets. -/

namespace Volatile

/-- The changed rows lead from the tables of one state to those of the next. -/
theorem applyTo_diff {before after : Books} (audited : after.Audited)
    (grows : before.Grows after) :
    (before.state.diff after.state).applyTo before.state = after.state :=
  (State.applyTo_diff_eq_iff audited.standing.keyed).mpr grows.keeps

/-- The contents are the books themselves. -/
def Holds (store : Volatile) (b : Books) : Prop :=
  store.state = b.state ∧ store.events = b.events ∧ store.balances = b.balances

/-- Events that go on with the numbers have not been passed. -/
theorem isPassed_of_numbered {store : Volatile} {staged : List LoggedEvent}
    (numbered : Numbered (store.events ++ staged)) : store.isPassed staged = none := by
  unfold isPassed
  cases staged with
  | nil => rfl
  | cons first rest =>
    -- The first of them has the number that comes next.
    have next : EventLog.nextAfter store.events = UInt64.ofNat (store.events.length + 1) :=
      @EventLog.nextSeq_of_numbered ⟨store.events⟩ numbered.of_append
    have own := numbered store.events.length first (by simp)
    rw [List.head?_cons, next, Option.filter_some, own]
    simp

/-- The store takes the difference of books that grow, and then holds the new ones. -/
theorem commit_holds {store : Volatile} {before after : Books} {staged : List LoggedEvent}
    (holds : store.Holds before) (audited : after.Audited) (grows : before.Grows after)
    (appended : after.events = before.events ++ staged) :
    ∃ next, store.commit (before.state.diff after.state) staged
        (before.balances.changed after.balances) = .ok next ∧ Holds next after := by
  obtain ⟨state, events, balances⟩ := holds
  refine ⟨_, (commit_eq_ok_iff ..).mpr ⟨?_, rfl⟩, ?_, ?_, ?_⟩
  · refine isPassed_of_numbered ?_
    rw [events, ← appended]
    exact audited.numbered
  · show Delta.applyTo _ store.state = _
    rw [state, applyTo_diff audited grows]
  · show store.events ++ staged = _
    rw [events, appended]
  · show store.balances.insertAll _ = _
    rw [balances, Table.insertAll_changed grows.balances]

instance : DurableStore Volatile where
  blank := Volatile.empty
  size store := store.events.length
  HasRoom _ := True
  Holds := Holds
  isBlank_blank := ⟨rfl, rfl⟩
  size_blank := rfl
  holds_blank := ⟨rfl, rfl, rfl⟩
  hasRoom_of_le _ _ := trivial
  size_load := by
    intro store state events loaded
    cases loaded
    rfl
  size_commit := by
    intro store next delta events balances stored
    obtain ⟨-, rfl⟩ := (commit_eq_ok_iff ..).mp stored
    exact List.length_append
  commit holds _ audited grows appended _ := commit_holds holds audited grows appended
  load := by
    intro store b holds _ _
    obtain ⟨state, events, -⟩ := holds
    show Except.ok (store.state, store.events) = _
    rw [state, events]
  loadBalances := by
    intro store b holds
    obtain ⟨-, -, balances⟩ := holds
    refine ⟨_, rfl, ?_⟩
    rw [balances]
    exact Table.lists_rows b.balances
  deposit? := by
    intro store b holds key
    show Except.ok (store.state.deposits.get? key) = _
    rw [holds.1]
  reservation? := by
    intro store b holds key
    show Except.ok (store.state.reservations.get? key) = _
    rw [holds.1]
  reservationsOf := by
    intro store b holds _ _ depositor
    show Except.ok (store.state.reservationsOf depositor) = _
    rw [holds.1]
  eventsSince := by
    intro store b holds _ _ after _
    show Except.ok (store.events.filter _) = _
    rw [holds.2.1]

/-- Every run over the store that forgets starts from an empty store. -/
theorem reached_serve (params : Params) (orders : List Order) :
    ((World.mk (Service.opened params) Volatile.empty).serve orders).Reached params orders :=
  .served ⟨rfl, rfl⟩ rfl

end Volatile

end Custody
