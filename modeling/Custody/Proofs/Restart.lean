/-
  Custody.Proofs.Restart
  ────────────────────────────────
  **A RESTART DOES NOT SHOW.**

  After any run, over the store that forgets and over the relational one, what
  the store holds is what the service holds, and every question that the store
  is asked is answered as the service would answer it.  So a service that is
  loaded anew goes on as the one before would have gone on.

  Main facts:
    * `Kept.restores`       — a store that holds the books restores them;
    * `restart_equivalence` — both stores do, after any run.
-/
import Custody.Proofs.Persistence

namespace Custody

namespace World

variable {σ : Type} [Store σ]

/-- The answers to orders that are carried out one after the other. -/
def answers (w : World σ) : List Order → List (Except Fault Receipt)
  | [] => []
  | order :: rest =>
    (w.service.execute w.store order.env order.command).result :: (w.carry order).answers rest

/-- What the store holds is what the service holds, and a service that is loaded from it answers
every further order in the same way. -/
structure Restores (w : World σ) : Prop where
  load : Store.load w.store = .ok (w.service.state, w.service.log.events)
  balances : ∃ rows, Store.loadBalances w.store = .ok rows ∧
    ∀ account, ((Ledger.opened w.service.params.bridge).restore rows).balanceOf account
      = w.service.ledger.balanceOf account
  deposit (key : DepositKey) :
    Store.deposit? w.store key = .ok (w.service.state.deposits.get? key)
  reservation (key : DepositKey) :
    Store.reservation? w.store key = .ok (w.service.state.reservations.get? key)
  reservationsOf (depositor : Identity) :
    Store.reservationsOf w.store depositor = .ok (w.service.state.reservationsOf depositor)
  eventsSince (after : UInt64) : after.toNat < 2 ^ 63 →
    Store.eventsSince w.store after
      = .ok (w.service.log.events.filter fun e => after < e.seq)
  restart : ∃ restarted, Service.load w.service.params w.store = .ok restarted ∧
    ∀ orders, (World.mk restarted w.store).answers orders = w.answers orders

/-- **A store that holds the books restores them.** -/
theorem Kept.restores [DurableStore σ] {w : World σ} (kept : w.Kept) (room : w.Roomy) :
    w.Restores where
  load := DurableStore.load kept.holds kept.audited room
  balances := by
    -- The rows come in the order of the store, and make the same table.
    obtain ⟨rows, loaded, lists⟩ := DurableStore.loadBalances kept.holds
    refine ⟨rows, loaded, fun account => ?_⟩
    have same : Table.empty.insertAll rows = w.service.ledger.balances :=
      Table.insertAll_of_lists lists
    show Balances.of (Table.empty.insertAll rows) account = _
    rw [same]
    rfl
  deposit := DurableStore.deposit? kept.holds
  reservation := DurableStore.reservation? kept.holds
  reservationsOf := DurableStore.reservationsOf kept.holds kept.audited room
  eventsSince := DurableStore.eventsSince kept.holds kept.audited room
  restart := ⟨w.service, kept.reload_eq room, fun _ => rfl⟩

/-- A run with reloads ends with a store that restores, if there is room. -/
theorem restores_run [DurableStore σ] {params : Params} {steps : List Step}
    (room : ((opened params : World σ).run steps).Roomy) :
    ((opened params : World σ).run steps).Restores :=
  (run_eq_serve (.opened params) (.opened params) room).2.restores room

end World

/-- **After any run of commands and reloads the store restores the service**: the store that
forgets always, and the relational one as long as its numbers last. -/
theorem restart_equivalence (params : Params) (steps : List Step) :
    ((World.opened params : World Volatile).run steps).Restores ∧
    (((World.opened params : World Relational).run steps).service.log.events.length < 2 ^ 63 →
      ((World.opened params : World Relational).run steps).Restores) :=
  ⟨World.restores_run trivial, fun low => World.restores_run low⟩

/-- The sample run over the relational store, loaded anew before and after. -/
theorem restart_equivalence_sample :
    ((World.opened {} : World Relational).run
      (.reload :: Sample.orders.map .order ++ [.reload])).service.log.events.length = 13 ∧
    ((World.opened {} : World Relational).run
      (.reload :: Sample.orders.map .order ++ [.reload])).Restores := by
  have served : ((World.opened {} : World Relational).serve
      Sample.orders).service.log.events.length = 13 := by
    decide +kernel
  have room : ((World.opened {} : World Relational).serve Sample.orders).Roomy := by
    show _ < 2 ^ 63
    rw [served]
    decide
  have same : (World.opened {} : World Relational).run
      (.reload :: Sample.orders.map .order ++ [.reload])
      = (World.opened {} : World Relational).serve Sample.orders :=
    World.run_eq_serve_of_room (.opened {}) (.opened {}) room
  have length := served
  rw [← same] at length
  exact ⟨length, (restart_equivalence {} _).2 (by rw [length]; decide)⟩

end Custody
