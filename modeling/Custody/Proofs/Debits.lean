/-
  Custody.Proofs.Debits
  ────────────────────────────────
  **ONLY ITS OWNER CAN LOWER A BALANCE.**

  Two commands take money from accounts: redeeming takes what was minted from
  the depositor, and both redeeming and liquidating pay the bonus out of the
  bridge account.  A depositor redeems in his own name only, so no one else
  lowers his balance, whoever is treasury, vault or liquidator at the same time.

  That operations without a source act on the account that the parameters name
  as the bridge needs no more than that the service was loaded at some time:
  what the store held then, and what became of it since, does not matter.

  Main facts:
    * `Accepted.lost_cases`      — an accepted command takes nothing, or it redeems
                                   and takes from its caller;
    * `Accepted.lost_of_open`    — what closes no reservation takes from no account;
    * `balance_lowered_by_owner` — after any steps, over any store.
-/
import Custody.Proofs.Atomicity

namespace Custody

/-! ## §1. What an accepted command takes. -/

/-- Whether a command closes a reservation. -/
def Command.closes : Command → Bool
  | .redeem .. | .liquidate .. => true
  | _ => false

section Take

variable {s : State} {params : Params} {env : Circumstances} {command : Command}
  {t : Transition Receipt}

/-- **A command that closes no reservation takes from no account.** -/
theorem Accepted.lost_of_open (h : Accepted s params env command t)
    (opens : command.closes = false) (bridge : Identity) (accounts : Identity → Bool) :
    Ledger.lost bridge accounts t.ledgerOps = 0 := by
  cases h with
  | registerWallet | setWalletState | setVaultStatus | reveal | reserve => rfl
  | settleSweep proven settles =>
    cases State.settleSweep_ok_iff.mp settles with
    | mk => exact State.lost_credits bridge accounts s params _ _
  | redeem => cases opens
  | liquidate => cases opens

/-- What redeeming takes from an account beside the bridge. -/
theorem Ledger.lost_redeem {bridge account : Identity} (other : account ≠ bridge)
    (depositor treasury : Identity) (minted bonus : UInt64) :
    Ledger.lost bridge (· == account) [
        .transferBalanceFrom depositor bridge minted, .decreaseBalance minted,
        .transferBalance treasury bonus]
      = if depositor = account then minted.toNat else 0 := by
  have apart : ¬ bridge = account := fun same => other same.symm
  simp [Ledger.lost, Ledger.batchMoves, Ledger.moves, Move.loss, apart]

/-- What paying out of the bridge takes from another account. -/
theorem Ledger.lost_transfer {bridge account : Identity} (other : account ≠ bridge)
    (recipient : Identity) (amount : UInt64) :
    Ledger.lost bridge (· == account) [.transferBalance recipient amount] = 0 := by
  have apart : ¬ bridge = account := fun same => other same.symm
  simp [Ledger.lost, Ledger.batchMoves, Ledger.moves, Move.loss, apart]

/-- **An accepted command takes nothing from an account beside the bridge, or it is its owner's
redeeming and takes what the reservation had minted.** -/
theorem Accepted.lost_cases (h : Accepted s params env command t) {account : Identity}
    (other : account ≠ params.bridge) :
    Ledger.lost params.bridge (· == account) t.ledgerOps = 0 ∨
    ∃ key r redemption, command = .redeem account key ∧ s.reservations.get? key = some r ∧
      r.depositor = account ∧ t.output = .redeemed redemption ∧
      Ledger.lost params.bridge (· == account) t.ledgerOps = r.minted.toNat := by
  cases closes : command.closes with
  | false => exact .inl (h.lost_of_open closes _ _)
  | true =>
    cases h with
    | registerWallet | setWalletState | setVaultStatus | reveal | reserve | settleSweep =>
      cases closes
    | @redeem key r active inTime =>
      have taken := Ledger.lost_redeem other r.depositor params.treasury r.minted r.liquidationBonus
      -- Whoever redeems is the depositor, so nobody else loses anything.
      by_cases own : r.depositor = account
      · subst own
        rw [if_pos rfl] at taken
        exact .inr ⟨key, r, _, rfl, (State.active_of_activeReservation active).1, rfl, rfl, taken⟩
      · rw [if_neg own] at taken
        exact .inl taken
    | @liquidate liquidator key r active late =>
      exact .inl (Ledger.lost_transfer other liquidator r.liquidationBonus)

end Take

/-! ## §2. Services that were loaded. -/

/-- The service runs under these parameters, and its ledger has the bridge account that they
name. -/
structure Service.Under (params : Params) (service : Service) : Prop where
  terms : service.params = params
  bridge : service.ledger.bridge = params.bridge

namespace World

variable {σ : Type} [Store σ] {params : Params} {w : World σ}

/-- A service is loaded under the parameters that it is told. -/
theorem under_load {store : σ} {service : Service}
    (loaded : Service.load params store = .ok service) : service.Under params := by
  obtain ⟨state, events, balances, -, -, rfl⟩ := (Service.load_eq_ok_iff ..).mp loaded
  exact ⟨rfl, rfl⟩

theorem under_carry (under : w.service.Under params) (order : Order) :
    (w.carry order).service.Under params := by
  rcases w.answer_cases order with ⟨-, -, same⟩ | ⟨t, -, -, advanced⟩
  · rw [same]
    exact under
  · have paid := (Ledger.applyBatch_eq_ok_iff ..).mp advanced.ledger
    exact ⟨advanced.params.trans under.terms, paid.1.trans under.bridge⟩

theorem under_after (under : w.service.Under params) (step : Step) :
    (w.after step).service.Under params := by
  cases step with
  | order order => exact under_carry under order
  | reload =>
    unfold after
    cases loaded : Service.load w.service.params w.store with
    | error fault => exact under
    | ok service =>
      rw [under.terms] at loaded
      exact under_load loaded

/-- **A service that was loaded under some parameters stays under them**, whatever its store
holds. -/
theorem under_run (under : w.service.Under params) (steps : List Step) :
    (w.run steps).service.Under params := by
  induction steps generalizing w with
  | nil => exact under
  | cons step rest ih => exact ih (under_after under step)

/-! ## §3. Balances. -/

/-- What an order leaves of a balance. -/
structure Spares (w : World σ) (order : Order) (account : Identity) : Prop where
  /-- A balance beside the bridge's is lowered only by an accepted redeeming that its owner calls
  for on his own reservation, and by no more than that had minted. -/
  owner : account ≠ w.service.params.bridge →
    (w.carry order).service.ledger.balanceOf account < w.service.ledger.balanceOf account →
    ∃ key r redemption, order.command = .redeem account key ∧
      w.service.state.reservations.get? key = some r ∧ r.depositor = account ∧
      (w.service.execute w.store order.env order.command).result = .ok (.redeemed redemption) ∧
      (w.service.ledger.balanceOf account).toNat
        ≤ ((w.carry order).service.ledger.balanceOf account).toNat + r.minted.toNat
  /-- A command that closes no reservation lowers no balance at all. -/
  opening : order.command.closes = false →
    w.service.ledger.balanceOf account ≤ (w.carry order).service.ledger.balanceOf account

/-- Every order spares every account, under the parameters that the service was loaded with. -/
theorem spares (under : w.service.Under params) (order : Order) (account : Identity) :
    w.Spares order account := by
  rcases w.answer_cases order with ⟨-, -, same⟩ | ⟨t, proposed, answered, advanced⟩
  · -- A refused command has moved nothing.
    constructor
    · rw [same]
      exact fun _ fell => absurd fell (UInt64.lt_irrefl _)
    · intro _
      rw [same]
      exact UInt64.le_refl _
  · have accepted := Service.propose_accepted proposed
    have moved := Ledger.balanceOf_applyBatch account advanced.ledger
    have bridge : w.service.ledger.bridge = w.service.params.bridge := by
      rw [under.bridge, under.terms]
    rw [bridge] at moved
    constructor
    · intro other fell
      have fell := UInt64.lt_iff_toNat_lt.mp fell
      rcases accepted.lost_cases other with kept | ⟨key, r, redemption, own, found, depositor,
        output, taken⟩
      · omega
      · refine ⟨key, r, redemption, own, found, depositor, ?_, ?_⟩
        · rw [answered, output]
        · omega
    · intro opens
      have kept := accepted.lost_of_open opens w.service.params.bridge (· == account)
      exact UInt64.le_iff_toNat_le.mpr (by omega)

end World

/-- **Only its owner can lower a balance.**  Over any store, after any steps of a service that was
loaded from it: an order lowers the balance of an account other than the bridge only if it is a
redeeming that was accepted, called for by that account on its own reservation, and by no more than
that reservation had minted; and a command other than redeeming and liquidating lowers no balance,
the bridge's included. -/
theorem balance_lowered_by_owner {σ : Type} [Store σ] {params : Params} {store : σ}
    {service : Service} (loaded : Service.load params store = .ok service) (steps : List Step)
    (order : Order) (account : Identity) :
    (((World.mk service store).run steps).service.params = params) ∧
      ((World.mk service store).run steps).Spares order account := by
  have under : ((World.mk service store).run steps).service.Under params :=
    World.under_run (World.under_load loaded) steps
  exact ⟨under.terms, World.spares under order account⟩

/-- At the end of the sample run bob's redeeming lowers his balance. -/
theorem balance_lowered_by_owner_sample :
    let w := (World.mk (Service.opened {}) Volatile.empty).run ((Sample.orders.take 5).map .order)
    let order : Order := ⟨Sample.env 6, .redeem ⟨"bob"⟩ Sample.promised.key⟩
    Service.load {} Volatile.empty = .ok (Service.opened {}) ∧
      (w.carry order).service.ledger.balanceOf ⟨"bob"⟩ < w.service.ledger.balanceOf ⟨"bob"⟩ ∧
      w.Spares order ⟨"bob"⟩ := by
  intro w order
  have loaded : Service.load {} Volatile.empty = .ok (Service.opened {}) := rfl
  refine ⟨loaded, by decide +kernel, ?_⟩
  exact (balance_lowered_by_owner loaded ((Sample.orders.take 5).map .order) order ⟨"bob"⟩).2

end Custody
