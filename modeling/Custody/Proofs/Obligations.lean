/-
  Custody.Proofs.Obligations
  ────────────────────────────────
  **WHAT THE WALLETS HOLD AND WHAT THEY STILL HAVE TO PAY.**

  A redemption asks for the whole reserved amount and lets the wallet take off
  storage fee and bonus.  What was burnt for it is less than what is left to
  pay: the deposit's share of the sweep's fee was taken from what was minted,
  and the wallet may not take it off.  So the wallets fall short of all
  balances and all redemptions together by the sweep fees of the reservations
  that were redeemed, and by nothing else.

  Main facts:
    * `Coherent.owedLeast_eq` — what is owed at least, from the reservations;
    * `custody_short_of_owed` — a run after which the wallets do not hold enough;
    * `custody_covers_owed`   — with the sweep fees they hold it exactly.
-/
import Custody.Proofs.Backing
import Custody.Proofs.Integrity

namespace Custody

/-! ## §1. What is owed. -/

/-- The least that a wallet has to pay for a redemption. -/
def PriorityRedemption.least (p : PriorityRedemption) : Nat :=
  p.requestedAmount.toNat - p.feeAllowance.toNat

/-- The least that wallets have to pay for all redemptions. -/
def State.owedLeast (s : State) : Nat := s.redemptions.sumBy fun _ p => p.least

/-- What the redeemed reservations have paid of sweep fees. -/
def State.redeemedSweepFees (s : State) : Nat :=
  s.reservations.sumBy fun _ r => if r.status = .redeemed then r.sweepFee.toNat else 0

/-- What is left of a reservation's amount without fee and bonus is what was minted, and the share
of the sweep's fee. -/
theorem PriorityRedemption.Pays.least_eq {p : PriorityRedemption} {r : Reservation}
    (pays : p.Pays r) (balanced : r.minted.toNat + r.treasuryFee.toNat + r.liquidationBonus.toNat
      + r.sweepFee.toNat = r.amount.toNat) :
    p.least = r.minted.toNat + r.sweepFee.toNat ∧ p.feeAllowance ≤ p.requestedAmount := by
  have allowance := pays.allowance
  unfold least
  rw [UInt64.le_iff_toNat_le, pays.amount]
  omega

/-- **What is owed at least is what was minted for the redeemed reservations, and their sweep
fees.** -/
theorem Service.Coherent.owedLeast_eq {service : Service} (coherent : service.Coherent) :
    service.state.owedLeast = service.state.redeemedMinted + service.state.redeemedSweepFees := by
  unfold State.redeemedMinted State.redeemedSweepFees
  rw [← Table.sumBy_add]
  refine Table.sumBy_eq_of_get? _ _ fun key => ?_
  cases owed : service.state.redemptions.get? key with
  | some p =>
    -- The redemption is that of a reservation that was redeemed.
    obtain ⟨r, kept, pays⟩ := coherent.terms key p owed
    obtain ⟨r', kept', redeemed⟩ := (coherent.owed key).mp (by rw [owed]; rfl)
    rw [kept] at kept'
    cases kept'
    have least := (pays.least_eq (coherent.balanced key r kept).2).1
    simp [kept, redeemed, least]
  | none =>
    -- Whatever is reserved under the key was not redeemed.
    cases kept : service.state.reservations.get? key with
    | none => rfl
    | some r =>
      have open_still : r.status ≠ .redeemed := by
        intro redeemed
        have := (coherent.owed key).mpr ⟨r, kept, redeemed⟩
        rw [owed] at this
        cases this
      simp [open_still]

/-! ## §2. After any run. -/

namespace World

variable {σ : Type} [Store σ] {params : Params} {orders : List Order} {w : World σ}

/-- What every committed transition keeps holds wherever a run ends, also if the transition keeps it
for no other reason than that the log at the end begins with what it has left of the log. -/
theorem Reached.invariant_of_log (holds : Service → Prop) (reached : w.Reached params orders)
    (start : holds (Service.opened params))
    (step : ∀ service order t ledger, order ∈ orders → holds service →
      Accepted service.state service.params order.env order.command t →
      service.ledger.applyBatch t.ledgerOps = .ok ledger →
      (service.advance t order.env.now ledger).log.events <+: w.service.log.events →
      holds (service.advance t order.env.now ledger)) :
    holds w.service := by
  refine reached.invariant (fun service => service.log.events <+: w.service.log.events →
    holds service) (fun _ => start) ?_ (List.prefix_refl _)
  intro service order t ledger mem before accepted paid within
  have earlier : service.log.events <+: w.service.log.events :=
    (List.prefix_append service.log.events _).trans within
  exact step service order t ledger mem (before earlier) accepted paid within

/-- **The backing wherever a run ends**, if no two main outputs that the log records or an order
claims have one digest. -/
theorem Reached.backed (reached : w.Reached params orders)
    (distinct : DistinctDigests (w.service.log.mainOutputs ++ claims orders)) :
    w.service.Backed := by
  refine reached.invariant_of_log Service.Backed (.opened params) ?_
  intro service order t ledger mem backed accepted paid within
  refine backed.advance accepted paid fun a claims b old => ?_
  have recorded : b ∈ (service.advance t order.env.now ledger).log.mainOutputs := by
    rw [Service.mainOutputs_advance]
    exact List.mem_append_left _ old
  have kept : b ∈ w.service.log.mainOutputs := (within.filterMap _).subset recorded
  have claimed : a ∈ Custody.claims orders := List.mem_filterMap.mpr ⟨order, mem, claims⟩
  exact distinct a (List.mem_append_right _ claimed) b (List.mem_append_left _ kept)

end World

/-- What the wallets hold, against all balances and what they have to pay at least. -/
structure Service.CoversOwed (service : Service) : Prop where
  /-- No redemption lets the wallet take off more than it asks for. -/
  allowed : ∀ key p, service.state.redemptions.get? key = some p →
    p.feeAllowance ≤ p.requestedAmount
  exact : service.custodyValue + service.state.redeemedSweepFees
    = service.ledger.totalSupply + service.state.owedLeast

/-- **With the sweep fees of what was redeemed, custody covers supply and owed redemptions
exactly**, after any run in which no two main outputs that the log records or an order claims have
one digest. -/
theorem custody_covers_owed {σ : Type} [Store σ] {params : Params} {orders : List Order}
    {w : World σ} (reached : w.Reached params orders)
    (distinct : DistinctDigests (w.service.log.mainOutputs ++ claims orders)) :
    w.service.CoversOwed := by
  have backed := reached.backed distinct
  have woven : w.service.Woven :=
    reached.invariant Service.Woven (.opened params) fun _ _ _ _ _ woven accepted _ =>
      woven.advance accepted
  have coherent := woven.coherent
  constructor
  · intro key p owed
    obtain ⟨r, kept, pays⟩ := coherent.terms key p owed
    exact (pays.least_eq (coherent.balanced key r kept).2).2
  · have exact := backed.exact
    have owed := coherent.owedLeast_eq
    omega

namespace Sample

/-- Where the run ends. -/
def last : World Volatile := (World.mk (Service.opened {}) Volatile.empty).serve orders

/-- The world at the end of the run is reached by its orders. -/
theorem last_reached : last.Reached {} orders := Volatile.reached_serve {} orders

/-- What the wallets hold at the end, all balances, what is owed at least, the sweep fees of what
was redeemed, and the main outputs that were recorded. -/
theorem last_sums : (last.service.custodyValue, last.service.ledger.totalSupply,
    last.service.state.owedLeast, last.service.state.redeemedSweepFees,
    last.service.log.mainOutputs)
      = (21998500, 3099500, 18900000, 1000, [firstOutput, secondOutput]) := by
  decide +kernel

/-- No two main outputs of the run have one digest. -/
theorem distinct_digests : DistinctDigests (last.service.log.mainOutputs ++ claims orders) := by
  have sums := last_sums
  simp only [Prod.mk.injEq] at sums
  obtain ⟨-, -, -, -, recorded⟩ := sums
  rw [recorded]
  unfold DistinctDigests
  decide +kernel

end Sample

/-- At the end of the sample run one reservation is redeemed, which has paid a sweep fee. -/
theorem custody_covers_owed_sample :
    DistinctDigests (Sample.last.service.log.mainOutputs ++ claims Sample.orders) ∧
      Sample.last.service.state.redeemedSweepFees = 1000 ∧ Sample.last.service.CoversOwed := by
  have sums := Sample.last_sums
  simp only [Prod.mk.injEq] at sums
  obtain ⟨-, -, -, fees, -⟩ := sums
  exact ⟨Sample.distinct_digests, fees,
    custody_covers_owed Sample.last_reached Sample.distinct_digests⟩

/-- **The wallets alone do not hold enough**: at the end of the sample run, over which all main
outputs have digests of their own, they hold 1000 satoshis less than all balances and the least that
is owed, which is the sweep fee that the redeemed reservation has paid. -/
theorem custody_short_of_owed :
    DistinctDigests (Sample.last.service.log.mainOutputs ++ claims Sample.orders) ∧
      Sample.last.service.custodyValue = 21998500 ∧
      Sample.last.service.ledger.totalSupply = 3099500 ∧
      Sample.last.service.state.owedLeast = 18900000 ∧
      Sample.last.service.custodyValue
        < Sample.last.service.ledger.totalSupply + Sample.last.service.state.owedLeast := by
  have sums := Sample.last_sums
  simp only [Prod.mk.injEq] at sums
  obtain ⟨held, supply, owed, -, -⟩ := sums
  refine ⟨Sample.distinct_digests, held, supply, owed, ?_⟩
  rw [held, supply, owed]
  omega

end Custody
