/-
  Custody.Proofs.Integrity
  ────────────────────────────────
  **THE TABLES AGREE WITH EACH OTHER.**

  A reserved deposit leaves rows in five tables, and no command writes all of
  them.  A deposit carries the reservation tag as long as its reservation may
  still be claimed, a redemption is owed for exactly the redeemed reservations
  and on the terms that they were made on, and a depositor's list names its
  reservations in the order in which the log tells of them.

  Tags and redemptions are matters of one key, so a turn keeps them; the lists
  are compared with the log, creation by creation.

  Main facts:
    * `Turn.tied`          — a turn keeps tags and redemptions in step;
    * `Accepted.listed`    — a command lists what it reports as created;
    * `state_coherent`     — after any run the tables agree.
-/
import Custody.Proofs.Lifecycle

namespace Custody

/-! ## §1. Tags and redemptions. -/

/-- Tag, reservation and redemption of a key are in step: the deposit is tagged as long as the
reservation has not been given up, and a redemption is owed once it is redeemed, on its terms. -/
structure Holding.Tied (key : DepositKey) (held : Holding) : Prop where
  tagged : ∀ d, held.deposit = some d →
    (d.isReserved = true ↔ ∃ r, held.reservation = some r ∧ r.status ≠ .liquidated)
  owed : ∀ r, held.reservation = some r → r.status = .redeemed → held.redemption.isSome = true
  terms : ∀ p, held.redemption = some p →
    ∃ r time, held.reservation = some r ∧ p = State.redemptionOf r key r.depositor time

/-- Where nothing is held, all is in step. -/
theorem Holding.tied_none (key : DepositKey) : Holding.Tied key ⟨none, none, none⟩ where
  tagged := nofun
  owed := nofun
  terms := nofun

/-- Nothing is owed for a reservation that has not been redeemed. -/
theorem Holding.Sound.redemption_none {key : DepositKey} {held : Holding} (sound : held.Sound key)
    (unredeemed : ∀ r, held.reservation = some r → r.status ≠ .redeemed) :
    held.redemption = none := by
  cases owed : held.redemption with
  | none => rfl
  | some p =>
    obtain ⟨-, r, kept, closed⟩ := sound.redeemed p owed
    exact absurd closed (unredeemed r kept)

/-- **A turn keeps tags and redemptions in step.** -/
theorem Turn.tied {key : DepositKey} {now : UInt64} {caller : Option Identity}
    {held next : Holding} {events : List Event} (h : Turn key now caller held events next)
    (sound : held.Sound key) (tied : held.Tied key) : next.Tied key := by
  cases h with
  | idle => exact tied
  | @reveal d r owed own outpoint unswept untagged =>
    -- Without a deposit there was no reservation.
    obtain rfl : r = none := by
      cases r with
      | none => rfl
      | some r =>
        obtain ⟨d, absent, -⟩ := sound.backed r rfl
        cases absent
    refine ⟨?_, tied.owed, tied.terms⟩
    intro _ found
    cases found
    simp [untagged]
  | @reserve d r owed own outpoint unswept tagged sent reservationOwn pending =>
    obtain rfl : owed = none := sound.redemption_none nofun
    refine ⟨?_, ?_, nofun⟩
    · intro _ found
      cases found
      simp [tagged, pending]
    · intro _ found closed
      cases found
      rw [pending] at closed
      cases closed
  | @settle d r owed hash credited share unswept untagged =>
    refine ⟨?_, tied.owed, tied.terms⟩
    intro _ found
    cases found
    exact tied.tagged d rfl
  | @activate d r final owed hash share unswept tagged pending balanced left row =>
    obtain rfl : owed = none := by
      refine sound.redemption_none fun r' kept => ?_
      cases kept
      simp [pending]
    have active : final.status = .active := by rw [row]
    refine ⟨?_, ?_, nofun⟩
    · intro _ found
      cases found
      have still : Deposit.isReserved { d with sweptAt := now } = true := tagged
      simp [still, active]
    · intro _ found closed
      cases found
      rw [active] at closed
      cases closed
  | @redeem d r owed active sent =>
    refine ⟨?_, fun _ _ _ => rfl, ?_⟩
    · intro d found
      have tagged : d.isReserved = true := (tied.tagged d found).mpr ⟨r, rfl, by simp [active]⟩
      simp [tagged]
    · intro p found
      cases found
      exact ⟨_, now, rfl, rfl⟩
  | @liquidate d r owed liquidator active =>
    obtain rfl : owed = none := by
      refine sound.redemption_none fun r' kept => ?_
      cases kept
      simp [active]
    refine ⟨?_, ?_, nofun⟩
    · intro _ found
      obtain ⟨d, -, rfl⟩ := Option.map_eq_some_iff.mp found
      simp [Deposit.isReserved]
    · intro _ found closed
      cases found
      cases closed

/-! ## §2. Lists of reservations. -/

/-- Who an event creates a reservation for, if it creates one. -/
def Event.creator? : Event → Option Identity
  | .reservationCreated _ depositor .. => some depositor
  | _ => none

/-- The key under which an event creates a reservation for a depositor, if it creates one. -/
def Event.createdFor? (depositor : Identity) (e : Event) : Option DepositKey :=
  if e.creator? = some depositor then e.key? else none

/-- The reservations that events create for a depositor, in their order. -/
def createdFor (depositor : Identity) (events : List Event) : List DepositKey :=
  events.filterMap (Event.createdFor? depositor)

/-- A reservation is created for a depositor exactly if an event of its key says so. -/
theorem mem_createdFor {depositor : Identity} {events : List Event} {key : DepositKey} :
    key ∈ createdFor depositor events
      ↔ depositor ∈ (eventsOf key events).filterMap Event.creator? := by
  simp only [createdFor, Event.createdFor?, eventsOf, List.mem_filterMap, List.mem_filter,
    decide_eq_true_eq, Option.ite_none_right_eq_some]
  constructor
  · rintro ⟨e, mem, by_whom, own⟩
    exact ⟨e, ⟨mem, own⟩, by_whom⟩
  · rintro ⟨e, ⟨mem, own⟩, by_whom⟩
    exact ⟨e, mem, by_whom, own⟩

/-- A turn creates a reservation for its depositor or keeps the depositor that there was. -/
theorem Turn.creates {key : DepositKey} {now : UInt64} {caller : Option Identity}
    {held next : Holding} {events : List Event} (h : Turn key now caller held events next) :
    (next.reservation.map (·.depositor)).toList
      = (held.reservation.map (·.depositor)).toList ++ events.filterMap Event.creator? := by
  cases h with
  | idle | reveal | settle | redeem | liquidate => simp [Deposit.revealed, Event.creator?]
  | @reserve d r _ _ _ _ _ _ _ _ _ _ _ _ depositor =>
    show [r.depositor] = [d.depositor]
    rw [depositor]
  | activate _ _ _ _ _ row => simp [Event.creator?, row]

/-- Settling creates no reservations. -/
theorem State.settleAll_createdFor {now : UInt64} {hash : TxHash} {split : FeeSplit}
    {count place : Nat} {p q : State.Progress} {keys : List DepositKey}
    (h : State.settleAll now hash split count place p keys = .ok q) (depositor : Identity) :
    createdFor depositor q.events = createdFor depositor p.events := by
  induction keys generalizing place p with
  | nil =>
    cases h
    rfl
  | cons key rest ih =>
    obtain ⟨between, first, others⟩ := State.settleAll_cons_ok h
    rw [ih others]
    cases first with
    | ordinary => simp [createdFor, Event.createdFor?, Event.creator?]
    | reserved => simp [createdFor, Event.createdFor?, Event.creator?]

/-- The reservations that a state lists for a depositor. -/
def State.listedFor (s : State) (depositor : Identity) : List DepositKey :=
  (s.index.get? depositor).getD []

/-- **A command lists, for each depositor, what it reports as created.** -/
theorem Accepted.listed {s : State} {params : Params} {env : Circumstances} {command : Command}
    {t : Transition Receipt} (h : Accepted s params env command t) (depositor : Identity) :
    t.state.listedFor depositor = s.listedFor depositor ++ createdFor depositor t.events := by
  cases h with
  | registerWallet | setVaultStatus | reveal | redeem | liquidate =>
    simp [State.listedFor, createdFor, Event.createdFor?, Event.creator?, Deposit.revealed,
      State.endReservation]
  | @setWalletState wallet stage row known =>
    show _ = _ ++ createdFor depositor (if row.state = stage then [] else _)
    split <;> simp [State.listedFor, createdFor, Event.createdFor?, Event.creator?]
  | @reserve sender request d price expiry r unreserved reveals priced expires row =>
    have own : r.key = d.key := by rw [row]
    have sent : r.depositor = sender := by rw [row]
    show ((s.index.insert r.depositor _).get? depositor).getD [] = _
    rw [Table.get?_insert_eq, sent]
    by_cases same : depositor = sender
    · simp [same, State.listedFor, createdFor, Event.createdFor?, Event.creator?, Event.key?,
        Deposit.revealed, own]
    · have other : ¬ sender = depositor := fun h => same h.symm
      simp [same, other, State.listedFor, createdFor, Event.createdFor?, Event.creator?,
        Deposit.revealed]
  | settleSweep proven settles =>
    cases State.settleSweep_ok_iff.mp settles with
    | @mk value fee walk split p sweepable claimed paid taken left divided capped settled =>
      obtain ⟨-, same, -⟩ := State.settleAll_frame settled
      have none_created : createdFor depositor p.events = [] :=
        State.settleAll_createdFor settled depositor
      show (p.state.index.get? depositor).getD [] = _ ++ createdFor depositor (p.events ++ _)
      rw [same, createdFor, List.filterMap_append, ← createdFor, none_created]
      simp [State.listedFor, Event.createdFor?, Event.creator?]

/-! ## §3. Coherent tables. -/

/-- A redemption pays what its reservation promised: the whole amount to the committed address, less
no more than storage fee and bonus. -/
structure PriorityRedemption.Pays (p : PriorityRedemption) (r : Reservation) : Prop where
  redeemer : p.redeemer = r.depositor
  wallet : p.walletKeyHash = r.walletKeyHash
  address : p.address = r.address
  script : p.outputScript = Hex.encode r.address.outputScript
  amount : p.requestedAmount = r.amount
  allowance : p.feeAllowance.toNat = r.treasuryFee.toNat + r.liquidationBonus.toNat

/-- The terms of a balanced reservation are paid without a wrap. -/
theorem State.redemptionOf_pays {r : Reservation} (balanced : r.isBalanced = true)
    (key : DepositKey) (time : UInt64) : (State.redemptionOf r key r.depositor time).Pays r where
  redeemer := rfl
  wallet := rfl
  address := rfl
  script := rfl
  amount := rfl
  allowance := by
    have parts := r.isBalanced_iff.mp balanced
    have bound := r.amount.toNat_lt
    show (r.treasuryFee + r.liquidationBonus).toNat = _
    rw [UInt64.toNat_add]
    exact Nat.mod_eq_of_lt (by omega)

/-- The tables of a service agree with each other and with its log. -/
structure Service.Coherent (service : Service) : Prop where
  deposit_own : ∀ key d, service.state.deposits.get? key = some d →
    d.key = key ∧ d.outpoint.key = key
  reservation_own : ∀ key r, service.state.reservations.get? key = some r → r.key = key
  wallet_own : ∀ wallet row, service.state.wallets.get? wallet = some row → row.keyHash = wallet
  redemption_own : ∀ key p, service.state.redemptions.get? key = some p → p.key = key
  backed : ∀ key r, service.state.reservations.get? key = some r →
    ∃ d, service.state.deposits.get? key = some d ∧ d.depositor = r.depositor ∧
      d.walletKeyHash = r.walletKeyHash ∧ d.outpoint = ⟨r.fundingTxHash, r.fundingOutputIndex⟩ ∧
      d.amount = r.amount
  balanced : ∀ key r, service.state.reservations.get? key = some r → 1 ≤ r.minted.toNat ∧
    r.minted.toNat + r.treasuryFee.toNat + r.liquidationBonus.toNat + r.sweepFee.toNat
      = r.amount.toNat
  unpaid : ∀ key r, service.state.reservations.get? key = some r → r.status = .revealed →
    r.sweepFee = 0
  tagged : ∀ key d, service.state.deposits.get? key = some d →
    (d.isReserved = true ↔
      ∃ r, service.state.reservations.get? key = some r ∧ r.status ≠ .liquidated)
  distinct : ∀ depositor, (service.state.listedFor depositor).Nodup
  listed : ∀ depositor key, key ∈ service.state.listedFor depositor ↔
    ∃ r, service.state.reservations.get? key = some r ∧ r.depositor = depositor
  /-- The lists have the order in which the reservations were created. -/
  in_order : ∀ depositor, service.state.listedFor depositor
    = createdFor depositor (service.log.events.map (·.event))
  owed : ∀ key, (service.state.redemptions.get? key).isSome = true ↔
    ∃ r, service.state.reservations.get? key = some r ∧ r.status = .redeemed
  terms : ∀ key p, service.state.redemptions.get? key = some p →
    ∃ r, service.state.reservations.get? key = some r ∧ p.Pays r

/-- What every committed transition keeps, and the tables follow from. -/
structure Service.Woven (service : Service) : Prop where
  standing : service.state.Standing
  tied : ∀ key, (service.state.holding key).Tied key
  created : ∀ key, ((service.state.reservations.get? key).map (·.depositor)).toList
    = (service.told key).filterMap Event.creator?
  in_order : ∀ depositor, service.state.listedFor depositor
    = createdFor depositor (service.log.events.map (·.event))

/-- The tables of a service without contents follow from its log. -/
theorem Service.Woven.opened (params : Params) : (Service.opened params).Woven where
  standing := .empty
  tied key := Holding.tied_none key
  created _ := rfl
  in_order _ := rfl

section Step

variable {service : Service} {params : Params} {env : Circumstances} {command : Command}
  {t : Transition Receipt} {ledger : Ledger}

/-- **An accepted command keeps the tables in step with each other and with the log.** -/
theorem Service.Woven.advance (woven : service.Woven)
    (accepted : Accepted service.state params env command t) :
    (service.advance t env.now ledger).Woven where
  standing := accepted.standing woven.standing
  tied key := (accepted.turn key).tied (woven.standing.held key) (woven.tied key)
  created key := by
    rw [Service.told_advance, List.filterMap_append, ← woven.created key]
    exact (accepted.turn key).creates
  in_order depositor := by
    have told : createdFor depositor ((service.advance t env.now ledger).log.events.map (·.event))
        = createdFor depositor (service.log.events.map (·.event))
          ++ createdFor depositor t.events := by
      simpa [createdFor, List.filterMap_map, Function.comp_def] using
        service.filterMap_advance t env.now ledger (Event.createdFor? depositor)
    rw [told, ← woven.in_order depositor]
    exact accepted.listed depositor

end Step

/-- Tables that are in step agree. -/
theorem Service.Woven.coherent {service : Service} (woven : service.Woven) : service.Coherent where
  deposit_own key := (woven.standing.held key).deposit_key
  reservation_own key := (woven.standing.held key).reservation_key
  wallet_own := woven.standing.wallet_key
  redemption_own key p found := ((woven.standing.held key).redeemed p found).1
  backed key r found := by
    obtain ⟨d, held, amount, depositor, wallet, outpoint⟩ :=
      (woven.standing.held key).backed r found
    exact ⟨d, held, depositor, wallet, outpoint, amount⟩
  balanced key r found := by
    obtain ⟨balanced, positive⟩ := (woven.standing.held key).balanced r found
    exact ⟨positive, r.isBalanced_iff.mp balanced⟩
  unpaid key := (woven.standing.held key).unpaid
  tagged key := (woven.tied key).tagged
  distinct depositor := by
    unfold State.listedFor
    cases listed : service.state.index.get? depositor with
    | none => exact List.nodup_nil
    | some keys => exact (woven.standing.indexed depositor keys listed).2.1
  listed depositor key := by
    rw [woven.in_order depositor, mem_createdFor]
    show depositor ∈ (service.told key).filterMap Event.creator? ↔ _
    rw [← woven.created key, Option.mem_toList, Option.map_eq_some_iff]
  in_order := woven.in_order
  owed key := by
    constructor
    · intro some_owed
      obtain ⟨p, owed⟩ := Option.isSome_iff_exists.mp some_owed
      exact ((woven.standing.held key).redeemed p owed).2
    · rintro ⟨r, kept, closed⟩
      exact (woven.tied key).owed r kept closed
  terms key p found := by
    obtain ⟨r, time, kept, rfl⟩ := (woven.tied key).terms p found
    exact ⟨r, kept, State.redemptionOf_pays ((woven.standing.held key).balanced r kept).1 key time⟩

/-- **After any run the tables agree with each other and with the log.** -/
theorem state_coherent {σ : Type} [Store σ] {params : Params} {orders : List Order} {w : World σ}
    (reached : w.Reached params orders) : w.service.Coherent :=
  have woven : w.service.Woven :=
    reached.invariant Service.Woven (.opened params) fun _ _ _ _ _ woven accepted _ =>
      woven.advance accepted
  woven.coherent

/-- In the sample run a redemption is owed to the depositor whose list has its key. -/
theorem state_coherent_sample :
    (((World.mk (Service.opened {}) Volatile.empty).serve Sample.orders).service.state.listedFor
        ⟨"bob"⟩ = [Sample.promised.key] ∧
      (((World.mk (Service.opened {}) Volatile.empty).serve
        Sample.orders).service.state.redemptions.get? Sample.promised.key).isSome = true) ∧
    ((World.mk (Service.opened {}) Volatile.empty).serve Sample.orders).service.Coherent ∧
    ((World.opened {} : World Volatile).run
      (.reload :: Sample.orders.map .order ++ [.reload])).service.Coherent := by
  have resumed : ((World.opened {} : World Volatile).run
      (.reload :: Sample.orders.map .order ++ [.reload])).Reached {} Sample.orders :=
    .resumed rfl trivial
  exact ⟨by decide +kernel, state_coherent (Volatile.reached_serve {} Sample.orders),
    state_coherent resumed⟩

end Custody
