/-
  Custody.Proofs.Backing
  ────────────────────────────────
  **EVERY TOKEN IS BACKED BY A SATOSHI.**

  A wallet holds the value of the last main output that the log reports for it.
  All balances, with what redeemed reservations had minted and the wallets
  still have to pay out, are exactly what the wallets hold.

  A sweep names the main output that it spends only by its digest.  That it
  names the right one is what the digests of main outputs being distinct is
  needed for, and the only thing.

  Main facts:
    * `settleSweep_supply` — a sweep credits what its output is worth above the
                             main output that it spends;
    * `Backed.advance`     — every accepted command keeps the backing;
    * `totalSupply_backed` — the backing after any orders.
-/
import Custody.Proofs.Runs

namespace Custody

/-! ## §1. Main outputs in the log. -/

/-- The main output that an event reports. -/
def Event.mainOutput? : Event → Option MainOutput
  | .mainOutputUpdated _ output => some output
  | _ => none

/-- The main output that an event reports for a wallet. -/
def Event.mainOutputOf? (wallet : PubKeyHash) : Event → Option MainOutput
  | .mainOutputUpdated other output => if other = wallet then some output else none
  | _ => none

namespace EventLog

/-- The main outputs that a log has recorded. -/
def mainOutputs (log : EventLog) : List MainOutput :=
  log.events.filterMap fun e => e.event.mainOutput?

/-- The main outputs that a log has recorded for a wallet, oldest first. -/
def mainOutputsOf (log : EventLog) (wallet : PubKeyHash) : List MainOutput :=
  log.events.filterMap fun e => e.event.mainOutputOf? wallet

/-- The main output that a log has last recorded for a wallet. -/
def lastMainOutput (log : EventLog) (wallet : PubKeyHash) : Option MainOutput :=
  (log.mainOutputsOf wallet).getLast?

end EventLog

namespace Service

/-- What a wallet holds according to the log; nothing before its first sweep. -/
def walletValue (service : Service) (wallet : PubKeyHash) : Nat :=
  State.claimedValue (service.log.lastMainOutput wallet)

/-- What all wallets hold. -/
def custodyValue (service : Service) : Nat :=
  service.state.wallets.sumBy fun wallet _ => service.walletValue wallet

end Service

/-- What the redeemed reservations had minted. -/
def State.redeemedMinted (s : State) : Nat :=
  s.reservations.sumBy fun _ r => if r.status = .redeemed then r.minted.toNat else 0

/-- The last main output of a wallet is one of the main outputs that the log tells. -/
theorem EventLog.mem_mainOutputs_of_last {log : EventLog} {wallet : PubKeyHash}
    {output : MainOutput} (h : log.lastMainOutput wallet = some output) :
    output ∈ log.mainOutputs := by
  have recorded := List.mem_of_getLast? h
  obtain ⟨e, logged, told⟩ := List.mem_filterMap.mp recorded
  refine List.mem_filterMap.mpr ⟨e, logged, ?_⟩
  cases event : e.event with
  | mainOutputUpdated other reported =>
    rw [event, Event.mainOutputOf?] at told
    split at told
    case isTrue => exact told
    case isFalse => cases told
  | _ =>
    rw [event] at told
    cases told

/-! ## §2. The backing. -/

/-- What ties ledger, reservations, wallets and log together. -/
structure Service.Backed (service : Service) : Prop where
  standing : service.state.Standing
  /-- A wallet keeps the digest of the main output that was last recorded for it. -/
  slots : ∀ wallet, (service.state.wallets.get? wallet).bind (·.mainOutputHash)
    = (service.log.lastMainOutput wallet).map MainOutput.hash
  exact : service.ledger.totalSupply + service.state.redeemedMinted = service.custodyValue

theorem Service.Backed.opened (params : Params) : (Service.opened params).Backed where
  standing := State.Standing.empty
  slots _ := rfl
  exact := rfl

namespace Service

variable {service : Service} {t : Transition Receipt} {now : UInt64} {ledger : Ledger}

theorem mainOutputsOf_advance (wallet : PubKeyHash) :
    (service.advance t now ledger).log.mainOutputsOf wallet
      = service.log.mainOutputsOf wallet ++ t.events.filterMap (Event.mainOutputOf? wallet) :=
  service.filterMap_advance t now ledger (Event.mainOutputOf? wallet)

theorem mainOutputs_advance :
    (service.advance t now ledger).log.mainOutputs
      = service.log.mainOutputs ++ t.events.filterMap Event.mainOutput? :=
  service.filterMap_advance t now ledger Event.mainOutput?

/-- A commit that tells no main output of a wallet leaves it its last. -/
theorem lastMainOutput_advance_quiet {wallet : PubKeyHash}
    (quiet : t.events.filterMap (Event.mainOutputOf? wallet) = []) :
    (service.advance t now ledger).log.lastMainOutput wallet
      = service.log.lastMainOutput wallet := by
  unfold EventLog.lastMainOutput
  rw [mainOutputsOf_advance, quiet, List.append_nil]

end Service

/-! ## §3. Commands that move no main output. -/

section Quiet

variable {service : Service} {t : Transition Receipt} {now : UInt64} {ledger : Ledger}

/-- A commit that tells no main output keeps the service backed, if it leaves slots, wallets and the
sum of supply and redemptions as they were. -/
theorem Service.Backed.advance_quiet (backed : service.Backed) (standing : t.state.Standing)
    (quiet : ∀ wallet, t.events.filterMap (Event.mainOutputOf? wallet) = [])
    (slots : ∀ wallet, (t.state.wallets.get? wallet).bind (·.mainOutputHash)
      = (service.state.wallets.get? wallet).bind (·.mainOutputHash))
    (wallets : t.state.wallets.sumBy (fun wallet _ => service.walletValue wallet)
      = service.custodyValue)
    (supply : ledger.totalSupply + t.state.redeemedMinted
      = service.ledger.totalSupply + service.state.redeemedMinted) :
    (service.advance t now ledger).Backed where
  standing := standing
  slots wallet := by
    rw [Service.lastMainOutput_advance_quiet (quiet wallet), ← backed.slots wallet]
    exact slots wallet
  exact := by
    -- Every wallet holds what it held, as nothing was recorded.
    have same : (service.advance t now ledger).custodyValue
        = t.state.wallets.sumBy fun wallet _ => service.walletValue wallet := by
      refine Table.sumBy_congr fun wallet _ _ => ?_
      unfold Service.walletValue
      rw [Service.lastMainOutput_advance_quiet (quiet wallet)]
    rw [same, wallets, ← backed.exact]
    exact supply

theorem totalSupply_of_nil {before after : Ledger} (paid : before.applyBatch [] = .ok after) :
    after.totalSupply = before.totalSupply := by
  have := Ledger.totalSupply_applyBatch paid
  rw [Ledger.gained_nil, Ledger.lost_nil] at this
  exact this

/-- A wallet that is not registered has no main output. -/
theorem Service.Backed.walletValue_of_unknown (backed : service.Backed) {wallet : PubKeyHash}
    (unknown : service.state.wallets.get? wallet = none) : service.walletValue wallet = 0 := by
  have slot := backed.slots wallet
  rw [unknown] at slot
  have none_recorded : service.log.lastMainOutput wallet = none :=
    Option.map_eq_none_iff.mp slot.symm
  rw [Service.walletValue, none_recorded]
  rfl

end Quiet

/-! ## §4. The sums that closing a reservation moves. -/

namespace State

/-- A reservation that ends is counted as redeemed exactly if it is redeemed. -/
theorem redeemedMinted_endReservation {s : State} {key : DepositKey} {r : Reservation}
    (status : ReservationStatus) (found : s.reservations.get? key = some r)
    (active : r.status = .active) :
    (s.endReservation key status).redeemedMinted
      = s.redeemedMinted + (if status = .redeemed then r.minted.toNat else 0) := by
  have ended := sumBy_endReservation
    (fun _ r => if r.status = .redeemed then r.minted.toNat else 0) status found
  -- While it was active it counted for nothing.
  rw [if_neg (by rw [active]; decide)] at ended
  exact ended

/-- A new reservation is not redeemed. -/
theorem redeemedMinted_addReservation {s : State} {r : Reservation}
    (fresh : s.reservations.get? r.key = none) (pending : r.status = .revealed) :
    (s.addReservation r).redeemedMinted = s.redeemedMinted :=
  sumBy_addReservation_of_zero fresh (if_neg (by rw [pending]; decide))

/-- Settling redeems nothing. -/
theorem redeemedMinted_settleAll {now : UInt64} {hash : TxHash} {split : FeeSplit}
    {count place : Nat} {p q : Progress} {keys : List DepositKey}
    (h : settleAll now hash split count place p keys = .ok q) :
    q.state.redeemedMinted = p.state.redeemedMinted := by
  have sums := settleAll_sumBy h (fun _ r => if r.status = .redeemed then r.minted.toNat else 0) 0
    (fun _ r pending => by rw [pending]; rfl) (fun _ r active => by rw [active, Nat.zero_mul]; rfl)
  rw [Nat.zero_mul, Nat.zero_mul] at sums
  exact sums

/-- A wallet whose sweeps are settled is registered. -/
theorem known_of_sweepable {s : State} {wallet : PubKeyHash}
    (h : (s.walletState wallet).acceptsSweeps = true) :
    ∃ row, s.wallets.get? wallet = some row := by
  cases found : s.wallets.get? wallet with
  | some row => exact ⟨row, rfl⟩
  | none =>
    rw [walletState, found] at h
    cases h

/-- What a sweep credits to all accounts is what it credits to its deposits. -/
theorem creditedTo_all (s : State) (vault : Option Identity) (settled : List Settlement) :
    s.creditedTo (fun _ => true) vault settled = sumOver (·.credited.toNat) settled := by
  unfold creditedTo
  cases vault with
  | none => rfl
  | some vault =>
    by_cases trusted : s.trusts vault = true
    · simp [trusted]
    · simp [trusted]

end State

/-! ## §5. Sweeps. -/

/-- **A sweep credits what its output is worth above the main output that it spends.** -/
theorem settleSweep_supply {s : State} {params : Params} {request : SweepRequest} {hash : TxHash}
    {now value fee : UInt64} {walk : State.Walk} {split : FeeSplit} {p : State.Progress}
    {before after : Ledger} (backs : s.Backs)
    (taken : s.takeInputs request = .ok walk)
    (left : walk.value.toNat = value.toNat + fee.toNat)
    (divided : splitFee? fee walk.swept.length = some split)
    (settled : State.settleAll now hash split walk.swept.length 0 { state := s } walk.swept = .ok p)
    (paid : before.applyBatch (s.credits params request.vault p.settled) = .ok after) :
    after.totalSupply + State.claimedValue request.mainOutput
      = before.totalSupply + value.toNat := by
  obtain ⟨fits, distributed⟩ := State.settled_value backs taken left divided settled
  have moved := Ledger.totalSupply_applyBatch paid
  rw [State.gained_credits _ _ s params request.vault fits, State.lost_credits,
    State.creditedTo_all, if_pos rfl, if_pos rfl] at moved
  omega

/-- The main output that a command claims to spend. -/
def Command.claim? : Command → Option MainOutput
  | .settleSweep _ request => request.mainOutput
  | _ => none

section Sweep

variable {service : Service} {t : Transition Receipt} {now : UInt64} {ledger : Ledger}

/-- A claim with the digest that the wallet keeps is the main output that was last recorded. -/
theorem Service.Backed.claim_eq (backed : service.Backed) {wallet : PubKeyHash}
    {claim : Option MainOutput}
    (claimed : claim.map MainOutput.hash
      = (service.state.wallets.get? wallet).bind (·.mainOutputHash))
    (distinct : ∀ a, claim = some a → ∀ b ∈ service.log.mainOutputs, a.hash = b.hash → a = b) :
    claim = service.log.lastMainOutput wallet := by
  rw [backed.slots wallet] at claimed
  -- The wallet keeps the digest of what was last recorded, and nothing else has that digest.
  cases last : service.log.lastMainOutput wallet with
  | none =>
    rw [last] at claimed
    exact Option.map_eq_none_iff.mp claimed
  | some recorded =>
    rw [last] at claimed
    obtain ⟨output, named, same⟩ := Option.map_eq_some_iff.mp claimed
    rw [named, distinct output named recorded (EventLog.mem_mainOutputs_of_last last) same]

/-- The wallet of a sweep holds the new main output, and the other wallets what they held. -/
theorem Service.lastMainOutput_sweep {events : List Event} {swept : PubKeyHash}
    {output : MainOutput} {count fee : UInt64} {hash : TxHash}
    (reported : t.events
      = events ++ [.depositsSwept swept hash count fee, .mainOutputUpdated swept output])
    (keyed : ∀ e ∈ events, e.key?.isSome) (wallet : PubKeyHash) :
    (service.advance t now ledger).log.lastMainOutput wallet
      = if wallet = swept then some output else service.log.lastMainOutput wallet := by
  -- Events that carry a key record no main output.
  have quiet : events.filterMap (Event.mainOutputOf? wallet) = [] := by
    refine List.filterMap_eq_nil_iff.mpr fun e mem => ?_
    have carries := keyed e mem
    cases e <;> simp_all [Event.mainOutputOf?, Event.key?]
  unfold EventLog.lastMainOutput
  rw [mainOutputsOf_advance, reported, List.filterMap_append, quiet, List.nil_append]
  by_cases same : wallet = swept
  · simp [Event.mainOutputOf?, same]
  · simp [Event.mainOutputOf?, same, Ne.symm same]

/-- A settled sweep keeps the service backed: its output takes the place of what the wallet had and
what the deposits were worth. -/
theorem Service.Backed.advance_sweep (backed : service.Backed) {swept : PubKeyHash}
    {output : MainOutput} {events : List Event} {count fee : UInt64} {hash : TxHash}
    (standing : t.state.Standing)
    (known : ∃ row, service.state.wallets.get? swept = some row)
    (wallets : t.state.wallets = service.state.wallets.modify swept fun row =>
      { row with mainOutputHash := some output.hash })
    (reported : t.events
      = events ++ [.depositsSwept swept hash count fee, .mainOutputUpdated swept output])
    (keyed : ∀ e ∈ events, e.key?.isSome)
    (redeemed : t.state.redeemedMinted = service.state.redeemedMinted)
    (supply : ledger.totalSupply + service.walletValue swept
      = service.ledger.totalSupply + output.value.toNat) :
    (service.advance t now ledger).Backed where
  standing := standing
  slots wallet := by
    obtain ⟨row, known⟩ := known
    rw [Service.lastMainOutput_sweep reported keyed wallet]
    show (t.state.wallets.get? wallet).bind _ = _
    rw [wallets, Table.get?_modify_eq]
    by_cases same : wallet = swept
    · rw [if_pos same, if_pos same, known]
      rfl
    · rw [if_neg same, if_neg same]
      exact backed.slots wallet
  exact := by
    obtain ⟨row, known⟩ := known
    have value (wallet : PubKeyHash) : (service.advance t now ledger).walletValue wallet
        = if wallet = swept then output.value.toNat else service.walletValue wallet := by
      unfold Service.walletValue
      rw [Service.lastMainOutput_sweep reported keyed wallet]
      split <;> rfl
    -- The wallets stay the same, and one of them holds something else.
    have rows : (service.advance t now ledger).custodyValue
        = service.state.wallets.sumBy fun wallet _ =>
          if wallet = swept then output.value.toNat else service.walletValue wallet := by
      unfold Service.custodyValue
      show Table.sumBy _ t.state.wallets = _
      rw [wallets]
      refine (Table.sumBy_modify_of_same ?_).trans
        (Table.sumBy_congr fun wallet _ _ => value wallet)
      intro _ _
      rfl
    have moved := Table.sumBy_retell
      (f := fun wallet _ =>
        if wallet = swept then output.value.toNat else service.walletValue wallet)
      (g := fun wallet _ => service.walletValue wallet) known
      (fun other _ differ => if_neg differ)
    have before := backed.exact
    unfold Service.custodyValue at before
    simp only [if_pos] at moved
    rw [rows]
    show ledger.totalSupply + t.state.redeemedMinted = _
    rw [redeemed]
    omega

end Sweep

/-! ## §6. All commands. -/

section Step

variable {service : Service} {env : Circumstances} {command : Command} {t : Transition Receipt}
  {ledger : Ledger}

/-- **Every accepted command keeps the backing**, if its claim is not taken for another output. -/
theorem Service.Backed.advance (backed : service.Backed)
    (accepted : Accepted service.state service.params env command t)
    (paid : service.ledger.applyBatch t.ledgerOps = .ok ledger)
    (distinct : ∀ a, command.claim? = some a → ∀ b ∈ service.log.mainOutputs,
      a.hash = b.hash → a = b) :
    (service.advance t env.now ledger).Backed := by
  have standing := accepted.standing backed.standing
  cases accepted with
  | @registerWallet wallet stage unknown =>
    -- The new wallet has no main output yet.
    refine backed.advance_quiet standing (fun _ => rfl) ?_ ?_ ?_
    · intro other
      show Option.bind (Table.get? (Table.insert _ _ _) other) _ = _
      rw [Table.get?_insert_eq]
      split
      case isTrue same =>
        rw [same, unknown]
        rfl
      case isFalse => rfl
    · show Table.sumBy _ (Table.insert _ _ _) = _
      rw [Table.sumBy_insert_of_none _ _ unknown, backed.walletValue_of_unknown unknown]
      rfl
    · rw [totalSupply_of_nil paid]
      rfl
  | @setWalletState wallet stage row known =>
    -- The row changes, but not its digest.
    refine backed.advance_quiet standing ?_ ?_ ?_ ?_
    · intro other
      show List.filterMap _ (if row.state = stage then [] else _) = []
      split <;> rfl
    · intro other
      show Option.bind (Table.get? (Table.insert _ _ _) other) _ = _
      rw [Table.get?_insert_eq]
      split
      case isTrue same =>
        rw [same, known]
        rfl
      case isFalse => rfl
    · have inserted := Table.sumBy_insert_of_some
        (fun wallet _ => service.walletValue wallet) { row with state := stage } known
      show Table.sumBy _ (Table.insert _ _ _) = Table.sumBy _ _
      omega
    · rw [totalSupply_of_nil paid]
      rfl
  | setVaultStatus =>
    refine backed.advance_quiet standing (fun _ => rfl) (fun _ => rfl) rfl ?_
    rw [totalSupply_of_nil paid]
    rfl
  | reveal =>
    refine backed.advance_quiet standing (fun _ => rfl) (fun _ => rfl) rfl ?_
    rw [totalSupply_of_nil paid]
    rfl
  | @reserve depositor request d price expiry r unreserved reveals priced expires row =>
    have own : r.key = d.key := by rw [row]
    refine backed.advance_quiet standing (fun _ => rfl) (fun _ => rfl) rfl ?_
    rw [totalSupply_of_nil paid]
    congr 1
    exact State.redeemedMinted_addReservation (by rw [own]; exact unreserved) (by rw [row])
  | @settleSweep relayer request hash t proven settles =>
    cases State.settleSweep_ok_iff.mp settles with
    | @mk value fee walk split p sweepable claimed taken_output taken left divided capped settled =>
      have claim := backed.claim_eq claimed distinct
      have supply := settleSweep_supply backed.standing.backs taken left divided settled paid
      have keyed : ∀ e ∈ p.events, e.key?.isSome := by
        intro e mem
        obtain ⟨key, -, carries⟩ := (State.sweep_turns taken settled).carried e mem
        rw [carries]
        rfl
      refine backed.advance_sweep standing (State.known_of_sweepable sweepable) ?_ rfl keyed
        (State.redeemedMinted_settleAll settled) ?_
      · show Table.modify _ _ _ = _
        rw [(State.settleAll_frame settled).1]
      · rw [Service.walletValue, ← claim]
        exact supply
  | @redeem key r active inTime =>
    obtain ⟨found, isActive⟩ := State.active_of_activeReservation active
    have moved := Ledger.totalSupply_applyBatch paid
    have closed := State.redeemedMinted_endReservation .redeemed found isActive
    -- The tokens are burnt, and what was minted counts as redeemed from now on.
    refine backed.advance_quiet standing (fun _ => rfl) (fun _ => rfl) rfl ?_
    simp [Ledger.gained, Ledger.lost, Ledger.batchMoves, Ledger.moves, Move.gain, Move.loss]
      at moved
    rw [if_pos rfl] at closed
    show ledger.totalSupply + (service.state.endReservation key .redeemed).redeemedMinted = _
    omega
  | @liquidate liquidator key r active late =>
    obtain ⟨found, isActive⟩ := State.active_of_activeReservation active
    have moved := Ledger.totalSupply_applyBatch paid
    have closed := State.redeemedMinted_endReservation .liquidated found isActive
    -- The bonus goes from one account to another.
    refine backed.advance_quiet standing (fun _ => rfl) (fun _ => rfl) rfl ?_
    simp [Ledger.gained, Ledger.lost, Ledger.batchMoves, Ledger.moves, Move.gain, Move.loss]
      at moved
    rw [if_neg (by decide)] at closed
    show ledger.totalSupply + (service.state.endReservation key .liquidated).redeemedMinted = _
    omega

end Step

/-! ## §7. After any orders. -/

/-- No two of some main outputs have one digest. -/
def DistinctDigests (outputs : List MainOutput) : Prop :=
  ∀ a ∈ outputs, ∀ b ∈ outputs, a.hash = b.hash → a = b

/-- The main outputs that orders claim to spend. -/
def claims (orders : List Order) : List MainOutput := orders.filterMap (·.command.claim?)

/-- **Exact backing.**  Orders are served by a service that was loaded over an empty store, under
any circumstances.  If no two main outputs that the log records or an order claims have one digest,
then all balances, with what redeemed reservations had minted, are exactly what the wallets hold. -/
theorem totalSupply_backed {σ : Type} [Store σ] {params : Params} {store : σ} {service : Service}
    (blank : IsBlank store) (loaded : Service.load params store = .ok service)
    (orders : List Order)
    (distinct : DistinctDigests
      (((World.mk service store).serve orders).service.log.mainOutputs ++ claims orders)) :
    let final := ((World.mk service store).serve orders).service
    final.ledger.totalSupply
        + final.state.reservations.sumBy
          (fun _ r => if r.status = .redeemed then r.minted.toNat else 0)
      = final.state.wallets.sumBy fun wallet _ =>
          ((final.log.lastMainOutput wallet).map (·.value.toNat)).getD 0 := by
  intro final
  -- What is recorded on the way is recorded at the end, so the digests are distinct throughout.
  have backed : (∀ b ∈ final.log.mainOutputs, b ∈ final.log.mainOutputs) → final.Backed := by
    refine World.serve_invariant (fun service =>
      (∀ b ∈ service.log.mainOutputs, b ∈ final.log.mainOutputs) → service.Backed)
      (w := ⟨service, store⟩) ?_ ?_
    · intro _
      show service.Backed
      rw [Service.load_blank blank loaded]
      exact .opened params
    · intro service order t ledger mem holds accepted paid recorded
      rw [Service.mainOutputs_advance] at recorded
      have before : ∀ b ∈ service.log.mainOutputs, b ∈ final.log.mainOutputs :=
        fun b mem => recorded b (List.mem_append_left _ mem)
      refine (holds before).advance accepted paid ?_
      intro a claims b old
      have claimed : a ∈ Custody.claims orders := List.mem_filterMap.mpr ⟨order, mem, claims⟩
      exact distinct a (List.mem_append_right _ claimed) b (List.mem_append_left _ (before b old))
  exact (backed fun _ mem => mem).exact

/-- A run over which two main outputs are recorded, one of them claimed, and a reservation is
redeemed. -/
theorem totalSupply_backed_sample :
    DistinctDigests (((World.mk (Service.opened {}) Volatile.empty).serve
      Sample.orders).service.log.mainOutputs ++ claims Sample.orders) ∧
    (let final := ((World.mk (Service.opened {}) Volatile.empty).serve Sample.orders).service
    final.ledger.totalSupply
        + final.state.reservations.sumBy
          (fun _ r => if r.status = .redeemed then r.minted.toNat else 0)
      = final.state.wallets.sumBy fun wallet _ =>
          ((final.log.lastMainOutput wallet).map (·.value.toNat)).getD 0) := by
  have recorded :
      ((World.mk (Service.opened {}) Volatile.empty).serve Sample.orders).service.log.mainOutputs
        = [Sample.firstOutput, Sample.secondOutput] := by decide +kernel
  have distinct : DistinctDigests (((World.mk (Service.opened {}) Volatile.empty).serve
      Sample.orders).service.log.mainOutputs ++ claims Sample.orders) := by
    rw [recorded]
    unfold DistinctDigests
    decide +kernel
  exact ⟨distinct, @totalSupply_backed Volatile _ {} Volatile.empty (Service.opened {})
    ⟨rfl, rfl⟩ rfl Sample.orders distinct⟩

end Custody
