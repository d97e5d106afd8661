/-
  Custody.Proofs.BonusPool
  ────────────────────────────────
  **THE BONUS POOL IS EXACT, AND NO CLOSE IS BLOCKED BY IT.**

  The bridge account holds the bonuses of all active reservations and nothing
  else, as long as nobody else goes by its name.  Sweeps pay the bonuses in as
  one credit, and the two commands that close a reservation pay one bonus out;
  what a redemption burns passes through the account and leaves it again.

  Main facts:
    * `Pooled.advance`   — every accepted command keeps the pool exact;
    * `liquidate_blocked`, `redeem_blocked` — why a close that is due can fail;
    * `bonusPool_exact`  — both, after any run.
-/
import Custody.Proofs.Durability

namespace Custody

/-! ## §1. The pool and its neighbours. -/

/-- The bonuses of the active reservations. -/
def State.activeBonuses (s : State) : Nat :=
  s.reservations.sumBy fun _ r => if r.status = .active then r.liquidationBonus.toNat else 0

/-- The callers and vaults that a command names. -/
def Command.parties : Command → List Identity
  | .registerWallet .. | .setWalletState .. => []
  | .setVaultStatus vault _ => [vault]
  | .reveal depositor request => depositor :: request.funding.vault.toList
  | .reserve depositor request => depositor :: request.funding.vault.toList
  | .settleSweep relayer request => relayer :: request.vault.toList
  | .redeem redeemer _ => [redeemer]
  | .liquidate liquidator _ => [liquidator]

theorem Command.caller_mem_parties {command : Command} {caller : Identity}
    (h : command.caller? = some caller) : caller ∈ command.parties := by
  cases command with
  | registerWallet => cases h
  | setWalletState => cases h
  | setVaultStatus => cases h
  | _ =>
    cases h
    exact List.mem_cons_self

/-- The pool of a service is exact, and nobody else goes by the name of the bridge. -/
structure Service.Pooled (params : Params) (service : Service) : Prop where
  standing : service.state.Standing
  params_eq : service.params = params
  bridge : service.ledger.bridge = params.bridge
  /-- No deposit is the bridge's. -/
  aside : ∀ key d, service.state.deposits.get? key = some d → d.depositor ≠ params.bridge
  pool : (service.ledger.balanceOf params.bridge).toNat = service.state.activeBonuses

theorem Service.Pooled.opened (params : Params) : (Service.opened params).Pooled params where
  standing := State.Standing.empty
  params_eq := rfl
  bridge := rfl
  aside := nofun
  pool := rfl

/-! ## §2. What moves the sum of the bonuses. -/

/-- A turn makes nobody a depositor but the caller. -/
theorem Turn.depositor {key : DepositKey} {now : UInt64} {caller : Option Identity}
    {held next : Holding} {events : List Event} (h : Turn key now caller held events next)
    {d : Deposit} (found : next.deposit = some d) :
    (∃ old, held.deposit = some old ∧ old.depositor = d.depositor) ∨ caller = some d.depositor := by
  cases h with
  | idle => exact .inl ⟨d, found, rfl⟩
  | reveal own outpoint unswept untagged sent =>
    cases found
    exact .inr sent
  | reserve own outpoint unswept tagged sent =>
    cases found
    exact .inr sent
  | settle =>
    cases found
    exact .inl ⟨_, rfl, rfl⟩
  | activate =>
    cases found
    exact .inl ⟨_, rfl, rfl⟩
  | redeem => exact .inl ⟨d, found, rfl⟩
  | liquidate =>
    obtain ⟨old, held, rfl⟩ := Option.map_eq_some_iff.mp found
    exact .inl ⟨old, held, rfl⟩

namespace State

/-- A new reservation is not active, so its bonus is not in the pool. -/
theorem activeBonuses_addReservation {s : State} {r : Reservation}
    (fresh : s.reservations.get? r.key = none) (pending : r.status = .revealed) :
    (s.addReservation r).activeBonuses = s.activeBonuses :=
  sumBy_addReservation_of_zero fresh (if_neg (by rw [pending]; decide))

/-- Settling adds the bonuses of the reservations that it makes active. -/
theorem activeBonuses_settleAll {now : UInt64} {hash : TxHash} {split : FeeSplit}
    {count place : Nat} {p q : Progress} {keys : List DepositKey}
    (h : settleAll now hash split count place p keys = .ok q) :
    q.state.activeBonuses + sumOver (·.liquidationBonus.toNat) p.settled
      = p.state.activeBonuses + sumOver (·.liquidationBonus.toNat) q.settled := by
  have sums := settleAll_sumBy h
    (fun _ r => if r.status = .active then r.liquidationBonus.toNat else 0) 1
    (fun _ r pending => by rw [pending]; rfl)
    (fun _ r active => by rw [if_pos active, Nat.one_mul])
  rw [Nat.one_mul, Nat.one_mul] at sums
  exact sums

/-- The bonus of a reservation that ends leaves the pool. -/
theorem activeBonuses_endReservation {s : State} {key : DepositKey} {r : Reservation}
    (status : ReservationStatus) (found : s.reservations.get? key = some r)
    (active : r.status = .active) (ended : status ≠ .active) :
    (s.endReservation key status).activeBonuses + r.liquidationBonus.toNat = s.activeBonuses := by
  have closed := sumBy_endReservation
    (fun _ r => if r.status = .active then r.liquidationBonus.toNat else 0) status found
  rw [if_pos active, if_neg ended] at closed
  exact closed

/-- Whoever is credited for a settled deposit is its depositor. -/
theorem settleAll_depositors {now : UInt64} {hash : TxHash} {split : FeeSplit}
    {count place : Nat} {p q : Progress} {keys : List DepositKey} (allowed : Identity → Prop)
    (h : settleAll now hash split count place p keys = .ok q)
    (deposits : ∀ key d, p.state.deposits.get? key = some d → allowed d.depositor)
    (before : ∀ x ∈ p.settled, allowed x.depositor) : ∀ x ∈ q.settled, allowed x.depositor := by
  induction keys generalizing place p with
  | nil =>
    cases h
    exact before
  | cons key rest ih =>
    obtain ⟨between, first, others⟩ := settleAll_cons_ok h
    have credited {d : Deposit} (found : p.state.deposits.get? key = some d) {x : Settlement}
        (own : x.depositor = d.depositor) : ∀ y ∈ p.settled ++ [x], allowed y.depositor := by
      intro y mem
      rcases List.mem_append.mp mem with mem | mem
      · exact before y mem
      · rw [List.mem_singleton.mp mem, own]
        exact deposits key d found
    have rows {d : Deposit} (found : p.state.deposits.get? key = some d) : ∀ other d',
        (p.state.deposits.insert key { d with sweptAt := now }).get? other = some d' →
        allowed d'.depositor := by
      intro other d' found'
      rw [Table.get?_insert_eq] at found'
      split at found'
      case isTrue =>
        cases found'
        exact deposits key d found
      case isFalse => exact deposits other d' found'
    cases first with
    | ordinary found => exact ih others (rows found) (credited found rfl)
    | reserved found => exact ih others (rows found) (credited found rfl)

/-- An account that is no depositor and no vault gets nothing of a sweep's main operation. -/
theorem creditedTo_none {s : State} {account : Identity} {vault : Option Identity}
    {settled : List Settlement} (depositors : ∀ x ∈ settled, x.depositor ≠ account)
    (vaults : account ∉ vault.toList) : s.creditedTo (· == account) vault settled = 0 := by
  have single : sumOver (fun x => if x.depositor == account then x.credited.toNat else 0) settled
      = 0 := by
    rw [sumOver_congr (g := fun _ => 0), sumOver_zero]
    intro x mem
    rw [if_neg (by simpa using depositors x mem)]
  unfold creditedTo
  cases vault with
  | none => exact single
  | some vault =>
    have differ : vault ≠ account := by
      intro same
      exact vaults (by rw [same]; exact List.mem_singleton_self account)
    by_cases trusted : s.trusts vault = true
    · simp [trusted, differ]
    · simp only [trusted]
      exact single

end State

/-! ## §3. Every command keeps the pool exact. -/

section Step

variable {params : Params} {service : Service} {env : Circumstances} {command : Command}
  {t : Transition Receipt} {ledger : Ledger}

/-- The pool moves as the ledger moves it, and the bonuses have to follow. -/
theorem Service.Pooled.follow (pooled : service.Pooled params)
    (accepted : Accepted service.state service.params env command t)
    (paid : service.ledger.applyBatch t.ledgerOps = .ok ledger)
    (named : params.bridge ∉ command.parties)
    (moved : t.state.activeBonuses + Ledger.lost params.bridge (· == params.bridge) t.ledgerOps
      = service.state.activeBonuses
        + Ledger.gained params.bridge (· == params.bridge) t.ledgerOps) :
    (service.advance t env.now ledger).Pooled params where
  standing := accepted.standing pooled.standing
  params_eq := pooled.params_eq
  bridge := ((Ledger.applyBatch_eq_ok_iff ..).mp paid).1.trans pooled.bridge
  aside key d found := by
    rcases (accepted.turn key).depositor found with ⟨old, held, same⟩ | sent
    · rw [← same]
      exact pooled.aside key old held
    · intro same
      exact named (Command.caller_mem_parties (same ▸ sent))
  pool := by
    have balance := Ledger.balanceOf_applyBatch params.bridge paid
    rw [pooled.bridge, pooled.pool] at balance
    show (ledger.balanceOf params.bridge).toNat = t.state.activeBonuses
    omega

/-- **Every accepted command keeps the pool exact.** -/
theorem Service.Pooled.advance (pooled : service.Pooled params)
    (apart : params.treasury ≠ params.bridge) (named : params.bridge ∉ command.parties)
    (accepted : Accepted service.state service.params env command t)
    (paid : service.ledger.applyBatch t.ledgerOps = .ok ledger) :
    (service.advance t env.now ledger).Pooled params := by
  refine pooled.follow accepted paid named ?_
  have owner := pooled.params_eq
  cases accepted with
  | registerWallet => rfl
  | setWalletState => rfl
  | setVaultStatus => rfl
  | reveal => rfl
  | @reserve depositor request d price expiry r unreserved reveals priced expires row =>
    have own : r.key = d.key := by rw [row]
    show State.activeBonuses (State.addReservation _ r) + 0 = service.state.activeBonuses + 0
    rw [State.activeBonuses_addReservation (by rw [own]; exact unreserved) (by rw [row])]
    rfl
  | @settleSweep relayer request hash t proven settles =>
    -- The bridge is no depositor, no vault and not the treasury, so it gets the bonuses alone.
    cases State.settleSweep_ok_iff.mp settles with
    | @mk value fee walk split p sweepable claimed output taken left divided capped settled =>
      have fits := (State.settled_value pooled.standing.backs taken left divided settled).1
      have bonuses := State.activeBonuses_settleAll settled
      have depositors : ∀ x ∈ p.settled, x.depositor ≠ params.bridge :=
        State.settleAll_depositors (· ≠ params.bridge) settled pooled.aside (by simp)
      have vaults : params.bridge ∉ request.vault.toList :=
        fun mem => named (List.mem_cons_of_mem relayer mem)
      show p.state.activeBonuses + Ledger.lost params.bridge _ (service.state.credits _ _ _)
        = service.state.activeBonuses + Ledger.gained params.bridge _ (service.state.credits _ _ _)
      rw [State.lost_credits, State.gained_credits _ _ _ _ _ fits,
        State.creditedTo_none depositors vaults, owner, if_neg (by simpa using apart),
        if_pos (beq_self_eq_true _)]
      simpa using bonuses
  | @redeem key r active inTime =>
    -- The burnt tokens come and go, and one bonus leaves for the treasury.
    obtain ⟨found, isActive⟩ := State.active_of_activeReservation active
    have ended := State.activeBonuses_endReservation .redeemed found isActive (by decide)
    have depositor : r.depositor ≠ params.bridge :=
      fun same => named (same ▸ List.mem_singleton_self _)
    show (service.state.endReservation key .redeemed).activeBonuses + _ = _
    rw [owner]
    simp [Ledger.gained, Ledger.lost, Ledger.batchMoves, Ledger.moves, Move.gain, Move.loss,
      depositor, apart]
    omega
  | @liquidate liquidator key r active late =>
    obtain ⟨found, isActive⟩ := State.active_of_activeReservation active
    -- One bonus leaves for the liquidator.
    have ended := State.activeBonuses_endReservation .liquidated found isActive (by decide)
    have liquidator : liquidator ≠ params.bridge :=
      fun same => named (same ▸ List.mem_singleton_self _)
    show (service.state.endReservation key .liquidated).activeBonuses + _ = _
    simp [Ledger.gained, Ledger.lost, Ledger.batchMoves, Ledger.moves, Move.gain, Move.loss,
      liquidator]
    omega

end Step

/-! ## §4. Why a close that is due can fail. -/

/-- One reservation's bonus is in the pool. -/
theorem State.bonus_le_activeBonuses {s : State} {key : DepositKey} {r : Reservation}
    (found : s.reservations.get? key = some r) (active : r.status = .active) :
    r.liquidationBonus.toNat ≤ s.activeBonuses := by
  have one := Table.le_sumBy
    (fun _ r => if r.status = .active then r.liquidationBonus.toNat else 0) found
  rw [if_pos active] at one
  exact one

/-- In a standing state an active reservation is found as such. -/
theorem State.activeReservation_of_active {s : State} {key : DepositKey} {r : Reservation}
    (standing : s.Standing) (found : s.reservations.get? key = some r)
    (active : r.status = .active) : s.activeReservation key = .ok r := by
  have balanced := ((standing.held key).balanced r found).1
  unfold State.activeReservation
  rw [found]
  simp [Reservation.isActive, active, balanced]

/-- The pool can pay the bonus of an active reservation. -/
theorem Service.Pooled.covers {params : Params} {service : Service}
    (pooled : service.Pooled params) {key : DepositKey} {r : Reservation}
    (found : service.state.reservations.get? key = some r) (active : r.status = .active) :
    r.liquidationBonus.toNat ≤ (service.ledger.balances.of params.bridge).toNat := by
  have pool : (service.ledger.balances.of params.bridge).toNat = service.state.activeBonuses :=
    pooled.pool
  rw [pool]
  exact State.bonus_le_activeBonuses found active

/-- Why a payment out of an account that can pay it stops. -/
theorem runMoves_payment {balances : Balances} {payer payee : Identity} {amount : UInt64}
    {reason : LedgerFault} (other : payee ≠ payer)
    (covered : amount.toNat ≤ (balances.of payer).toNat)
    (stopped : (runMoves balances [.debit payer amount, .credit payee amount]).2 = some reason) :
    reason = .overflow payee ∧ UInt64.size ≤ (balances.of payee).toNat + amount.toNat := by
  -- The debit goes through, so it is the credit that stops the run.
  rcases runMoves_debit balances payer amount [.credit payee amount] with
    ⟨rest, -, debited⟩ | ⟨short, -⟩
  case inr => omega
  rw [debited] at stopped
  rcases runMoves_credit (Table.insert balances payer rest) payee amount [] with
    ⟨sum, -, credited⟩ | ⟨large, credited⟩
  · rw [credited] at stopped
    cases stopped
  · rw [credited] at stopped
    cases stopped
    rw [Balances.of_insert, if_neg other] at large
    exact ⟨rfl, large⟩

/-- Why a return of tokens that are burnt, with a payment after it, stops. -/
theorem runMoves_return {balances : Balances} {bridge depositor payee : Identity}
    {minted bonus : UInt64} {reason : LedgerFault} (aside : depositor ≠ bridge)
    (other : payee ≠ bridge) (covered : bonus.toNat ≤ (balances.of bridge).toNat)
    (stopped : (runMoves balances [.debit depositor minted, .credit bridge minted,
      .debit bridge minted, .debit bridge bonus, .credit payee bonus]).2 = some reason) :
    (reason = .insufficient depositor (balances.of depositor) minted ∧
      (balances.of depositor).toNat < minted.toNat) ∨
    (reason = .overflow bridge ∧
      UInt64.size ≤ (balances.of bridge).toNat + minted.toNat) ∨
    (reason = .overflow payee ∧
      UInt64.size ≤ (balances.of payee).toNat + bonus.toNat) := by
  -- The five moves are made one after the other, and each is where the run goes on or stops.
  rcases runMoves_debit balances depositor minted [.credit bridge minted,
      .debit bridge minted, .debit bridge bonus, .credit payee bonus] with
    ⟨rest, taken, debited⟩ | ⟨short, debited⟩
  case inr =>
    rw [debited] at stopped
    cases stopped
    exact .inl ⟨rfl, short⟩
  rw [debited] at stopped
  have held : Balances.of (Table.insert balances depositor rest) bridge = balances.of bridge := by
    rw [Balances.of_insert, if_neg aside.symm]
  rcases runMoves_credit (Table.insert balances depositor rest) bridge minted
      [.debit bridge minted, .debit bridge bonus, .credit payee bonus] with
    ⟨sum, given, credited⟩ | ⟨large, credited⟩
  case inr =>
    rw [credited] at stopped
    cases stopped
    rw [held] at large
    exact .inr (.inl ⟨rfl, large⟩)
  rw [credited] at stopped
  rw [held] at given
  -- What came in goes out again, and leaves the account as it was.
  rcases runMoves_debit (Table.insert (Table.insert balances depositor rest) bridge sum) bridge
      minted [.debit bridge bonus, .credit payee bonus] with
    ⟨left, burnt, debited'⟩ | ⟨short, -⟩
  case inr =>
    rw [Balances.of_insert, if_pos rfl] at short
    omega
  rw [Balances.of_insert, if_pos rfl] at burnt
  rw [debited'] at stopped
  obtain ⟨rfl, large⟩ := runMoves_payment other
    (by rw [Balances.of_insert, if_pos rfl]; omega) stopped
  refine .inr (.inr ⟨rfl, ?_⟩)
  rw [Balances.of_insert, if_neg other, Balances.of_insert, if_neg other,
    Balances.of_insert] at large
  split at large
  case isTrue same =>
    subst same
    omega
  case isFalse => exact large

section Blocked

variable {σ : Type} [Store σ] {params : Params} {service : Service} {store : σ}
  {env : Circumstances}

/-- A command that proposes a transition is refused by the ledger or by the store. -/
theorem Service.refused_cases {command : Command} {t : Transition Receipt} {fault : Fault}
    (proposed : service.propose env command = .ok t)
    (refused : (service.execute store env command).result = .error fault) :
    (∃ reason, service.ledger.applyBatch t.ledgerOps = .error reason ∧ fault = .ledger reason) ∨
    ∃ reason, fault = .store reason := by
  have executes := service.execute_executes store env command
  generalize service.execute store env command = out at executes refused
  cases executes with
  | unproposed proposed' =>
    rw [proposed'] at proposed
    cases proposed
  | @unpaid t' reason journal proposed' unpaid =>
    rw [proposed'] at proposed
    cases proposed
    cases refused
    exact .inl ⟨reason, unpaid, rfl⟩
  | @unstored t' ledger reason journal proposed' paid unstored =>
    cases refused
    exact .inr ⟨reason, rfl⟩
  | committed => cases refused

/-- **Why a liquidation that is due can fail**: its payee cannot hold the bonus, or the store. -/
theorem Service.liquidate_blocked (pooled : service.Pooled params) {key : DepositKey}
    {r : Reservation} (found : service.state.reservations.get? key = some r)
    (active : r.status = .active) {liquidator : Identity} (other : liquidator ≠ params.bridge)
    (late : r.expiry < env.now) {fault : Fault}
    (refused : (service.execute store env (.liquidate liquidator key)).result = .error fault) :
    (fault = .ledger (.overflow liquidator) ∧
      UInt64.size ≤ (service.ledger.balanceOf liquidator).toNat + r.liquidationBonus.toNat) ∨
    ∃ reason, fault = .store reason := by
  have due := State.activeReservation_of_active pooled.standing found active
  have proposed : ∃ t, service.propose env (.liquidate liquidator key) = .ok t ∧
      t.ledgerOps = [.transferBalance liquidator r.liquidationBonus] := by
    have early : ¬ env.now ≤ r.expiry := UInt64.not_le.mpr late
    simp only [Service.propose, State.liquidate, due, bind, Except.bind, early, if_false]
    exact ⟨_, rfl, rfl⟩
  obtain ⟨t, proposed, ops⟩ := proposed
  rcases Service.refused_cases proposed refused with ⟨reason, unpaid, rfl⟩ | unstored
  case inr => exact .inr unstored
  left
  rw [ops, Ledger.applyBatch_eq_error_iff, pooled.bridge] at unpaid
  obtain ⟨rfl, large⟩ := runMoves_payment other (pooled.covers found active) unpaid
  exact ⟨rfl, large⟩

/-- **Why a redemption in time can fail**: the depositor holds too little, a balance cannot hold
what it is credited, or the store. -/
theorem Service.redeem_blocked (pooled : service.Pooled params) {key : DepositKey}
    {r : Reservation} (found : service.state.reservations.get? key = some r)
    (active : r.status = .active) (apart : params.treasury ≠ params.bridge)
    (inTime : env.now ≤ r.expiry) {fault : Fault}
    (refused : (service.execute store env (.redeem r.depositor key)).result = .error fault) :
    (fault = .ledger (.insufficient r.depositor (service.ledger.balanceOf r.depositor) r.minted) ∧
      (service.ledger.balanceOf r.depositor).toNat < r.minted.toNat) ∨
    (fault = .ledger (.overflow params.bridge) ∧
      UInt64.size ≤ (service.ledger.balanceOf params.bridge).toNat + r.minted.toNat) ∨
    (fault = .ledger (.overflow params.treasury) ∧
      UInt64.size ≤ (service.ledger.balanceOf params.treasury).toNat
        + r.liquidationBonus.toNat) ∨
    ∃ reason, fault = .store reason := by
  have due := State.activeReservation_of_active pooled.standing found active
  have proposed : ∃ t, service.propose env (.redeem r.depositor key) = .ok t ∧
      t.ledgerOps = [
        .transferBalanceFrom r.depositor params.bridge r.minted,
        .decreaseBalance r.minted,
        .transferBalance params.treasury r.liquidationBonus] := by
    have late : ¬ r.expiry < env.now := UInt64.not_lt.mpr inTime
    simp only [Service.propose, State.redeem, due, pooled.params_eq, bind, Except.bind, ne_eq,
      not_true, late, if_false]
    exact ⟨_, rfl, rfl⟩
  obtain ⟨t, proposed, ops⟩ := proposed
  rcases Service.refused_cases proposed refused with ⟨reason, unpaid, rfl⟩ | unstored
  case inr => exact .inr (.inr (.inr unstored))
  rw [ops, Ledger.applyBatch_eq_error_iff, pooled.bridge] at unpaid
  have aside : r.depositor ≠ params.bridge := by
    obtain ⟨d, own, -, same, -⟩ := (pooled.standing.held key).backed r found
    exact same ▸ pooled.aside key d own
  rcases runMoves_return aside apart (pooled.covers found active) unpaid with
    ⟨rfl, short⟩ | ⟨rfl, large⟩ | ⟨rfl, large⟩
  · exact .inl ⟨rfl, short⟩
  · exact .inr (.inl ⟨rfl, large⟩)
  · exact .inr (.inr (.inl ⟨rfl, large⟩))

end Blocked

/-! ## §5. The pool after a run. -/

variable {σ : Type} [Store σ]

/-- The pool is exact and every close that is due can be made, but for the payee, the payer or the
store. -/
structure World.PoolExact (params : Params) (w : World σ) : Prop where
  pool : (w.service.ledger.balanceOf params.bridge).toNat = w.service.state.activeBonuses
  liquidate {key : DepositKey} {r : Reservation} {env : Circumstances} {liquidator : Identity}
      {fault : Fault} : w.service.state.reservations.get? key = some r → r.status = .active →
    r.expiry < env.now → liquidator ≠ params.bridge →
    (w.service.execute w.store env (.liquidate liquidator key)).result = .error fault →
    (fault = .ledger (.overflow liquidator) ∧
      UInt64.size ≤ (w.service.ledger.balanceOf liquidator).toNat + r.liquidationBonus.toNat) ∨
    ∃ reason, fault = .store reason
  redeem {key : DepositKey} {r : Reservation} {env : Circumstances} {fault : Fault} :
    w.service.state.reservations.get? key = some r → r.status = .active → env.now ≤ r.expiry →
    (w.service.execute w.store env (.redeem r.depositor key)).result = .error fault →
    (fault = .ledger
        (.insufficient r.depositor (w.service.ledger.balanceOf r.depositor) r.minted) ∧
      (w.service.ledger.balanceOf r.depositor).toNat < r.minted.toNat) ∨
    (fault = .ledger (.overflow params.bridge) ∧
      UInt64.size ≤ (w.service.ledger.balanceOf params.bridge).toNat + r.minted.toNat) ∨
    (fault = .ledger (.overflow params.treasury) ∧
      UInt64.size ≤ (w.service.ledger.balanceOf params.treasury).toNat
        + r.liquidationBonus.toNat) ∨
    ∃ reason, fault = .store reason

/-- In a pooled world the pool is exact, and no close that is due is blocked by it. -/
theorem World.PoolExact.of_pooled {params : Params} (apart : params.treasury ≠ params.bridge)
    {w : World σ} (pooled : w.service.Pooled params) : w.PoolExact params where
  pool := pooled.pool
  liquidate found active late other refused :=
    Service.liquidate_blocked pooled found active other late refused
  redeem found active inTime refused :=
    Service.redeem_blocked pooled found active apart inTime refused

/-- **The pool is exact wherever a run ends**, and so no close is blocked by it. -/
theorem bonusPool_exact {params : Params} {orders : List Order} {w : World σ}
    (reached : w.Reached params orders) (apart : params.treasury ≠ params.bridge)
    (named : ∀ order ∈ orders, params.bridge ∉ order.command.parties) : w.PoolExact params :=
  .of_pooled apart <| reached.invariant (fun service => service.Pooled params) (.opened params)
    fun _ _ _ _ mem pooled accepted paid => pooled.advance apart (named _ mem) accepted paid

/-- Before its last order the sample run leaves a reservation active, with a bonus in the pool. -/
theorem bonusPool_exact_sample :
    (∀ order ∈ Sample.orders.take 5, ({} : Params).bridge ∉ order.command.parties) ∧
    (0 < ((World.mk (Service.opened {}) Volatile.empty).serve
      (Sample.orders.take 5)).service.state.activeBonuses) ∧
    ((World.mk (Service.opened {}) Volatile.empty).serve (Sample.orders.take 5)).PoolExact {} ∧
    ((World.opened {} : World Volatile).run
      (.reload :: (Sample.orders.take 5).map .order ++ [.reload])).PoolExact {} := by
  have named : ∀ order ∈ Sample.orders.take 5, ({} : Params).bridge ∉ order.command.parties := by
    decide +kernel
  have paid : 0 < ((World.mk (Service.opened {}) Volatile.empty).serve
      (Sample.orders.take 5)).service.state.activeBonuses := by
    decide +kernel
  have straight : ((World.mk (Service.opened {}) Volatile.empty).serve
      (Sample.orders.take 5)).Reached {} (Sample.orders.take 5) := .served ⟨rfl, rfl⟩ rfl
  have resumed : ((World.opened {} : World Volatile).run
      (.reload :: (Sample.orders.take 5).map .order ++ [.reload])).Reached {}
      (Sample.orders.take 5) := .resumed rfl trivial
  exact ⟨named, paid, bonusPool_exact straight (by decide) named,
    bonusPool_exact resumed (by decide) named⟩

end Custody
