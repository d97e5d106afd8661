/-
  Custody.Proofs.Acceptance
  ────────────────────────────────
  **WHAT AN ACCEPTED COMMAND HAS CHECKED AND WHAT IT PROPOSES.**

  Each command is taken apart once: if it proposes a transition, these checks
  have passed and this is the transition.  What is proved of commands later
  goes by cases on `Accepted` and never opens a command again.

  A proposal then either becomes the service whole or leaves service and store
  as they were.

  Main facts:
    * `buildDeposit_ok`  — what a deposit that can be revealed looks like;
    * `propose_accepted` — every proposal is one of the accepted transitions;
    * `execute_executes` — the four things that can become of a command.
-/
import Custody.Command
import Custody.Proofs.Money

namespace Custody

/-! ## §1. Steps that succeed. -/

section Steps

variable {ε ε' α β : Type}

/-- Two steps succeed if the first does and the second does with what it gave. -/
theorem bind_ok_iff {x : Except ε α} {f : α → Except ε β} {b : β} :
    (x >>= f) = .ok b ↔ ∃ a, x = .ok a ∧ f a = .ok b := by
  cases x with
  | error e => simp [bind, Except.bind]
  | ok a => simp [bind, Except.bind]

/-- What follows a refusal is not run. -/
theorem throw_bind {e : ε} {f : α → Except ε β} : (throw e >>= f : Except ε β) = throw e := rfl

theorem throw_ne_ok {e : ε} {a : α} : (throw e : Except ε α) ≠ .ok a := by
  intro h
  cases h

theorem pure_ok_iff {a b : α} : (pure a : Except ε α) = .ok b ↔ a = b := by
  simp [pure, Except.pure]

/-- A check that throws has not failed if what follows it succeeds. -/
theorem check_ok_iff {p : Prop} [Decidable p] {e : ε} {rest : Except ε α} {a : α} :
    (if p then throw e else rest) = .ok a ↔ ¬ p ∧ rest = .ok a := by
  by_cases h : p
  · simp [h, throw_ne_ok]
  · simp [h]

theorem mapError_ok_iff {x : Except ε α} {f : ε → ε'} {a : α} :
    x.mapError f = .ok a ↔ x = .ok a := by
  cases x with
  | ok b =>
    show Except.ok b = .ok a ↔ Except.ok b = .ok a
    simp only [Except.ok.injEq]
  | error old =>
    show Except.error (f old) = .ok a ↔ Except.error old = .ok a
    simp only [reduceCtorEq]

theorem map_ok_iff {x : Except ε α} {f : α → β} {b : β} :
    x.map f = .ok b ↔ ∃ a, x = .ok a ∧ f a = b := by
  cases x <;> simp [Except.map]

theorem mapError_error_iff {x : Except ε α} {f : ε → ε'} {e : ε'} :
    x.mapError f = .error e ↔ ∃ old, x = .error old ∧ f old = e := by
  cases x with
  | ok b =>
    show Except.ok b = .error e ↔ ∃ old, Except.ok b = .error old ∧ f old = e
    simp
  | error old =>
    show Except.error (f old) = .error e ↔ ∃ other, Except.error old = .error other ∧ f other = e
    simp

theorem map_error_iff {x : Except ε α} {f : α → β} {e : ε} :
    x.map f = .error e ↔ x = .error e := by
  cases x <;> simp [Except.map]

end Steps

/-! ## §2. Deposits that can be revealed. -/

namespace State

/-- A deposit that can be revealed: its wallet is live, its vault trusted, its key free, and its
amount is read from the funding transaction and no dust. -/
structure Reveals (s : State) (params : DepositParams) (depositor : Identity) (funding : Funding)
    (extraData : Option ExtraData) (now : UInt64) (d : Deposit) : Prop where
  live : (s.walletState funding.walletKeyHash).acceptsDeposits = true
  trusted : ∀ vault, funding.vault = some vault → s.trusts vault = true
  unknown : s.deposits.get? funding.key = none
  read : fundedAmount funding = .ok d.amount
  worth : params.dustThreshold ≤ d.amount
  row : d = {
    key := funding.key
    fundingTxHash := funding.tx.hash
    fundingOutputIndex := funding.outputIndex
    depositor
    walletKeyHash := funding.walletKeyHash
    amount := d.amount
    revealedAt := now
    sweptAt := 0
    vault := funding.vault
    treasuryFee := treasuryFee params extraData d.amount
    extraData }

/-- A deposit that was built can be revealed. -/
theorem buildDeposit_ok {s : State} {params : DepositParams} {depositor : Identity}
    {funding : Funding} {extraData : Option ExtraData} {now : UInt64} {d : Deposit}
    (h : s.buildDeposit params depositor funding extraData now = .ok d) :
    s.Reveals params depositor funding extraData now d := by
  unfold buildDeposit at h
  simp only [throw_bind, check_ok_iff, Bool.not_eq_true, Bool.not_eq_false'] at h
  obtain ⟨live, h⟩ := h
  -- With a vault there is one check more.
  split at h
  case h_1 vault named =>
    simp only [check_ok_iff, bind_ok_iff, mapError_ok_iff, pure_ok_iff, Bool.not_eq_true,
      Bool.not_eq_false'] at h
    obtain ⟨trusted, unknown, amount, read, worth, rfl⟩ := h
    refine ⟨live, ?_, Table.contains_eq_false_iff.mp unknown, read, UInt64.not_lt.mp worth, rfl⟩
    intro other same
    rw [named] at same
    cases same
    exact trusted
  case h_2 named =>
    simp only [check_ok_iff, bind_ok_iff, mapError_ok_iff, pure_ok_iff, Bool.not_eq_true] at h
    obtain ⟨unknown, amount, read, worth, rfl⟩ := h
    refine ⟨live, ?_, Table.contains_eq_false_iff.mp unknown, read, UInt64.not_lt.mp worth, rfl⟩
    intro other same
    rw [named] at same
    cases same

end State

/-! ## §3. Proposals and accepted commands. -/

/-- The transition with another answer. -/
def Transition.map {α β : Type} (f : α → β) (t : Transition α) : Transition β where
  state := t.state
  events := t.events
  ledgerOps := t.ledgerOps
  output := f t.output

namespace Service

/-- What a service proposes for a command. -/
def propose (service : Service) (env : Circumstances) :
    Command → Except Fault (Transition Receipt)
  | .registerWallet wallet stage =>
    ((service.state.registerWallet wallet stage).mapError .wallet).map (·.map fun _ => .done)
  | .setWalletState wallet stage =>
    ((service.state.setWalletState wallet stage).mapError .wallet).map (·.map fun _ => .done)
  | .setVaultStatus vault trusted =>
    .ok ((service.state.setVaultStatus vault trusted).map fun _ => .done)
  | .reveal depositor request =>
    ((service.state.reveal service.params depositor request env.now).mapError .reveal).map
      (·.map .revealed)
  | .reserve depositor request =>
    ((service.state.reserve service.params depositor request env.now).mapError .reservation).map
      (·.map .reserved)
  | .settleSweep _ request =>
    ((service.sweepProposal env request).mapError .sweep).map (·.map .settled)
  | .redeem redeemer key =>
    ((service.state.redeem service.params redeemer key env.now).mapError .reservation).map
      (·.map .redeemed)
  | .liquidate liquidator key =>
    ((service.state.liquidate liquidator key env.now).mapError .reservation).map
      (·.map .liquidated)

/-- Whoever proposes nothing has not asked the store. -/
theorem propose_ne_store {service : Service} {env : Circumstances} {command : Command}
    (reason : StoreFault) : service.propose env command ≠ .error (.store reason) := by
  intro h
  cases command with
  | setVaultStatus => cases h
  | _ =>
    simp only [propose, map_error_iff, mapError_error_iff] at h
    obtain ⟨fault, -, ⟨⟩⟩ := h

end Service

/-- The accepted commands, with the checks that have passed and the transition that is proposed. -/
inductive Accepted (s : State) (params : Params) (env : Circumstances) :
    Command → Transition Receipt → Prop
  | registerWallet {wallet : PubKeyHash} {stage : WalletState}
      (unknown : s.wallets.get? wallet = none) :
      Accepted s params env (.registerWallet wallet stage) {
        state := { s with wallets := s.wallets.insert wallet ⟨wallet, stage, none⟩ }
        events := [.walletRegistered wallet stage]
        ledgerOps := []
        output := .done }
  | setWalletState {wallet : PubKeyHash} {stage : WalletState} {row : Wallet}
      (known : s.wallets.get? wallet = some row) :
      Accepted s params env (.setWalletState wallet stage) {
        state := { s with wallets := s.wallets.insert wallet { row with state := stage } }
        events := if row.state = stage then [] else [.walletStateChanged wallet row.state stage]
        ledgerOps := []
        output := .done }
  | setVaultStatus {vault : Identity} {trusted : Bool} :
      Accepted s params env (.setVaultStatus vault trusted) {
        state := { s with vaults := s.vaults.insert vault trusted }
        events := [.vaultStatusUpdated vault trusted]
        ledgerOps := []
        output := .done }
  | reveal {depositor : Identity} {request : RevealRequest} {d : Deposit}
      (untagged : request.extraData ≠ some reservationTag)
      (reveals : s.Reveals params.deposit depositor request.funding request.extraData env.now d) :
      Accepted s params env (.reveal depositor request) {
        state := { s with deposits := s.deposits.insert d.key d }
        events := [d.revealed]
        ledgerOps := []
        output := .revealed d.key }
  | reserve {depositor : Identity} {request : ReserveRequest} {d : Deposit}
      {price : ReservationPrice} {expiry : UInt64} {r : Reservation}
      (unreserved : s.reservations.get? d.key = none)
      (reveals : s.Reveals params.deposit depositor request.funding (some reservationTag) env.now d)
      (priced : State.price params.reservation d.amount request.days = .ok price)
      (expires : State.expiryOf env.now request.days = some expiry)
      (row : r = {
        key := d.key
        depositor
        amount := d.amount
        minted := price.minted
        treasuryFee := price.storageFee
        liquidationBonus := price.bonus
        sweepFee := 0
        reservedAt := env.now
        expiry
        address := request.address
        walletKeyHash := d.walletKeyHash
        fundingTxHash := d.fundingTxHash
        fundingOutputIndex := d.fundingOutputIndex
        status := .revealed }) :
      Accepted s params env (.reserve depositor request) {
        state := { s with deposits := s.deposits.insert d.key d }.addReservation r
        events := [
          d.revealed,
          .reservationCreated d.key depositor r.amount r.minted r.treasuryFee r.liquidationBonus
            r.expiry]
        ledgerOps := []
        output := .reserved r }
  | settleSweep {relayer : Identity} {request : SweepRequest} {hash : TxHash}
      {t : Transition SweepOutcome}
      (proven : env.prove request.tx request.proof = .ok hash)
      (settles : s.settleSweep params request hash env.now = .ok t) :
      Accepted s params env (.settleSweep relayer request) (t.map .settled)
  | redeem {key : DepositKey} {r : Reservation}
      (active : s.activeReservation key = .ok r)
      (inTime : env.now ≤ r.expiry) :
      Accepted s params env (.redeem r.depositor key) {
        state := { s.endReservation key .redeemed with
          redemptions := s.redemptions.insert key
            (State.redemptionOf r key r.depositor env.now) }
        events := [
          .reservationRedeemed key r.depositor r.minted r.liquidationBonus,
          .priorityRedemptionRequested key r.walletKeyHash r.amount
            (r.treasuryFee + r.liquidationBonus)]
        ledgerOps := [
          .transferBalanceFrom r.depositor params.bridge r.minted,
          .decreaseBalance r.minted,
          .transferBalance params.treasury r.liquidationBonus]
        output := .redeemed (State.redemptionOf r key r.depositor env.now) }
  | liquidate {liquidator : Identity} {key : DepositKey} {r : Reservation}
      (active : s.activeReservation key = .ok r)
      (late : r.expiry < env.now) :
      Accepted s params env (.liquidate liquidator key) {
        state := { s.endReservation key .liquidated with
          deposits := s.deposits.modify key fun d => { d with extraData := none } }
        events := [.reservationLiquidated key liquidator r.liquidationBonus]
        ledgerOps := [.transferBalance liquidator r.liquidationBonus]
        output := .liquidated r.liquidationBonus }

namespace Service

/-- **Every proposal is one of the accepted transitions**, and its checks have passed. -/
theorem propose_accepted {service : Service} {env : Circumstances} {command : Command}
    {t : Transition Receipt} (h : service.propose env command = .ok t) :
    Accepted service.state service.params env command t := by
  cases command with
  | registerWallet wallet stage =>
    simp only [propose, map_ok_iff, mapError_ok_iff] at h
    obtain ⟨proposal, h, rfl⟩ := h
    unfold State.registerWallet at h
    split at h
    case isTrue => cases h
    case isFalse unknown =>
      cases h
      exact .registerWallet (Table.contains_eq_false_iff.mp (by simpa using unknown))
  | setWalletState wallet stage =>
    simp only [propose, map_ok_iff, mapError_ok_iff] at h
    obtain ⟨proposal, h, rfl⟩ := h
    unfold State.setWalletState at h
    split at h
    case h_1 => cases h
    case h_2 row known =>
      cases h
      exact .setWalletState known
  | setVaultStatus vault trusted =>
    cases h
    exact .setVaultStatus
  | reveal depositor request =>
    simp only [propose, map_ok_iff, mapError_ok_iff] at h
    obtain ⟨proposal, h, rfl⟩ := h
    simp only [State.reveal, throw_bind, check_ok_iff, bind_ok_iff, pure_ok_iff] at h
    obtain ⟨untagged, d, built, rfl⟩ := h
    exact .reveal untagged (State.buildDeposit_ok built)
  | reserve depositor request =>
    simp only [propose, map_ok_iff, mapError_ok_iff] at h
    obtain ⟨proposal, h, rfl⟩ := h
    simp only [State.reserve, throw_bind, check_ok_iff, bind_ok_iff, mapError_ok_iff] at h
    -- The days and the smallest amount were checked too, but nothing depends on it later.
    obtain ⟨-, unreserved, d, built, -, price, priced, h⟩ := h
    have reveals := State.buildDeposit_ok built
    have key : request.funding.key = d.key := by rw [reveals.row]
    rw [key] at unreserved h
    split at h
    case h_1 expiry expires =>
      simp only [bind_ok_iff, pure_ok_iff] at h
      obtain ⟨_, rfl, rfl⟩ := h
      exact .reserve (Table.contains_eq_false_iff.mp (by simpa using unreserved)) reveals priced
        expires rfl
    case h_2 => exact absurd h throw_ne_ok
  | settleSweep relayer request =>
    simp only [propose, map_ok_iff, mapError_ok_iff, sweepProposal, bind_ok_iff] at h
    obtain ⟨proposal, ⟨hash, proven, settles⟩, rfl⟩ := h
    exact .settleSweep proven settles
  | redeem redeemer key =>
    simp only [propose, map_ok_iff, mapError_ok_iff] at h
    obtain ⟨proposal, h, rfl⟩ := h
    simp only [State.redeem, throw_bind, check_ok_iff, bind_ok_iff, pure_ok_iff] at h
    obtain ⟨r, active, own, inTime, rfl⟩ := h
    cases Decidable.not_not.mp own
    exact .redeem active (UInt64.not_lt.mp inTime)
  | liquidate liquidator key =>
    simp only [propose, map_ok_iff, mapError_ok_iff] at h
    obtain ⟨proposal, h, rfl⟩ := h
    simp only [State.liquidate, throw_bind, check_ok_iff, bind_ok_iff, pure_ok_iff] at h
    obtain ⟨r, active, late, rfl⟩ := h
    exact .liquidate active (UInt64.not_le.mp late)

/-! ## §4. What becomes of a command. -/

/-- The service after a transition has been committed and the ledger has taken its batch. -/
def advance {α : Type} (service : Service) (t : Transition α) (now : UInt64) (ledger : Ledger) :
    Service :=
  { service with
    state := t.state
    log := service.log.append (service.log.stage t.events now)
    ledger }

variable {σ : Type} [Store σ]

/-- What a store has taken was not kept from it. -/
theorem bring_ok_iff {env : Circumstances} {store next : σ} {delta : Delta}
    {events : List LoggedEvent} {balances : List (Identity × UInt64)} :
    bring env store delta events balances = .ok next ↔
      env.storeFault = none ∧ Store.commit store delta events balances = .ok next := by
  unfold bring
  cases env.storeFault <;> simp

/-- What can become of a command: it proposes nothing, the ledger cannot pay, the store refuses,
or the whole proposal is committed. -/
inductive Executes (service : Service) (store : σ) (env : Circumstances) (command : Command) :
    Outcome σ Receipt → Prop
  | unproposed {fault : Fault} {journal : List Journal.Entry}
      (proposed : service.propose env command = .error fault) :
      Executes service store env command ⟨.error fault, service, store, journal⟩
  | unpaid {t : Transition Receipt} {fault : LedgerFault} {journal : List Journal.Entry}
      (proposed : service.propose env command = .ok t)
      (unpaid : service.ledger.applyBatch t.ledgerOps = .error fault) :
      Executes service store env command ⟨.error (.ledger fault), service, store, journal⟩
  | unstored {t : Transition Receipt} {ledger : Ledger} {fault : StoreFault}
      {journal : List Journal.Entry}
      (proposed : service.propose env command = .ok t)
      (paid : service.ledger.applyBatch t.ledgerOps = .ok ledger)
      (unstored : bring env store (service.state.diff t.state) (service.log.stage t.events env.now)
        (service.ledger.balances.changed ledger.balances) = .error fault) :
      Executes service store env command ⟨.error (.store fault), service, store, journal⟩
  | committed {t : Transition Receipt} {ledger : Ledger} {next : σ} {journal : List Journal.Entry}
      (proposed : service.propose env command = .ok t)
      (paid : service.ledger.applyBatch t.ledgerOps = .ok ledger)
      (stored : bring env store (service.state.diff t.state) (service.log.stage t.events env.now)
        (service.ledger.balances.changed ledger.balances) = .ok next) :
      Executes service store env command
        ⟨.ok t.output, service.advance t env.now ledger, next, journal⟩

/-- What is carried out for a proposal is one of the four things that can become of a command. -/
theorem carryOut_executes {α : Type} {service : Service} {store : σ} {env : Circumstances}
    {command : Command} {proposal : Except Fault (Transition α)} {f : α → Receipt}
    (name : String) (caller : Option Identity)
    (proposed : service.propose env command = proposal.map (·.map f)) :
    Executes service store env command
      ((service.carryOut store env name caller proposal).map f) := by
  cases proposal with
  | error fault => exact .unproposed proposed
  | ok t =>
    show Executes service store env command ((service.commit store env name caller t).map f)
    unfold commit
    cases previewed : service.ledger.preview t.ledgerOps with
    | error fault =>
      exact .unpaid proposed ((Ledger.preview_eq_error_iff ..).mp previewed)
    | ok balances =>
      -- What was previewed is what the ledger then does.
      obtain ⟨ledger, paid, rfl⟩ := (Ledger.preview_eq_ok_iff ..).mp previewed
      cases stored : bring env store (service.state.diff t.state)
          (service.log.stage t.events env.now)
          (service.ledger.balances.changed ledger.balances) with
      | error fault =>
        simp only [stored]
        exact .unstored proposed paid stored
      | ok next =>
        simp only [stored, follow, paid]
        exact .committed proposed paid stored

/-- **A command is committed whole or not at all.** -/
theorem execute_executes (service : Service) (store : σ) (env : Circumstances)
    (command : Command) :
    Executes service store env command (service.execute store env command) := by
  cases command <;> exact carryOut_executes _ _ rfl

end Service

end Custody
