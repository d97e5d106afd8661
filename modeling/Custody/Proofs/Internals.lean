/-
  Custody.Proofs.Internals
  ────────────────────────────────
  **FAULTS THAT ONLY BROKEN BOOKS WOULD GIVE.**

  Some faults are there to stop a command on books that contradict themselves:
  a reservation that does not add up, a tagged deposit whose reservation is
  missing or settled already, a batch with more names than amounts, an event
  with a number that is taken.  No run leads to such books, so no command
  answers with such a fault.

  A swept deposit that is tagged has a pending reservation: its life is still
  at the point where both were made.  That needs clock readings that are not
  zero, as a sweep at zero would leave its deposits unswept.

  Main facts:
    * `avoids_settleAll`  — deposits that are ready are settled without such a fault;
    * `avoids_applyBatch` — so is a batch that names as many accounts as amounts;
    * `Firm.avoids`       — nothing proposed in a firm state gives such a fault;
    * `internal_failures_unreachable` — nor does any command after any run.
-/
import Custody.Proofs.Exactness
import Custody.Proofs.Lifecycle
import Custody.Proofs.Sequences

namespace Custody

/-! ## §1. Internal faults, and steps that avoid them. -/

/-- Whether a reservation was found that does not add up. -/
def ReservationFault.isInternal : ReservationFault → Bool
  | .unbalanced _ => true
  | _ => false

/-- Whether a deposit to be settled had no reservation, one that was settled already, or one that
does not add up; or was no deposit. -/
def SweepFault.isInternal : SweepFault → Bool
  | .reservation (.unbalanced _) | .reservation (.notFound _)
  | .reservation (.alreadyFinalized ..) => true
  | _ => false

/-- Whether a batch named more accounts than amounts, or fewer. -/
def LedgerFault.isInternal : LedgerFault → Bool
  | .lengthMismatch .. => true
  | _ => false

/-- Whether a fault tells of books that contradict themselves. -/
def Fault.isInternal : Fault → Bool
  | .reservation fault => fault.isInternal
  | .sweep fault => fault.isInternal
  | .ledger fault => fault.isInternal
  | _ => false

/-- A step gives no bad fault. -/
def Avoids {ε α : Type} (bad : ε → Bool) (x : Except ε α) : Prop :=
  ∀ fault, x = .error fault → bad fault = false

section Avoids

variable {ε ε' α β : Type} {bad : ε → Bool} {bad' : ε' → Bool} {x : Except ε α}

theorem avoids_ok (a : α) : Avoids bad (.ok a : Except ε α) := nofun

theorem avoids_error {fault : ε} (fine : bad fault = false) :
    Avoids bad (.error fault : Except ε α) := by
  intro other same
  cases same
  exact fine

/-- Two steps give no bad fault if neither does. -/
theorem Avoids.bind {f : α → Except ε β} (first : Avoids bad x)
    (rest : ∀ a, x = .ok a → Avoids bad (f a)) : Avoids bad (x >>= f) := by
  cases x with
  | error fault => exact avoids_error (first fault rfl)
  | ok a => exact rest a rfl

theorem Avoids.map {f : α → β} (h : Avoids bad x) : Avoids bad (x.map f) := by
  cases x with
  | error fault => exact avoids_error (h fault rfl)
  | ok a => exact avoids_ok (f a)

/-- Faults that are not bad may be worded anew if that makes none bad. -/
theorem Avoids.mapError {f : ε → ε'} (h : Avoids bad x)
    (fine : ∀ fault, bad fault = false → bad' (f fault) = false) : Avoids bad' (x.mapError f) := by
  cases x with
  | error fault => exact avoids_error (fine fault (h fault rfl))
  | ok a => exact avoids_ok a

/-- A check that throws a fault that is not bad, and what follows if it does not throw. -/
theorem avoids_check {p : Prop} [Decidable p] {fault : ε} (fine : bad fault = false)
    (rest : Avoids bad x) : Avoids bad (if p then throw fault else x) := by
  split
  · exact avoids_error fine
  · exact rest

/-- Whatever fails, it is told as a fault that is not bad. -/
theorem avoids_mapError (x : Except ε α) {f : ε → ε'} (fine : ∀ fault, bad' (f fault) = false) :
    Avoids bad' (x.mapError f) := by
  cases x with
  | error fault => exact avoids_error (fine fault)
  | ok a => exact avoids_ok a

end Avoids

/-! ## §2. Sweeps up to their deposits. -/

namespace State

section Inputs

variable {s : State} {request : SweepRequest} {walk : Walk}

/-- The check of a wallet does not fail internally. -/
theorem avoids_checkWallet (wallet : PubKeyHash) (claimed : Option MainOutput) :
    Avoids SweepFault.isInternal (s.checkWallet wallet claimed) := by
  unfold checkWallet
  split
  · exact avoids_error rfl
  · split
    · split
      · exact avoids_ok ()
      · exact avoids_error rfl
    · exact avoids_error rfl
    · exact avoids_error rfl
    · exact avoids_ok ()

theorem avoids_sweptValue (tx : Tx) (wallet : PubKeyHash) :
    Avoids SweepFault.isInternal (sweptValue tx wallet) := by
  simp only [sweptValue, throw_bind]
  refine (avoids_mapError _ fun _ => rfl).bind fun count _ => avoids_check rfl ?_
  refine (avoids_mapError _ fun _ => rfl).bind fun output _ => ?_
  refine (avoids_mapError _ fun _ => rfl).bind fun got _ => avoids_check rfl ?_
  exact avoids_mapError _ fun _ => rfl

theorem Walk.avoids_add (walk : Walk) (amount : UInt64) :
    Avoids SweepFault.isInternal (walk.add amount) := by
  unfold Walk.add
  split
  · exact avoids_ok _
  · exact avoids_error rfl

/-- Taking a deposit does not fail internally. -/
theorem avoids_takeDeposit (request : SweepRequest) (walk : Walk) (key : DepositKey)
    (d : Deposit) : Avoids SweepFault.isInternal (takeDeposit request walk key d) := by
  simp only [takeDeposit, throw_bind]
  refine avoids_check rfl (avoids_check rfl (avoids_check rfl ?_))
  exact (walk.avoids_add _).bind fun _ _ => avoids_ok _

theorem avoids_takeMainOutput (request : SweepRequest) (walk : Walk) (spent : Outpoint) :
    Avoids SweepFault.isInternal (takeMainOutput request walk spent) := by
  unfold takeMainOutput
  split
  · split
    · exact (walk.avoids_add _).bind fun _ _ => avoids_ok _
    · exact avoids_error rfl
  · exact avoids_error rfl

/-- The walk over the inputs does not fail internally. -/
theorem avoids_walkInputs (s : State) (request : SweepRequest) (count offset : Nat) (walk : Walk) :
    Avoids SweepFault.isInternal (s.walkInputs request count offset walk) := by
  induction count generalizing offset walk with
  | zero => exact avoids_ok _
  | succ count ih =>
    unfold walkInputs
    refine (avoids_mapError _ fun _ => rfl).bind fun input _ => ?_
    refine Avoids.bind ?_ fun next _ => ih (offset + input.length) next
    unfold takeInput
    split
    · exact avoids_takeDeposit request walk _ _
    · exact avoids_takeMainOutput request walk _

theorem avoids_takeInputs (s : State) (request : SweepRequest) :
    Avoids SweepFault.isInternal (s.takeInputs request) := by
  simp only [takeInputs, throw_bind]
  refine (avoids_mapError _ fun _ => rfl).bind fun count _ => ?_
  refine (avoids_walkInputs s request _ _ _).bind fun walked _ => ?_
  exact avoids_check rfl (avoids_check rfl (avoids_ok _))

/-- Splitting the fee does not fail internally. -/
theorem avoids_sweepSplit (params : DepositParams) (walk : Walk) (value : UInt64) :
    Avoids SweepFault.isInternal (sweepSplit params walk value) := by
  simp only [sweepSplit, throw_bind]
  split
  · exact avoids_error rfl
  · split
    · exact avoids_error rfl
    · exact avoids_check rfl (avoids_ok _)

end Inputs

end State

/-! ## §3. Deposits that are ready to be settled. -/

/-- What is held under a key can be settled: there is a deposit, and if it is tagged a pending
reservation that adds up. -/
def Holding.Ready (held : Holding) : Prop :=
  ∃ d, held.deposit = some d ∧ (d.isReserved = true →
    ∃ r, held.reservation = some r ∧ r.status = .revealed ∧ r.isBalanced = true)

/-- **An unswept deposit is ready**, as its life is still at its beginning. -/
theorem Life.ready {acts : List Act} {held : Holding} {key : DepositKey} {d : Deposit}
    (life : Life acts held) (sound : held.Sound key) (found : held.deposit = some d)
    (unswept : d.isSwept = false) : held.Ready := by
  cases life with
  | unknown => cases found
  | @revealed d owed _ untagged =>
    refine ⟨d, rfl, fun tagged => ?_⟩
    rw [untagged] at tagged
    cases tagged
  | @promised d r owed _ tagged pending =>
    exact ⟨d, rfl, fun _ => ⟨r, rfl, pending, (sound.balanced r rfl).1⟩⟩
  | settled swept | active swept | redeemed swept | liquidated swept =>
    cases found
    rw [swept] at unswept
    cases unswept

namespace State

section Deposits

variable {now : UInt64} {hash : TxHash} {p q : Progress} {key : DepositKey} {share : UInt64}
  {split : FeeSplit} {count place : Nat} {keys : List DepositKey}

/-- A pending reservation that adds up is made active, unless its share of the fee is too much. -/
theorem finalize_error {r : Reservation} {fault : ReservationFault} (pending : r.status = .revealed)
    (balanced : r.isBalanced = true) (failed : finalize key r share = .error fault) :
    fault = .sweepFeeExhausts key r.minted share := by
  simp only [finalize, throw_bind, pending, balanced, ne_eq, not_true_eq_false, if_false,
    Bool.not_true, Bool.false_eq_true] at failed
  split at failed
  · cases failed
    rfl
  · cases failed

/-- A pending reservation that adds up is settled without an internal fault. -/
theorem avoids_settleReserved {r : Reservation} {p : Progress} {key : DepositKey} (d : Deposit)
    (kept : p.state.reservations.get? key = some r) (pending : r.status = .revealed)
    (balanced : r.isBalanced = true) :
    Avoids SweepFault.isInternal (settleReserved p d key share) := by
  have finalized : Avoids SweepFault.isInternal
      ((finalize key r share).mapError SweepFault.reservation) := by
    intro fault told
    obtain ⟨old, failed, rfl⟩ := mapError_error_iff.mp told
    rw [finalize_error pending balanced failed]
    rfl
  simp only [settleReserved, kept]
  exact finalized.bind fun final _ => avoids_ok _

theorem avoids_settleOrdinary (d : Deposit) (key : DepositKey) (share : UInt64) :
    Avoids SweepFault.isInternal (settleOrdinary d key share) := by
  simp only [settleOrdinary, throw_bind]
  split
  · exact avoids_error rfl
  · exact avoids_check rfl (avoids_ok _)

/-- Whatever is ready is settled without an internal fault. -/
theorem avoids_settleOne (ready : (p.state.holding key).Ready) :
    Avoids SweepFault.isInternal (settleOne now hash p key share) := by
  obtain ⟨d, found, pending⟩ := ready
  replace found : p.state.deposits.get? key = some d := found
  simp only [settleOne, found]
  split
  case isTrue tagged =>
    obtain ⟨r, kept, waiting, balanced⟩ := pending tagged
    refine Avoids.bind ?_ fun settled _ => avoids_ok _
    exact avoids_settleReserved _ kept waiting balanced
  case isFalse => exact (avoids_settleOrdinary _ key share).map.bind fun settled _ => avoids_ok _

/-- Settling one deposit leaves alone what is held under the other keys. -/
theorem Settles.holding_other (h : Settles now hash p key share q) {other : DepositKey}
    (differ : other ≠ key) : q.state.holding other = p.state.holding other := by
  unfold holding
  cases h with
  | ordinary => rw [Table.get?_insert_of_ne _ _ differ]
  | reserved => rw [Table.get?_insert_of_ne _ _ differ, Table.get?_insert_of_ne _ _ differ]

/-- **Deposits that are ready are settled without an internal fault.** -/
theorem avoids_settleAll (ready : ∀ key ∈ keys, (p.state.holding key).Ready)
    (distinct : keys.Nodup) :
    Avoids SweepFault.isInternal (settleAll now hash split count place p keys) := by
  induction keys generalizing place p with
  | nil => exact avoids_ok p
  | cons key rest ih =>
    obtain ⟨fresh, distinct⟩ := List.nodup_cons.mp distinct
    unfold settleAll
    refine (avoids_settleOne (ready key List.mem_cons_self)).bind fun between settled => ?_
    -- The other deposits are as ready as they were.
    refine ih (fun other mem => ?_) distinct
    have differ : other ≠ key := fun same => fresh (same ▸ mem)
    rw [(settleOne_settles settled).holding_other differ]
    exact ready other (List.mem_cons_of_mem key mem)

end Deposits

/-! ## §4. Reservations. -/

/-- Pricing does not fail internally. -/
theorem avoids_price (params : ReservationParams) (amount : UInt64) (days : UInt32) :
    Avoids ReservationFault.isInternal (price params amount days) := by
  unfold price
  dsimp only
  split
  · split
    · exact avoids_ok _
    · exact avoids_error rfl
  · exact avoids_error rfl

/-- To reserve looks at no other reservation. -/
theorem avoids_reserve (s : State) (params : Params) (caller : Identity)
    (request : ReserveRequest) (now : UInt64) :
    Avoids ReservationFault.isInternal (s.reserve params caller request now) := by
  simp only [reserve, throw_bind]
  refine avoids_check rfl (avoids_check rfl ?_)
  refine (avoids_mapError _ fun _ => rfl).bind fun d _ => avoids_check rfl ?_
  refine (avoids_price _ _ _).bind fun parts _ => ?_
  split
  · exact avoids_ok _
  · exact avoids_error rfl

/-- A reservation that is found adds up. -/
theorem Standing.avoids_activeReservation {s : State} (standing : s.Standing) (key : DepositKey) :
    Avoids ReservationFault.isInternal (s.activeReservation key) := by
  unfold activeReservation
  split
  case h_1 => exact avoids_error rfl
  case h_2 r found =>
    rw [((standing.held key).balanced r found).1]
    split
    · exact avoids_error rfl
    · exact avoids_ok r

/-- In a standing state a redemption does not fail internally. -/
theorem Standing.avoids_redeem {s : State} (standing : s.Standing) (params : Params)
    (caller : Identity) (key : DepositKey) (now : UInt64) :
    Avoids ReservationFault.isInternal (s.redeem params caller key now) := by
  simp only [redeem, throw_bind]
  refine (standing.avoids_activeReservation key).bind fun r _ => ?_
  exact avoids_check rfl (avoids_check rfl (avoids_ok _))

theorem Standing.avoids_liquidate {s : State} (standing : s.Standing) (caller : Identity)
    (key : DepositKey) (now : UInt64) :
    Avoids ReservationFault.isInternal (s.liquidate caller key now) := by
  simp only [liquidate, throw_bind]
  exact (standing.avoids_activeReservation key).bind fun r _ => avoids_check rfl (avoids_ok _)

end State

/-! ## §5. What is proposed. -/

/-- What every run keeps, and what keeps internal faults off. -/
structure Service.Firm (service : Service) : Prop where
  standing : service.state.Standing
  lived : ∀ key, service.Lived key

namespace Service.Firm

variable {service : Service}

theorem opened (params : Params) : (Service.opened params).Firm where
  standing := .empty
  lived := .opened params

/-- **Every accepted command leaves the service firm**, as long as the clock does not read zero. -/
theorem advance {env : Circumstances} {command : Command} {t : Transition Receipt}
    {ledger : Ledger} (firm : service.Firm)
    (accepted : Accepted service.state service.params env command t) (clocked : env.now ≠ 0) :
    (service.advance t env.now ledger).Firm where
  standing := accepted.standing firm.standing
  lived key := (firm.lived key).advance accepted clocked

/-- Over a firm service no sweep fails internally. -/
theorem avoids_settleSweep (firm : service.Firm) (params : Params) (request : SweepRequest)
    (hash : TxHash) (now : UInt64) :
    Avoids SweepFault.isInternal (service.state.settleSweep params request hash now) := by
  unfold State.settleSweep
  refine (State.avoids_checkWallet _ _).bind fun _ _ => ?_
  refine (State.avoids_sweptValue _ _).bind fun value _ => ?_
  refine (State.avoids_takeInputs _ _).bind fun walk taken => ?_
  refine (State.avoids_sweepSplit _ _ _).bind fun parts _ => ?_
  refine Avoids.bind ?_ fun p _ => avoids_ok _
  -- The walk over the inputs has found unswept deposits only, each once.
  obtain ⟨sound, -⟩ := State.takeInputs_sound taken
  refine State.avoids_settleAll (fun key mem => ?_) sound.distinct
  obtain ⟨d, found, unswept, -⟩ := sound.unswept key mem
  obtain ⟨acts, life, -⟩ := firm.lived key
  exact life.ready (firm.standing.held key) found unswept

/-- **Nothing proposed in a firm state gives an internal fault.** -/
theorem avoids (firm : service.Firm) (env : Circumstances) (command : Command) :
    Avoids Fault.isInternal (service.propose env command) := by
  cases command with
  | registerWallet | setWalletState | reveal => exact (avoids_mapError _ fun _ => rfl).map
  | setVaultStatus => exact avoids_ok _
  | reserve depositor request =>
    refine Avoids.map (Avoids.mapError ?_ fun _ fine => fine)
    exact State.avoids_reserve service.state service.params depositor request env.now
  | settleSweep relayer request =>
    have proposal : Avoids SweepFault.isInternal (service.sweepProposal env request) :=
      (avoids_mapError _ fun _ => rfl).bind fun hash _ => firm.avoids_settleSweep _ _ hash _
    exact Avoids.map (Avoids.mapError proposal fun _ fine => fine)
  | redeem redeemer key =>
    refine Avoids.map (Avoids.mapError ?_ fun _ fine => fine)
    exact firm.standing.avoids_redeem service.params redeemer key env.now
  | liquidate liquidator key =>
    refine Avoids.map (Avoids.mapError ?_ fun _ fine => fine)
    exact firm.standing.avoids_liquidate liquidator key env.now

end Service.Firm

/-! ## §6. Batches. -/

/-- Only a refused move gives an internal fault. -/
theorem runMoves_fault {balances next : Balances} {moves : List Move} {fault : LedgerFault}
    (named : ∀ fault, Move.refuse fault ∉ moves)
    (stopped : runMoves balances moves = (next, some fault)) : fault.isInternal = false := by
  induction moves generalizing balances with
  | nil => cases stopped
  | cons move rest ih =>
    have later : ∀ fault, Move.refuse fault ∉ rest := fun fault mem =>
      named fault (List.mem_cons_of_mem move mem)
    cases move with
    | credit account amount =>
      rcases runMoves_credit balances account amount rest with ⟨_, -, goes⟩ | ⟨-, stops⟩
      · rw [goes] at stopped
        exact ih later stopped
      · rw [stops] at stopped
        cases stopped
        rfl
    | debit account amount =>
      rcases runMoves_debit balances account amount rest with ⟨_, -, goes⟩ | ⟨-, stops⟩
      · rw [goes] at stopped
        exact ih later stopped
      · rw [stops] at stopped
        cases stopped
        rfl
    | refuse reason => exact absurd List.mem_cons_self (named reason)

/-- **A batch of which no move is a refusal fails for want of money or of room only.** -/
theorem avoids_applyBatch {ledger : Ledger} {ops : List LedgerOp}
    (named : ∀ fault, Move.refuse fault ∉ Ledger.batchMoves ledger.bridge ops) :
    Avoids LedgerFault.isInternal (ledger.applyBatch ops) := by
  intro fault failed
  have stopped := (Ledger.applyBatch_eq_error_iff ..).mp failed
  exact runMoves_fault named (Prod.ext rfl stopped)

/-- A batch does not refuse from within if its parts do not. -/
theorem Ledger.refuse_notMem_append {bridge : Identity} {fault : LedgerFault}
    {xs ys : List LedgerOp} (first : Move.refuse fault ∉ batchMoves bridge xs)
    (second : Move.refuse fault ∉ batchMoves bridge ys) :
    Move.refuse fault ∉ batchMoves bridge (xs ++ ys) := by
  rw [batchMoves, List.flatMap_append, List.mem_append, not_or]
  exact ⟨first, second⟩

/-- The credits of a sweep do not refuse from within. -/
theorem State.refuse_notMem_credits (s : State) (params : Params) (vault : Option Identity)
    (settled : List Settlement) (bridge : Identity) (fault : LedgerFault) :
    Move.refuse fault ∉ Ledger.batchMoves bridge (s.credits params vault settled) := by
  have one (account : Identity) (amount : UInt64) :
      Move.refuse fault ∉ Ledger.batchMoves bridge
        (if 0 < amount then [.increaseBalance account amount] else []) := by
    split <;> simp [Ledger.batchMoves, Ledger.moves]
  -- Depositors and amounts are taken from one list, so there are as many of them.
  have depositors : Move.refuse fault ∉ Ledger.batchMoves bridge
      [.increaseBalances (settled.map (·.depositor)) (settled.map (·.credited))] := by
    rw [Ledger.batchMoves, List.flatMap_singleton, moves_depositors]
    simp
  unfold credits
  refine Ledger.refuse_notMem_append (Ledger.refuse_notMem_append ?_ (one _ _)) (one _ _)
  cases vault with
  | none => exact depositors
  | some vault =>
    by_cases trusted : s.trusts vault = true
    · simp only [trusted, if_true]
      simp [Ledger.batchMoves, Ledger.moves]
    · simp only [trusted]
      exact depositors

/-- No accepted command brings a batch with a refusal. -/
theorem Accepted.refuse_notMem {s : State} {params : Params} {env : Circumstances}
    {command : Command} {t : Transition Receipt} (h : Accepted s params env command t)
    (bridge : Identity) (fault : LedgerFault) :
    Move.refuse fault ∉ Ledger.batchMoves bridge t.ledgerOps := by
  cases h with
  | registerWallet | setWalletState | setVaultStatus | reveal | reserve => exact List.not_mem_nil
  | settleSweep proven settles =>
    cases State.settleSweep_ok_iff.mp settles with
    | mk => exact State.refuse_notMem_credits s params _ _ bridge fault
  | redeem => simp [Ledger.batchMoves, Ledger.moves]
  | liquidate => simp [Ledger.batchMoves, Ledger.moves]

/-! ## §7. After any run. -/

/-- Events that a log takes go on with its numbers. -/
def EventLog.Continues (log : EventLog) (staged : List LoggedEvent) : Prop :=
  ∀ first, staged.head? = some first → first.seq = log.nextSeq

/-- Staged events go on with the numbers of the log. -/
theorem EventLog.continues_stage (log : EventLog) (events : List Event) (time : UInt64) :
    log.Continues (log.stage events time) := by
  intro first staged
  cases events with
  | nil => cases staged
  | cons event rest =>
    have own := log.seq_stage event rest time
    rw [staged] at own
    exact Option.some.inj own

namespace World

variable {σ : Type} [Store σ] [SequencedStore σ]

/-- Nothing goes wrong inside when an order is carried out. -/
structure Faultless (w : World σ) (order : Order) : Prop where
  /-- No reservation is found out of balance; and a sweep finds every reservation that it needs, and
  finds it pending; and no batch names more accounts than amounts. -/
  internal : Avoids Fault.isInternal (w.service.execute w.store order.env order.command).result
  /-- No event has a number that is taken, unless a store is made to say so or the numbers have run
  out. -/
  duplicate (what : String) :
    (w.service.execute w.store order.env order.command).result = .error (.store (.duplicate what)) →
      order.env.storeFault = some (.duplicate what) ∨
      ∃ t, w.service.propose order.env order.command = .ok t ∧
        ¬ SequencedStore.HasNumbers σ (w.service.log.events.length + t.events.length)
  numbered : Numbered w.service.log.events
  continues (t : Transition Receipt) : w.service.propose order.env order.command = .ok t →
    w.service.log.Continues (w.service.log.stage t.events order.env.now)
  exact : w.service.state.Exact w.service.params

/-- **A store that has the numbers of the log takes no staged event for a duplicate.** -/
theorem Sequential.duplicate {w : World σ} (sequential : w.Sequential) {order : Order}
    {what : String} (refused : (w.service.execute w.store order.env order.command).result
      = .error (.store (.duplicate what))) :
    order.env.storeFault = some (.duplicate what) ∨
      ∃ t, w.service.propose order.env order.command = .ok t ∧
        ¬ SequencedStore.HasNumbers σ (w.service.log.events.length + t.events.length) := by
  have executes := w.service.execute_executes w.store order.env order.command
  generalize w.service.execute w.store order.env order.command = out at executes refused
  cases executes with
  | @unproposed fault journal proposed =>
    cases refused
    exact absurd proposed (Service.propose_ne_store _)
  | unpaid => cases refused
  | @unstored t ledger reason journal proposed paid unstored =>
    cases refused
    unfold Service.bring at unstored
    split at unstored
    case h_1 forced works =>
      cases unstored
      exact .inl works
    case h_2 =>
      refine .inr ⟨t, proposed, fun enough => ?_⟩
      refine SequencedStore.untaken sequential.held
        (EventLog.numbered_stage sequential.numbered t.events order.env.now) ?_ unstored
      rw [List.length_append, EventLog.length_stage]
      exact enough
  | committed => cases refused

/-- **Over a firm service with a sequential store nothing goes wrong inside.** -/
theorem faultless {w : World σ} {order : Order} (firm : w.service.Firm)
    (sequential : w.Sequential) : w.Faultless order where
  internal := by
    have executes := w.service.execute_executes w.store order.env order.command
    generalize w.service.execute w.store order.env order.command = out at executes
    cases executes with
    | unproposed proposed => exact avoids_error (firm.avoids _ _ _ proposed)
    | unpaid proposed unpaid =>
      have accepted := Service.propose_accepted proposed
      exact avoids_error (avoids_applyBatch (accepted.refuse_notMem _) _ unpaid)
    | unstored => exact avoids_error rfl
    | committed => exact avoids_ok _
  duplicate _ := sequential.duplicate
  numbered := sequential.numbered
  continues t _ := w.service.log.continues_stage t.events order.env.now
  exact := firm.standing.exact _

end World

/-- **Internal failures are unreachable.**  After any run from an empty store in which no clock
reading is zero, no command answers with a fault that only broken books would give, no event has a
number that is taken, what is appended to the log goes on with its numbers, and no sum or difference
that is taken without a look leaves the range of words. -/
theorem internal_failures_unreachable {σ : Type} [Store σ] [SequencedStore σ] {params : Params}
    {orders : List Order} {w : World σ} (reached : w.Reached params orders)
    (clocked : ∀ order ∈ orders, order.env.now ≠ 0) (order : Order) : w.Faultless order := by
  have firm : w.service.Firm :=
    reached.invariant Service.Firm (.opened params) fun _ _ _ _ mem firm accepted _ =>
      firm.advance accepted (clocked _ mem)
  exact World.faultless firm reached.sequential

/-- Before the reserved deposit of the sample run is swept, its sweep meets nothing but what it
should. -/
theorem internal_failures_unreachable_sample :
    let run := (Sample.orders.take 4)
    let w := (World.mk (Service.opened {}) Volatile.empty).serve run
    (∀ order ∈ run, order.env.now ≠ 0) ∧
      (w.service.state.reservations.get? Sample.promised.key).isSome = true ∧
      w.Faultless ⟨Sample.env 5, .settleSweep ⟨"bob"⟩
        (Sample.sweep Sample.second Sample.firstOutput)⟩ := by
  intro run w
  have clocked : ∀ order ∈ run, order.env.now ≠ 0 := by decide +kernel
  refine ⟨clocked, by decide +kernel, ?_⟩
  exact internal_failures_unreachable (Volatile.reached_serve {} run) clocked _

end Custody
