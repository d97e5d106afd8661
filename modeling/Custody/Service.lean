/-
  Custody.Service
  ────────────────────────────────
  **THE SERVICE: COMMANDS ARE COMMITTED.**

  The service holds the state, the log of events and the ledger, over a store
  that holds the same.  A command is proposed against the state and then
  committed in this order: the ledger batch is tried without effect, the
  events are numbered, the store takes change, events and balances in one
  commit, the ledger takes the batch, and state and log move on.  Whatever
  fails before the store has taken the commit leaves everything as it was.

  What a command depends on beside the service is its circumstances: the
  time, the answers of the proof validator, and whether the store fails.

  Main fact: `load_eq_ok_iff` — a service is loaded with what its store holds.
-/
import Custody.Fault
import Custody.Journal

namespace Custody

/-! ## §1. Services and their circumstances. -/

/-- What a service holds. -/
structure Service where
  params : Params
  state : State
  log : EventLog
  ledger : Ledger
deriving DecidableEq

/-- What a command depends on beside service and store. -/
structure Circumstances where
  /-- The reading of the clock. -/
  now : UInt64
  /-- The answers of the proof validator. -/
  prove : Tx → InclusionProof → Except ProofFault TxHash
  /-- The fault with which the store refuses every commit, if it does. -/
  storeFault : Option StoreFault := none

/-- What comes of a command: the answer, the service and the store after it, and what was put
into the journal. -/
structure Outcome (σ α : Type) where
  result : Except Fault α
  service : Service
  store : σ
  journal : List Journal.Entry

namespace Service

variable {σ α : Type} [Store σ]

/-! ## §2. Loading. -/

/-- Loads a service over what a store holds, with a ledger that starts from its balances. -/
def load (params : Params) (store : σ) : Except Fault Service := do
  let (state, events) ← (Store.load store).mapError .store
  let balances ← (Store.loadBalances store).mapError .store
  return {
    params
    state
    log := ⟨events⟩
    ledger := (Ledger.opened params.bridge).restore balances }

/-- What is put into the journal when a service has been loaded. -/
def loaded : Journal.Entry := .note .info Journal.serviceTarget "settlement state loaded"

/-- A service is loaded exactly when state, events and balances are, and with these. -/
theorem load_eq_ok_iff (params : Params) (store : σ) (service : Service) :
    load params store = .ok service ↔
      ∃ state events balances, Store.load store = .ok (state, events) ∧
        Store.loadBalances store = .ok balances ∧
        service = ⟨params, state, ⟨events⟩, (Ledger.opened params.bridge).restore balances⟩ := by
  unfold load
  cases Store.load store with
  | error fault =>
    constructor
    · intro h; cases h
    · rintro ⟨_, _, _, h, _⟩; cases h
  | ok held =>
    obtain ⟨state, events⟩ := held
    cases Store.loadBalances store with
    | error fault =>
      constructor
      · intro h; cases h
      · rintro ⟨_, _, _, _, h, _⟩; cases h
    | ok balances =>
      constructor
      · intro h
        exact ⟨state, events, balances, rfl, rfl, (Except.ok.inj h).symm⟩
      · rintro ⟨_, _, _, ⟨⟩, ⟨⟩, rfl⟩
        rfl

/-! ## §3. Committing. -/

/-- A refused command leaves service and store alone and is put into the journal. -/
def refuse (service : Service) (store : σ) (command : String) (caller : Option Identity)
    (notes : List Journal.Entry) (fault : Fault) : Outcome σ α where
  result := .error fault
  service
  store
  journal := notes ++ [Journal.rejected command caller fault.code fault.message]

/-- Brings a commit to the store, under the circumstances. -/
def bring (env : Circumstances) (store : σ) (delta : Delta) (events : List LoggedEvent)
    (balances : List (Identity × UInt64)) : Except StoreFault σ :=
  match env.storeFault with
  | some fault => .error fault
  | none => Store.commit store delta events balances

/-- What the journal says of a commit. -/
def committed (command : String) (staged : List LoggedEvent) (ops : List LedgerOp) :
    List Journal.Entry :=
  staged.map (fun e => Journal.committed e.event.kind e.seq (toJson e))
    ++ (if ops.isEmpty then []
        else [Journal.batchApplied command ops.length (staged.head?.map (·.seq))])

/-- The service after a commit that the store has taken.  State and log follow the store also if
the ledger should refuse what it has previewed. -/
def follow (service : Service) (t : Transition α) (staged : List LoggedEvent) (store : σ)
    (command : String) : Outcome σ α :=
  let notes := committed command staged t.ledgerOps
  let next := { service with state := t.state, log := service.log.append staged }
  -- The batch was previewed on this very ledger, so the second case does not arise.
  match service.ledger.applyBatch t.ledgerOps with
  | .ok ledger => ⟨.ok t.output, { next with ledger }, store, notes⟩
  | .error fault =>
    ⟨.error (.ledger fault), next, store,
      notes ++ [.note .error Journal.Topic.ledger.target
        "ledger rejected a checked batch after commit"]⟩

/-- Commits a proposal. -/
def commit (service : Service) (store : σ) (env : Circumstances) (command : String)
    (caller : Option Identity) (t : Transition α) : Outcome σ α :=
  match service.ledger.preview t.ledgerOps with
  | .error fault => service.refuse store command caller [] (.ledger fault)
  | .ok balances =>
    let staged := service.log.stage t.events env.now
    -- Nothing of the service has changed yet: a store that refuses leaves all as it was.
    match bring env store (service.state.diff t.state) staged balances with
    | .error fault =>
      service.refuse store command caller
        [.note .error Journal.serviceTarget "storage commit failed"] (.store fault)
    | .ok store => service.follow t staged store command

/-- Commits a proposal, or refuses the command if there is none. -/
def carryOut (service : Service) (store : σ) (env : Circumstances) (command : String)
    (caller : Option Identity) (proposal : Except Fault (Transition α)) : Outcome σ α :=
  match proposal with
  | .error fault => service.refuse store command caller [] fault
  | .ok t => service.commit store env command caller t

/-! ## §4. Commands. -/

/-- Reveals an ordinary deposit. -/
def reveal (service : Service) (store : σ) (env : Circumstances) (depositor : Identity)
    (request : RevealRequest) : Outcome σ DepositKey :=
  service.carryOut store env "reveal_deposit" (some depositor)
    ((service.state.reveal service.params depositor request env.now).mapError .reveal)

/-- Reveals and reserves a deposit. -/
def reserve (service : Service) (store : σ) (env : Circumstances) (caller : Identity)
    (request : ReserveRequest) : Outcome σ Reservation :=
  service.carryOut store env "reserve" (some caller)
    ((service.state.reserve service.params caller request env.now).mapError .reservation)

/-- The proposal of a sweep whose proof has yet to be validated. -/
def sweepProposal (service : Service) (env : Circumstances) (request : SweepRequest) :
    Except SweepFault (Transition SweepOutcome) := do
  let hash ← (env.prove request.tx request.proof).mapError .proof
  service.state.settleSweep service.params request hash env.now

/-- Validates the proof of a sweep and settles it. -/
def settleSweep (service : Service) (store : σ) (env : Circumstances) (caller : Identity)
    (request : SweepRequest) : Outcome σ SweepOutcome :=
  service.carryOut store env "settle_sweep" (some caller)
    ((service.sweepProposal env request).mapError .sweep)

/-- Redeems an active reservation. -/
def redeem (service : Service) (store : σ) (env : Circumstances) (caller : Identity)
    (key : DepositKey) : Outcome σ PriorityRedemption :=
  service.carryOut store env "redeem" (some caller)
    ((service.state.redeem service.params caller key env.now).mapError .reservation)

/-- Liquidates an expired reservation; tells the bonus that is paid. -/
def liquidate (service : Service) (store : σ) (env : Circumstances) (caller : Identity)
    (key : DepositKey) : Outcome σ UInt64 :=
  service.carryOut store env "liquidate" (some caller)
    ((service.state.liquidate caller key env.now).mapError .reservation)

/-- Registers a wallet. -/
def registerWallet (service : Service) (store : σ) (env : Circumstances) (wallet : PubKeyHash)
    (stage : WalletState) : Outcome σ Unit :=
  service.carryOut store env "register_wallet" none
    ((service.state.registerWallet wallet stage).mapError .wallet)

/-- Moves a wallet to another stage. -/
def setWalletState (service : Service) (store : σ) (env : Circumstances) (wallet : PubKeyHash)
    (stage : WalletState) : Outcome σ Unit :=
  service.carryOut store env "set_wallet_state" none
    ((service.state.setWalletState wallet stage).mapError .wallet)

/-- Says whether a vault is trusted. -/
def setVaultStatus (service : Service) (store : σ) (env : Circumstances) (vault : Identity)
    (trusted : Bool) : Outcome σ Unit :=
  service.carryOut store env "set_vault_status" none
    (.ok (service.state.setVaultStatus vault trusted))

end Service

end Custody
