/-
  Custody.Command.Sweep
  ────────────────────────────────
  **A SWEEP IS SETTLED.**

  A sweep is a transaction by which a wallet joins deposits and its main
  output into a new main output.  Its inputs are unswept deposits of the
  wallet that all go to the vault of the request, each once, and the main
  output that is claimed, exactly once if one is.  What the inputs are worth
  above the output is the fee.

  The fee is split over the deposits in the order of the inputs.  An ordinary
  deposit is credited what the treasury's fee and its share leave of it; a
  reserved one becomes active and is credited what its share leaves of what
  it mints.  Anything that fails refuses the whole sweep.
-/
import Custody.Block.Inclusion
import Custody.Command.Reserve

namespace Custody

/-! ## §1. Requests and outcomes. -/

/-- A request to settle a sweep. -/
structure SweepRequest where
  walletKeyHash : PubKeyHash
  tx : Tx
  proof : InclusionProof
  /-- The wallet's main output, once it has one. -/
  mainOutput : Option MainOutput
  /-- The vault that every swept deposit goes to. -/
  vault : Option Identity
deriving DecidableEq, Repr

instance : ToJson SweepRequest where
  toJson r := .object [
    ("wallet_pubkey_hash", toJson r.walletKeyHash),
    ("sweep_tx", toJson r.tx),
    ("proof", toJson r.proof),
    ("main_utxo", toJson r.mainOutput),
    ("vault", toJson r.vault)]

instance : FromJson SweepRequest where
  fromJson? j := do
    let r ← j.record? ["wallet_pubkey_hash", "sweep_tx", "proof", "main_utxo", "vault"] 2
    return {
      walletKeyHash := ← r.field "wallet_pubkey_hash"
      tx := ← r.field "sweep_tx"
      proof := ← r.field "proof"
      mainOutput := ← r.field? "main_utxo"
      vault := ← r.field? "vault" }

/-- How one deposit was settled. -/
structure Settlement where
  key : DepositKey
  depositor : Identity
  credited : UInt64
  feeShare : UInt64
  treasuryFee : UInt64
  liquidationBonus : UInt64
  reserved : Bool
deriving DecidableEq, Repr

instance : ToJson Settlement where
  toJson x := .object [
    ("key", toJson x.key),
    ("depositor", toJson x.depositor),
    ("credited", toJson x.credited),
    ("fee_share", toJson x.feeShare),
    ("treasury_fee", toJson x.treasuryFee),
    ("liquidation_bonus", toJson x.liquidationBonus),
    ("reserved", toJson x.reserved)]

/-- What an accepted sweep has done. -/
structure SweepOutcome where
  sweepTxHash : TxHash
  mainOutput : MainOutput
  totalFee : UInt64
  settled : List Settlement
deriving DecidableEq, Repr

instance : ToJson SweepOutcome where
  toJson o := .object [
    ("sweep_tx_hash", toJson o.sweepTxHash),
    ("main_utxo", toJson o.mainOutput),
    ("total_fee", toJson o.totalFee),
    ("settled", toJson o.settled)]

/-! ## §2. Faults. -/

/-- Why a sweep is refused. -/
inductive SweepFault where
  | vector (fault : VectorFault)
  | proof (fault : ProofFault)
  | reservation (fault : ReservationFault)
  | walletNotSweepable (wallet : PubKeyHash) (state : WalletState)
  | mainOutputMismatch
  | unexpectedMainOutput
  | mainOutputNotSpent
  | outputCount (count : Nat)
  | wrongWallet (expected got : PubKeyHash)
  | unknownInput (input : Outpoint)
  | alreadySwept (key : DepositKey)
  | depositOfOtherWallet (key : DepositKey) (wallet : PubKeyHash)
  | depositOfOtherVault (key : DepositKey) (expected got : Option Identity)
  | noDeposits
  | outputExceedsInputs (inputs output : UInt64)
  | feeExceedsCap (share max : UInt64)
  | depositExhausted (key : DepositKey) (amount fees : UInt64)
  | valueOverflow
deriving DecidableEq, Repr

namespace SweepFault

/-- The wording of a fault. -/
def message : SweepFault → String
  | .vector fault => s!"malformed sweep transaction: {fault.message}"
  | .proof fault => s!"sweep proof rejected: {fault.message}"
  | .reservation fault => fault.message
  | .walletNotSweepable wallet state =>
    s!"wallet {wallet} is {state}, sweeps need a live or moving-funds wallet"
  | .mainOutputMismatch => "claimed main utxo does not match the wallet's main utxo"
  | .unexpectedMainOutput => "main utxo claimed for a wallet without one"
  | .mainOutputNotSpent => "wallet main utxo was not spent by the sweep"
  | .outputCount count => s!"sweep must have exactly one output, found {count}"
  | .wrongWallet expected got => s!"sweep output pays {got}, expected wallet {expected}"
  | .unknownInput input =>
    s!"input {input.txHash}:{input.index} is neither a revealed deposit nor the main utxo"
  | .alreadySwept key => s!"deposit {key} already swept"
  | .depositOfOtherWallet key wallet => s!"deposit {key} was revealed to wallet {wallet}"
  | .depositOfOtherVault key expected got =>
    s!"deposit {key} routes to vault {Identity.describe expected}, " ++
      s!"sweep targets {Identity.describe got}"
  | .noDeposits => "sweep consumes no deposits"
  | .outputExceedsInputs inputs output =>
    s!"sweep output {output} exceeds total input value {inputs}"
  | .feeExceedsCap share max => s!"per-deposit fee share {share} exceeds maximum {max}"
  | .depositExhausted key amount fees =>
    s!"deposit {key} of {amount} cannot cover fees of {fees}"
  | .valueOverflow => "sweep value overflows"

/-- The code of a fault. -/
def code : SweepFault → String
  | .vector fault => fault.code
  | .proof fault => fault.code
  | .reservation fault => fault.code
  | .walletNotSweepable .. => "WALLET_NOT_SWEEPABLE"
  | .mainOutputMismatch => "MAIN_UTXO_MISMATCH"
  | .unexpectedMainOutput => "UNEXPECTED_MAIN_UTXO"
  | .mainOutputNotSpent => "MAIN_UTXO_NOT_SPENT"
  | .outputCount _ => "SWEEP_OUTPUT_COUNT"
  | .wrongWallet .. => "SWEEP_OUTPUT_WALLET_MISMATCH"
  | .unknownInput _ => "UNKNOWN_SWEEP_INPUT"
  | .alreadySwept _ => "DEPOSIT_ALREADY_SWEPT"
  | .depositOfOtherWallet .. => "DEPOSIT_WALLET_MISMATCH"
  | .depositOfOtherVault .. => "VAULT_MISMATCH"
  | .noDeposits => "SWEEP_WITHOUT_DEPOSITS"
  | .outputExceedsInputs .. => "OUTPUT_EXCEEDS_INPUTS"
  | .feeExceedsCap .. => "SWEEP_FEE_EXCEEDS_CAP"
  | .depositExhausted .. => "DEPOSIT_EXHAUSTED_BY_FEES"
  | .valueOverflow => "VALUE_OVERFLOW"

/-- The category of a fault. -/
def category : SweepFault → Category
  | .vector fault => fault.category
  | .proof fault => fault.category
  | .reservation fault => fault.category
  | .unknownInput _ => .unknownInput
  | .outputCount _ | .wrongWallet .. | .outputExceedsInputs .. => .malformed
  | .valueOverflow => .invariant
  | _ => .precondition

end SweepFault

namespace State

/-! ## §3. Wallet and output. -/

/-- Checks the stage of the wallet, and the claimed main output against the one it keeps. -/
def checkWallet (s : State) (wallet : PubKeyHash) (claimed : Option MainOutput) :
    Except SweepFault Unit :=
  if !(s.walletState wallet).acceptsSweeps then
    .error (.walletNotSweepable wallet (s.walletState wallet))
  else
    match (s.wallets.get? wallet).bind (·.mainOutputHash), claimed with
    | some kept, some output => if output.hash = kept then .ok () else .error .mainOutputMismatch
    | some _, none => .error .mainOutputMismatch
    | none, some _ => .error .unexpectedMainOutput
    | none, none => .ok ()

/-- The value of the one output of a sweep, which has to pay the wallet. -/
def sweptValue (tx : Tx) (wallet : PubKeyHash) : Except SweepFault UInt64 := do
  let count ← (Vector.outputCount tx.outputVector).mapError .vector
  if count ≠ 1 then throw (.outputCount count)
  let output ← (Vector.outputAt tx.outputVector 0).mapError .vector
  let got ← (Vector.outputKeyHash output).mapError .vector
  if got ≠ wallet then throw (.wrongWallet wallet got)
  (Vector.outputValue output).mapError .vector

/-! ## §4. Inputs. -/

/-- What has been found among the inputs so far. -/
structure Walk where
  /-- The keys of the deposits, in the order of the inputs. -/
  swept : List DepositKey := []
  mainSpent : Bool := false
  /-- What the inputs are worth. -/
  value : UInt64 := 0
deriving DecidableEq, Repr

/-- Adds what an input is worth. -/
def Walk.add (walk : Walk) (amount : UInt64) : Except SweepFault UInt64 :=
  match Word.add? walk.value amount with
  | some value => .ok value
  | none => .error .valueOverflow

/-- Takes the input that spends a deposit. -/
def takeDeposit (request : SweepRequest) (walk : Walk) (key : DepositKey) (deposit : Deposit) :
    Except SweepFault Walk := do
  -- A deposit that two inputs name is as bad as one that an earlier sweep has spent.
  if deposit.isSwept || walk.swept.contains key then throw (.alreadySwept key)
  if deposit.walletKeyHash ≠ request.walletKeyHash then
    throw (.depositOfOtherWallet key deposit.walletKeyHash)
  if deposit.vault ≠ request.vault then
    throw (.depositOfOtherVault key deposit.vault request.vault)
  return { walk with swept := walk.swept ++ [key], value := ← walk.add deposit.amount }

/-- Takes an input that spends no deposit: the claimed main output, once, or a stranger. -/
def takeMainOutput (request : SweepRequest) (walk : Walk) (spent : Outpoint) :
    Except SweepFault Walk := do
  match request.mainOutput with
  | some output =>
    if !walk.mainSpent && output.outpoint == spent then
      return { walk with mainSpent := true, value := ← walk.add output.value }
    else throw (.unknownInput spent)
  | none => throw (.unknownInput spent)

/-- Takes an input; what is a deposit is taken as one. -/
def takeInput (s : State) (request : SweepRequest) (walk : Walk) (spent : Outpoint) :
    Except SweepFault Walk :=
  match s.deposits.get? spent.key with
  | some deposit => takeDeposit request walk spent.key deposit
  | none => takeMainOutput request walk spent

/-- Reads and takes `count` inputs from an offset on; gives what was found and where they end. -/
def walkInputs (s : State) (request : SweepRequest) :
    Nat → Nat → Walk → Except SweepFault (Walk × Nat)
  | 0, offset, walk => .ok (walk, offset)
  | count + 1, offset, walk => do
    let input ← (Vector.inputAt request.tx.inputVector offset).mapError .vector
    let walk ← s.takeInput request walk input.spent
    walkInputs s request count (offset + input.length) walk

/-- Takes all inputs of a sweep. -/
def takeInputs (s : State) (request : SweepRequest) : Except SweepFault Walk := do
  let vector := request.tx.inputVector
  let count ← (Vector.compactSize vector).mapError .vector
  let (walk, stop) ← s.walkInputs request count.value count.width {}
  -- The inputs have to fill the vector, else its bytes would not be the transaction's.
  if stop ≠ vector.length then throw (.vector (.trailing (vector.length - stop)))
  if request.mainOutput.isSome && !walk.mainSpent then throw .mainOutputNotSpent
  return walk

/-! ## §5. Deposits. -/

/-- Takes a reservation's share of the fee off what it mints, and makes it active. -/
def finalize (key : DepositKey) (r : Reservation) (share : UInt64) :
    Except ReservationFault Reservation := do
  if r.status ≠ .revealed then throw (.alreadyFinalized key r.status)
  if !r.isBalanced then throw (.unbalanced key)
  if r.minted ≤ share then throw (.sweepFeeExhausts key r.minted share)
  return { r with minted := r.minted - share, sweepFee := share, status := .active }

/-- A sweep half settled. -/
structure Progress where
  state : State
  events : List Event := []
  settled : List Settlement := []

/-- Settles a reserved deposit. -/
def settleReserved (p : Progress) (deposit : Deposit) (key : DepositKey) (share : UInt64) :
    Except SweepFault (Progress × Settlement) := do
  match p.state.reservations.get? key with
  | none => throw (.reservation (.notFound key))
  | some reservation =>
    let final ← (finalize key reservation share).mapError .reservation
    let state := { p.state with reservations := p.state.reservations.insert key final }
    return ({ p with
        state
        events := p.events ++ [.reservationActivated key share final.minted] },
      ⟨key, deposit.depositor, final.minted, share, final.treasuryFee, final.liquidationBonus,
        true⟩)

/-- Settles an ordinary deposit. -/
def settleOrdinary (deposit : Deposit) (key : DepositKey) (share : UInt64) :
    Except SweepFault Settlement := do
  match Word.add? deposit.treasuryFee share with
  | none => throw .valueOverflow
  | some fees =>
    if deposit.amount ≤ fees then throw (.depositExhausted key deposit.amount fees)
    return ⟨key, deposit.depositor, deposit.amount - fees, share, deposit.treasuryFee, 0, false⟩

/-- Settles one deposit: it is marked as swept, credited, and reported. -/
def settleOne (now : UInt64) (sweepTxHash : TxHash) (p : Progress) (key : DepositKey)
    (share : UInt64) : Except SweepFault Progress := do
  match p.state.deposits.get? key with
  | none => throw (.reservation (.notFound key))
  | some deposit =>
    let deposit := { deposit with sweptAt := now }
    let state := { p.state with deposits := p.state.deposits.insert key deposit }
    let p := { p with state }
    -- What a reservation mints was fixed when it was made; else the amount bears all fees.
    let (p, settled) ←
      if deposit.isReserved then settleReserved p deposit key share
      else (settleOrdinary deposit key share).map fun settled => (p, settled)
    let event := Event.depositSettled key settled.depositor sweepTxHash settled.credited share
      settled.treasuryFee
    return { p with events := p.events ++ [event], settled := p.settled ++ [settled] }

/-- Settles deposits from a place of `count` on. -/
def settleAll (now : UInt64) (sweepTxHash : TxHash) (split : FeeSplit) (count : Nat) :
    Nat → Progress → List DepositKey → Except SweepFault Progress
  | _, p, [] => .ok p
  | place, p, key :: rest => do
    let p ← settleOne now sweepTxHash p key (split.share place count)
    settleAll now sweepTxHash split count (place + 1) p rest

/-! ## §6. Credits. -/

/-- The sum of words; sums that could leave the range do not arise from a settled sweep. -/
def total (amounts : List UInt64) : UInt64 := amounts.foldl (· + ·) 0

/-- The ledger operations of a settled sweep: a trusted vault is credited for all deposits, else
each depositor for its own; the treasury's fees and the bonus pool follow. -/
def credits (s : State) (params : Params) (vault : Option Identity) (settled : List Settlement) :
    List LedgerOp :=
  let fees := total (settled.map (·.treasuryFee))
  let bonuses := total (settled.map (·.liquidationBonus))
  let single := LedgerOp.increaseBalances (settled.map (·.depositor)) (settled.map (·.credited))
  let main :=
    match vault with
    | some vault =>
      if s.trusts vault then .increaseBalance vault (total (settled.map (·.credited))) else single
    | none => single
  [main] ++ (if 0 < fees then [.increaseBalance params.treasury fees] else [])
    ++ (if 0 < bonuses then [.increaseBalance params.bridge bonuses] else [])

/-! ## §7. The command. -/

/-- The split of the fee of a sweep, within the cap on a deposit's share. -/
def sweepSplit (params : DepositParams) (walk : Walk) (output : UInt64) :
    Except SweepFault (UInt64 × FeeSplit) := do
  match Word.sub? walk.value output with
  | none => throw (.outputExceedsInputs walk.value output)
  | some fee =>
    match splitFee? fee walk.swept.length with
    | none => throw .noDeposits
    | some split =>
      -- One cap holds for all, so the largest share decides.
      if params.maxFeeShare < split.maxShare then
        throw (.feeExceedsCap split.maxShare params.maxFeeShare)
      return (fee, split)

/-- Settles a sweep whose transaction has been proven to have the hash. -/
def settleSweep (s : State) (params : Params) (request : SweepRequest) (sweepTxHash : TxHash)
    (now : UInt64) : Except SweepFault (Transition SweepOutcome) := do
  let wallet := request.walletKeyHash
  s.checkWallet wallet request.mainOutput
  let value ← sweptValue request.tx wallet
  let walk ← s.takeInputs request
  let (fee, split) ← sweepSplit params.deposit walk value
  let count := walk.swept.length
  let p ← settleAll now sweepTxHash split count 0 { state := s } walk.swept
  -- The one output of the sweep is what the wallet holds from now on.
  let mainOutput : MainOutput := ⟨sweepTxHash, 0, value⟩
  let wallets := p.state.wallets.modify wallet fun row =>
    { row with mainOutputHash := some mainOutput.hash }
  return {
    state := { p.state with wallets }
    events := p.events ++ [
      .depositsSwept wallet sweepTxHash (UInt64.ofNat p.settled.length) fee,
      .mainOutputUpdated wallet mainOutput]
    ledgerOps := s.credits params request.vault p.settled
    output := ⟨sweepTxHash, mainOutput, fee, p.settled⟩ }

end State

end Custody
