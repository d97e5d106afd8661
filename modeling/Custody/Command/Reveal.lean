/-
  Custody.Command.Reveal
  ────────────────────────────────
  **A DEPOSIT IS REVEALED.**

  The depositor names a funding output; the amount is read from the funding
  transaction itself.  The wallet has to be live, a vault has to be trusted,
  the output must not have been revealed before, and it must be worth more
  than dust.  The mark of reserved deposits is not for depositors to set.
-/
import Custody.Params
import Custody.State

namespace Custody

/-! ## §1. Requests. -/

/-- A funding output and where it is to go. -/
structure Funding where
  tx : Tx
  outputIndex : UInt32
  /-- The wallet that the output pays. -/
  walletKeyHash : PubKeyHash
  vault : Option Identity
deriving DecidableEq, Repr

namespace Funding

/-- The outpoint of a funding output. -/
def outpoint (f : Funding) : Outpoint := ⟨f.tx.hash, f.outputIndex⟩

/-- The key that the deposit will be kept under. -/
def key (f : Funding) : DepositKey := f.outpoint.key

/-- The names of the fields, which stand among those of a request. -/
def fieldNames : List String :=
  ["funding_tx", "funding_output_index", "wallet_pubkey_hash", "vault"]

/-- The fields of a funding output. -/
def fields (f : Funding) : List (String × Json) := [
  ("funding_tx", toJson f.tx),
  ("funding_output_index", toJson f.outputIndex),
  ("wallet_pubkey_hash", toJson f.walletKeyHash),
  ("vault", toJson f.vault)]

/-- Reads a funding output from among the fields of a request. -/
def ofRecord (r : Json.Record) : Option Funding := do
  return {
    tx := ← r.field "funding_tx"
    outputIndex := ← r.field "funding_output_index"
    walletKeyHash := ← r.field "wallet_pubkey_hash"
    vault := ← r.field? "vault" }

end Funding

instance : ToJson Funding := ⟨fun f => .object f.fields⟩
instance : FromJson Funding where
  fromJson? j := do Funding.ofRecord (← j.record? Funding.fieldNames 1)

/-- A request to reveal a deposit. -/
structure RevealRequest where
  funding : Funding
  extraData : Option ExtraData
deriving DecidableEq, Repr

instance : ToJson RevealRequest where
  toJson r := .object (r.funding.fields ++ [("extra_data", toJson r.extraData)])

instance : FromJson RevealRequest where
  fromJson? j := do
    let r ← j.object? (Funding.fieldNames ++ ["extra_data"])
    return { funding := ← Funding.ofRecord r, extraData := ← r.field? "extra_data" }
  whole := true

/-! ## §2. Faults. -/

/-- Why a deposit cannot be revealed. -/
inductive RevealFault where
  | vector (fault : VectorFault)
  | walletNotLive (wallet : PubKeyHash) (state : WalletState)
  | untrustedVault (vault : Identity)
  | reservedExtraData
  | alreadyRevealed (key : DepositKey)
  | belowDust (amount threshold : UInt64)
deriving DecidableEq, Repr

namespace RevealFault

/-- The wording of a fault. -/
def message : RevealFault → String
  | .vector fault => s!"malformed funding transaction: {fault.message}"
  | .walletNotLive wallet state => s!"wallet {wallet} is {state}, deposits need a live wallet"
  | .untrustedVault vault => s!"vault {vault} is not trusted"
  | .reservedExtraData => "extra data value is reserved for reservation-backed deposits"
  | .alreadyRevealed key => s!"deposit {key} already revealed"
  | .belowDust amount threshold => s!"deposit amount {amount} below dust threshold {threshold}"

/-- The code of a fault. -/
def code : RevealFault → String
  | .vector fault => fault.code
  | .walletNotLive .. => "WALLET_NOT_LIVE"
  | .untrustedVault _ => "VAULT_NOT_TRUSTED"
  | .reservedExtraData => "RESERVED_EXTRA_DATA"
  | .alreadyRevealed _ => "DEPOSIT_ALREADY_REVEALED"
  | .belowDust .. => "DEPOSIT_BELOW_DUST"

/-- The category of a fault. -/
def category : RevealFault → Category
  | .vector fault => fault.category
  | _ => .precondition

end RevealFault

namespace State

/-! ## §3. The deposit. -/

/-- What a deposit owes the treasury: nothing if it is reserved or if there is no fee. -/
def treasuryFee (params : DepositParams) (extraData : Option ExtraData) (amount : UInt64) :
    UInt64 :=
  if extraData = some reservationTag ∨ params.treasuryFeeDivisor = 0 then 0
  else amount / params.treasuryFeeDivisor

/-- The value of a funding output. -/
def fundedAmount (funding : Funding) : Except VectorFault UInt64 := do
  let output ← Vector.outputAt funding.tx.outputVector funding.outputIndex.toNat
  Vector.outputValue output

/-- The deposit of a funding output, once nothing speaks against it. -/
def buildDeposit (s : State) (params : DepositParams) (depositor : Identity) (funding : Funding)
    (extraData : Option ExtraData) (now : UInt64) : Except RevealFault Deposit := do
  let wallet := funding.walletKeyHash
  if !(s.walletState wallet).acceptsDeposits then
    throw (.walletNotLive wallet (s.walletState wallet))
  match funding.vault with
  | some vault => if !s.trusts vault then throw (.untrustedVault vault)
  | none => pure ()
  let key := funding.key
  if s.deposits.contains key then throw (.alreadyRevealed key)
  let amount ← (fundedAmount funding).mapError .vector
  if amount < params.dustThreshold then throw (.belowDust amount params.dustThreshold)
  return {
    key
    fundingTxHash := funding.tx.hash
    fundingOutputIndex := funding.outputIndex
    depositor
    walletKeyHash := wallet
    amount
    revealedAt := now
    sweptAt := 0
    vault := funding.vault
    treasuryFee := treasuryFee params extraData amount
    extraData }

end State

/-- The event of a revealed deposit. -/
def Deposit.revealed (d : Deposit) : Event :=
  .depositRevealed d.key d.fundingTxHash d.fundingOutputIndex d.depositor d.walletKeyHash d.amount
    d.vault d.treasuryFee d.isReserved

namespace State

/-! ## §4. The command. -/

/-- Reveals an ordinary deposit. -/
def reveal (s : State) (params : Params) (depositor : Identity) (request : RevealRequest)
    (now : UInt64) : Except RevealFault (Transition DepositKey) := do
  if request.extraData = some reservationTag then throw .reservedExtraData
  let deposit ← s.buildDeposit params.deposit depositor request.funding request.extraData now
  return {
    state := { s with deposits := s.deposits.insert deposit.key deposit }
    events := [deposit.revealed]
    ledgerOps := []
    output := deposit.key }

end State

end Custody
