/-
  Custody.Deposit
  ────────────────────────────────
  **DEPOSITS.**

  A deposit is a funding output that its owner has revealed.  It is kept under
  the key of its outpoint and is swept once; the time of the sweep is zero
  until then.  A deposit that backs a reservation carries the reservation tag.
-/
import Custody.Tx

namespace Custody

/-! ## §1. Deposits. -/

/-- A revealed deposit. -/
structure Deposit where
  key : DepositKey
  fundingTxHash : TxHash
  fundingOutputIndex : UInt32
  /-- The owner of what is credited. -/
  depositor : Identity
  /-- The wallet that the deposit was revealed to. -/
  walletKeyHash : PubKeyHash
  /-- Satoshis of the funding output. -/
  amount : UInt64
  revealedAt : UInt64
  /-- Zero until the deposit is swept. -/
  sweptAt : UInt64
  /-- Where the credit goes instead, while that vault is trusted. -/
  vault : Option Identity
  /-- Satoshis owed to the treasury. -/
  treasuryFee : UInt64
  extraData : Option ExtraData
deriving DecidableEq, Repr

/-- Whether a deposit has been swept. -/
inductive DepositStatus where
  | revealed
  | swept
deriving DecidableEq, Repr

namespace DepositStatus

/-- The name of a status. -/
def name : DepositStatus → String
  | revealed => "revealed"
  | swept => "swept"

/-- The status of a name. -/
def ofName? (text : String) : Option DepositStatus :=
  [revealed, swept].find? fun status => status.name == text

instance : ToJson DepositStatus := ⟨fun status => .text status.name⟩
instance : FromJson DepositStatus where
  fromJson? j := j.symbol?.bind ofName?

end DepositStatus

namespace Deposit

/-- Whether the deposit has been swept. -/
def isSwept (d : Deposit) : Bool := d.sweptAt != 0

/-- Whether the deposit backs a reservation. -/
def isReserved (d : Deposit) : Bool := d.extraData == some reservationTag

/-- The status of a deposit. -/
def status (d : Deposit) : DepositStatus := if d.isSwept then .swept else .revealed

/-- The outpoint of the funding output. -/
def outpoint (d : Deposit) : Outpoint := ⟨d.fundingTxHash, d.fundingOutputIndex⟩

/-! ## §2. JSON. -/

/-- The fields of a deposit in order. -/
def fieldNames : List String := [
  "key", "funding_tx_hash", "funding_output_index", "depositor", "wallet_pubkey_hash", "amount",
  "revealed_at", "swept_at", "vault", "treasury_fee", "extra_data"]

instance : ToJson Deposit where
  toJson d := .object [
    ("key", toJson d.key),
    ("funding_tx_hash", toJson d.fundingTxHash),
    ("funding_output_index", toJson d.fundingOutputIndex),
    ("depositor", toJson d.depositor),
    ("wallet_pubkey_hash", toJson d.walletKeyHash),
    ("amount", toJson d.amount),
    ("revealed_at", toJson d.revealedAt),
    ("swept_at", toJson d.sweptAt),
    ("vault", toJson d.vault),
    ("treasury_fee", toJson d.treasuryFee),
    ("extra_data", toJson d.extraData)]

instance : FromJson Deposit where
  fromJson? j := do
    let r ← j.record? fieldNames 0
    return {
      key := ← r.field "key"
      fundingTxHash := ← r.field "funding_tx_hash"
      fundingOutputIndex := ← r.field "funding_output_index"
      depositor := ← r.field "depositor"
      walletKeyHash := ← r.field "wallet_pubkey_hash"
      amount := ← r.field "amount"
      revealedAt := ← r.field "revealed_at"
      sweptAt := ← r.field "swept_at"
      vault := ← r.field? "vault"
      treasuryFee := ← r.field "treasury_fee"
      extraData := ← r.field? "extra_data" }

/-- What a client is shown of a deposit. -/
def view (d : Deposit) : Json := .object [
  ("key", toJson d.key),
  ("status", toJson d.status),
  ("depositor", toJson d.depositor),
  ("amount", toJson d.amount),
  ("treasury_fee", toJson d.treasuryFee),
  ("vault", toJson d.vault),
  ("reserved", toJson d.isReserved),
  ("revealed_at", toJson d.revealedAt),
  ("swept_at", toJson d.sweptAt)]

end Deposit

end Custody
