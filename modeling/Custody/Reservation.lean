/-
  Custody.Reservation
  ────────────────────────────────
  **RESERVATIONS.**

  A reservation promises one deposit to a redemption address for a bounded
  time.  It is revealed, becomes active when its deposit is swept, and ends
  once: redeemed by its depositor up to the second of its expiry, or
  liquidated by anybody after it.

  What is minted, the treasury's fee, the liquidation bonus and the share of
  the sweep's fee always add up to the reserved amount.

  Main fact: `isBalanced_iff` — the check of that identity is exact.
-/
import Custody.RedemptionAddress
import Custody.Tx

namespace Custody

/-! ## §1. Status. -/

/-- The stages of a reservation. -/
inductive ReservationStatus where
  | revealed
  | active
  | redeemed
  | liquidated
deriving DecidableEq, Repr, Inhabited

namespace ReservationStatus

/-- Every stage. -/
def all : List ReservationStatus := [revealed, active, redeemed, liquidated]

/-- The name of a stage. -/
def name : ReservationStatus → String
  | revealed => "revealed"
  | active => "active"
  | redeemed => "redeemed"
  | liquidated => "liquidated"

instance : ToString ReservationStatus := ⟨name⟩

/-- The stage of a name. -/
def ofName? (text : String) : Option ReservationStatus :=
  all.find? fun status => status.name == text

/-- Why a text is no stage. -/
def unknownName (text : String) : String := s!"unknown reservation status: {text}"

/-- A stage is read back from its name. -/
theorem ofName?_name (status : ReservationStatus) : ofName? status.name = some status := by
  cases status <;> decide

instance : ToJson ReservationStatus := ⟨fun status => .text status.name⟩
instance : FromJson ReservationStatus where
  fromJson? j := j.symbol?.bind ofName?

end ReservationStatus

/-! ## §2. Reservations. -/

/-- A reserved deposit. -/
structure Reservation where
  /-- The key of the deposit that is reserved. -/
  key : DepositKey
  depositor : Identity
  /-- Satoshis of the reserved output. -/
  amount : UInt64
  /-- What the depositor is credited; the sweep takes its share from it. -/
  minted : UInt64
  /-- The storage fee, owed to the treasury. -/
  treasuryFee : UInt64
  liquidationBonus : UInt64
  /-- The share of the sweep's fee; zero until the sweep. -/
  sweepFee : UInt64
  reservedAt : UInt64
  expiry : UInt64
  address : RedemptionAddress
  walletKeyHash : PubKeyHash
  fundingTxHash : TxHash
  fundingOutputIndex : UInt32
  status : ReservationStatus
deriving DecidableEq, Repr

namespace Reservation

/-- Whether the reservation can be closed. -/
def isActive (r : Reservation) : Bool := r.status == .active

/-- Whether the parts of a reservation add up to its amount. -/
def isBalanced (r : Reservation) : Bool :=
  ((Word.add? r.minted r.treasuryFee).bind fun sum =>
    (Word.add? sum r.liquidationBonus).bind fun sum => Word.add? sum r.sweepFee)
    == some r.amount

/-- A reservation adds up exactly if its parts are its amount. -/
theorem isBalanced_iff (r : Reservation) :
    r.isBalanced = true ↔ r.minted.toNat + r.treasuryFee.toNat + r.liquidationBonus.toNat
      + r.sweepFee.toNat = r.amount.toNat := by
  simp only [isBalanced, beq_iff_eq, Option.bind_eq_some_iff, Word.add?_eq_some_iff]
  constructor
  · rintro ⟨s, hs, t, ht, hsum⟩
    omega
  · intro h
    have bound := r.amount.toNat_lt
    refine ⟨UInt64.ofNat (r.minted.toNat + r.treasuryFee.toNat), ?_,
      UInt64.ofNat (r.minted.toNat + r.treasuryFee.toNat + r.liquidationBonus.toNat), ?_, ?_⟩
    all_goals
      repeat rw [UInt64.toNat_ofNat_of_lt' (by show _ < 2 ^ 64; omega)]
    exact h

/-! ## §3. JSON. -/

/-- The fields of a reservation in order. -/
def fieldNames : List String := [
  "utxo_hash", "depositor", "btc_amount", "tbtc_minted", "treasury_fee", "liquidation_bonus",
  "sweep_fee", "deposit_timestamp", "expiry_timestamp", "btc_redemption_address",
  "wallet_pubkey_hash", "funding_tx_hash", "funding_output_index", "status"]

instance : ToJson Reservation where
  toJson r := .object [
    ("utxo_hash", toJson r.key),
    ("depositor", toJson r.depositor),
    ("btc_amount", toJson r.amount),
    ("tbtc_minted", toJson r.minted),
    ("treasury_fee", toJson r.treasuryFee),
    ("liquidation_bonus", toJson r.liquidationBonus),
    ("sweep_fee", toJson r.sweepFee),
    ("deposit_timestamp", toJson r.reservedAt),
    ("expiry_timestamp", toJson r.expiry),
    ("btc_redemption_address", toJson r.address),
    ("wallet_pubkey_hash", toJson r.walletKeyHash),
    ("funding_tx_hash", toJson r.fundingTxHash),
    ("funding_output_index", toJson r.fundingOutputIndex),
    ("status", toJson r.status)]

instance : FromJson Reservation where
  fromJson? j := do
    let r ← j.record? fieldNames 0
    return {
      key := ← r.field "utxo_hash"
      depositor := ← r.field "depositor"
      amount := ← r.field "btc_amount"
      minted := ← r.field "tbtc_minted"
      treasuryFee := ← r.field "treasury_fee"
      liquidationBonus := ← r.field "liquidation_bonus"
      sweepFee := ← r.field "sweep_fee"
      reservedAt := ← r.field "deposit_timestamp"
      expiry := ← r.field "expiry_timestamp"
      address := ← r.field "btc_redemption_address"
      walletKeyHash := ← r.field "wallet_pubkey_hash"
      fundingTxHash := ← r.field "funding_tx_hash"
      fundingOutputIndex := ← r.field "funding_output_index"
      status := ← r.field "status" }

/-- What a client is shown of a reservation. -/
def view (r : Reservation) : Json := .object [
  ("utxo_hash", toJson r.key),
  ("status", toJson r.status),
  ("is_active", toJson r.isActive),
  ("depositor", toJson r.depositor),
  ("btc_amount", toJson r.amount),
  ("tbtc_minted", toJson r.minted),
  ("treasury_fee", toJson r.treasuryFee),
  ("liquidation_bonus", toJson r.liquidationBonus),
  ("deposit_timestamp", toJson r.reservedAt),
  ("expiry_timestamp", toJson r.expiry),
  ("btc_redemption_address", toJson r.address)]

end Reservation

/-! ## §4. Redemptions that a wallet owes. -/

/-- What a wallet has to pay for a redeemed reservation. -/
structure PriorityRedemption where
  key : DepositKey
  walletKeyHash : PubKeyHash
  redeemer : Identity
  address : RedemptionAddress
  /-- The script that pays the address, in hexadecimal. -/
  outputScript : String
  /-- Satoshis owed before fees. -/
  requestedAmount : UInt64
  /-- The most that the wallet may take off. -/
  feeAllowance : UInt64
  requestedAt : UInt64
deriving DecidableEq, Repr

namespace PriorityRedemption

/-- The fields of a redemption in order. -/
def fieldNames : List String := [
  "utxo_hash", "wallet_pubkey_hash", "redeemer", "redemption_address", "output_script",
  "requested_amount", "fee_allowance", "requested_at"]

instance : ToJson PriorityRedemption where
  toJson p := .object [
    ("utxo_hash", toJson p.key),
    ("wallet_pubkey_hash", toJson p.walletKeyHash),
    ("redeemer", toJson p.redeemer),
    ("redemption_address", toJson p.address),
    ("output_script", toJson p.outputScript),
    ("requested_amount", toJson p.requestedAmount),
    ("fee_allowance", toJson p.feeAllowance),
    ("requested_at", toJson p.requestedAt)]

instance : FromJson PriorityRedemption where
  fromJson? j := do
    let r ← j.record? fieldNames 0
    return {
      key := ← r.field "utxo_hash"
      walletKeyHash := ← r.field "wallet_pubkey_hash"
      redeemer := ← r.field "redeemer"
      address := ← r.field "redemption_address"
      outputScript := ← r.field "output_script"
      requestedAmount := ← r.field "requested_amount"
      feeAllowance := ← r.field "fee_allowance"
      requestedAt := ← r.field "requested_at" }

end PriorityRedemption

end Custody
