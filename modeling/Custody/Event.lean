/-
  Custody.Event
  ────────────────────────────────
  **WHAT COMMITTED COMMANDS REPORT.**

  Every committed command reports one or more events.  An event is written as
  a union tagged by the name of its variant; a logged event has its number and
  its time in the same object.

  Main facts:
    * `kind_mem_kinds`  — the kind of every event is in the list of kinds;
    * `tagName_eq_kind` — the name that a variant is written under is the kind
                          of its events;
    * `toJson_kind`     — the tag that an event is written with is its kind.
-/
import Custody.Wallet

namespace Custody

/-! ## §1. Events. -/

/-- An event of a committed command. -/
inductive Event where
  | depositRevealed (key : DepositKey) (fundingTxHash : TxHash) (fundingOutputIndex : UInt32)
      (depositor : Identity) (walletKeyHash : PubKeyHash) (amount : UInt64)
      (vault : Option Identity) (treasuryFee : UInt64) (reserved : Bool)
  /-- One deposit was consumed by a sweep; `credited` went to its depositor or its vault. -/
  | depositSettled (key : DepositKey) (depositor : Identity) (sweepTxHash : TxHash)
      (credited feeShare treasuryFee : UInt64)
  /-- A sweep was accepted. -/
  | depositsSwept (walletKeyHash : PubKeyHash) (sweepTxHash : TxHash)
      (depositCount totalFee : UInt64)
  | mainOutputUpdated (walletKeyHash : PubKeyHash) (mainOutput : MainOutput)
  | reservationCreated (key : DepositKey) (depositor : Identity)
      (amount minted treasuryFee liquidationBonus expiry : UInt64)
  | reservationActivated (key : DepositKey) (sweepFee minted : UInt64)
  | reservationRedeemed (key : DepositKey) (redeemer : Identity) (burned liquidationBonus : UInt64)
  | reservationLiquidated (key : DepositKey) (liquidator : Identity) (liquidationBonus : UInt64)
  | priorityRedemptionRequested (key : DepositKey) (walletKeyHash : PubKeyHash)
      (requestedAmount feeAllowance : UInt64)
  | walletRegistered (walletKeyHash : PubKeyHash) (state : WalletState)
  | walletStateChanged (walletKeyHash : PubKeyHash) (before after : WalletState)
  | vaultStatusUpdated (vault : Identity) (trusted : Bool)
deriving DecidableEq, Repr

namespace Event

/-- The kinds of events, in the order in which the variants are numbered. -/
def kinds : List String := [
  "deposit_revealed", "deposit_settled", "deposits_swept", "main_utxo_updated",
  "reservation_created", "reservation_activated", "reservation_redeemed",
  "reservation_liquidated", "priority_redemption_requested", "wallet_registered",
  "wallet_state_changed", "vault_status_updated"]

/-- The kind of an event. -/
def kind : Event → String
  | depositRevealed .. => "deposit_revealed"
  | depositSettled .. => "deposit_settled"
  | depositsSwept .. => "deposits_swept"
  | mainOutputUpdated .. => "main_utxo_updated"
  | reservationCreated .. => "reservation_created"
  | reservationActivated .. => "reservation_activated"
  | reservationRedeemed .. => "reservation_redeemed"
  | reservationLiquidated .. => "reservation_liquidated"
  | priorityRedemptionRequested .. => "priority_redemption_requested"
  | walletRegistered .. => "wallet_registered"
  | walletStateChanged .. => "wallet_state_changed"
  | vaultStatusUpdated .. => "vault_status_updated"

/-- The kind of every event is in the list. -/
theorem kind_mem_kinds (e : Event) : e.kind ∈ kinds := by
  cases e <;> simp [kind, kinds]

/-! ## §2. Writing. -/

/-- The fields of an event, without its kind. -/
def fields : Event → List (String × Json)
  | depositRevealed key txHash index depositor wallet amount vault fee reserved => [
      ("key", toJson key),
      ("funding_tx_hash", toJson txHash),
      ("funding_output_index", toJson index),
      ("depositor", toJson depositor),
      ("wallet_pubkey_hash", toJson wallet),
      ("amount", toJson amount),
      ("vault", toJson vault),
      ("treasury_fee", toJson fee),
      ("reserved", toJson reserved)]
  | depositSettled key depositor txHash credited share fee => [
      ("key", toJson key),
      ("depositor", toJson depositor),
      ("sweep_tx_hash", toJson txHash),
      ("credited", toJson credited),
      ("fee_share", toJson share),
      ("treasury_fee", toJson fee)]
  | depositsSwept wallet txHash count fee => [
      ("wallet_pubkey_hash", toJson wallet),
      ("sweep_tx_hash", toJson txHash),
      ("deposit_count", toJson count),
      ("total_fee", toJson fee)]
  | mainOutputUpdated wallet output => [
      ("wallet_pubkey_hash", toJson wallet),
      ("main_utxo", toJson output)]
  | reservationCreated key depositor amount minted fee bonus expiry => [
      ("utxo_hash", toJson key),
      ("depositor", toJson depositor),
      ("btc_amount", toJson amount),
      ("tbtc_minted", toJson minted),
      ("treasury_fee", toJson fee),
      ("liquidation_bonus", toJson bonus),
      ("expiry_timestamp", toJson expiry)]
  | reservationActivated key fee minted => [
      ("utxo_hash", toJson key),
      ("sweep_fee", toJson fee),
      ("tbtc_minted", toJson minted)]
  | reservationRedeemed key redeemer burned bonus => [
      ("utxo_hash", toJson key),
      ("redeemer", toJson redeemer),
      ("tbtc_burned", toJson burned),
      ("liquidation_bonus", toJson bonus)]
  | reservationLiquidated key liquidator bonus => [
      ("utxo_hash", toJson key),
      ("liquidator", toJson liquidator),
      ("liquidation_bonus", toJson bonus)]
  | priorityRedemptionRequested key wallet amount allowance => [
      ("utxo_hash", toJson key),
      ("wallet_pubkey_hash", toJson wallet),
      ("requested_amount", toJson amount),
      ("fee_allowance", toJson allowance)]
  | walletRegistered wallet state => [
      ("wallet_pubkey_hash", toJson wallet),
      ("state", toJson state)]
  | walletStateChanged wallet before after => [
      ("wallet_pubkey_hash", toJson wallet),
      ("from", toJson before),
      ("to", toJson after)]
  | vaultStatusUpdated vault trusted => [
      ("vault", toJson vault),
      ("trusted", toJson trusted)]

/-- The variant of the union that an event is of. -/
def variant : Event → String
  | depositRevealed .. => "DepositRevealed"
  | depositSettled .. => "DepositSettled"
  | depositsSwept .. => "DepositsSwept"
  | mainOutputUpdated .. => "MainUtxoUpdated"
  | reservationCreated .. => "ReservationCreated"
  | reservationActivated .. => "ReservationActivated"
  | reservationRedeemed .. => "ReservationRedeemed"
  | reservationLiquidated .. => "ReservationLiquidated"
  | priorityRedemptionRequested .. => "PriorityRedemptionRequested"
  | walletRegistered .. => "WalletRegistered"
  | walletStateChanged .. => "WalletStateChanged"
  | vaultStatusUpdated .. => "VaultStatusUpdated"

/-- The name that the variant of an event is written under. -/
def tagName (e : Event) : String := Json.snakeCase e.variant

/-- **The name that a variant is written under is the kind of its events.** -/
theorem tagName_eq_kind (e : Event) : e.tagName = e.kind := by
  cases e <;> simp [tagName, variant, Json.snakeCase, kind]

/-- The member that the variant of an event is named by. -/
def tag : String := "type"

instance : ToJson Event where
  toJson e := .object ((tag, .text e.tagName) :: e.fields)

/-- The tag that an event is written with is its kind. -/
theorem toJson_kind (e : Event) : (toJson e).member? tag = some (.text e.kind) := by
  rw [← tagName_eq_kind]
  simp [toJson, Json.member?, Json.lookup]

/-! ## §3. Reading. -/

/-- Reads the event of a kind from its fields. -/
def ofFields (kind : String) (j : Json) : Option Event :=
  match kind with
  | "deposit_revealed" => do
    let r ← j.record? [
      "key", "funding_tx_hash", "funding_output_index", "depositor", "wallet_pubkey_hash",
      "amount", "vault", "treasury_fee", "reserved"] 0
    return .depositRevealed (← r.field "key") (← r.field "funding_tx_hash")
      (← r.field "funding_output_index") (← r.field "depositor")
      (← r.field "wallet_pubkey_hash") (← r.field "amount") (← r.field? "vault")
      (← r.field "treasury_fee") (← r.field "reserved")
  | "deposit_settled" => do
    let r ← j.record? [
      "key", "depositor", "sweep_tx_hash", "credited", "fee_share", "treasury_fee"] 0
    return .depositSettled (← r.field "key") (← r.field "depositor") (← r.field "sweep_tx_hash")
      (← r.field "credited") (← r.field "fee_share") (← r.field "treasury_fee")
  | "deposits_swept" => do
    let r ← j.record? ["wallet_pubkey_hash", "sweep_tx_hash", "deposit_count", "total_fee"] 0
    return .depositsSwept (← r.field "wallet_pubkey_hash") (← r.field "sweep_tx_hash")
      (← r.field "deposit_count") (← r.field "total_fee")
  | "main_utxo_updated" => do
    let r ← j.record? ["wallet_pubkey_hash", "main_utxo"] 0
    return .mainOutputUpdated (← r.field "wallet_pubkey_hash") (← r.field "main_utxo")
  | "reservation_created" => do
    let r ← j.record? [
      "utxo_hash", "depositor", "btc_amount", "tbtc_minted", "treasury_fee",
      "liquidation_bonus", "expiry_timestamp"] 0
    return .reservationCreated (← r.field "utxo_hash") (← r.field "depositor")
      (← r.field "btc_amount") (← r.field "tbtc_minted") (← r.field "treasury_fee")
      (← r.field "liquidation_bonus") (← r.field "expiry_timestamp")
  | "reservation_activated" => do
    let r ← j.record? ["utxo_hash", "sweep_fee", "tbtc_minted"] 0
    return .reservationActivated (← r.field "utxo_hash") (← r.field "sweep_fee")
      (← r.field "tbtc_minted")
  | "reservation_redeemed" => do
    let r ← j.record? ["utxo_hash", "redeemer", "tbtc_burned", "liquidation_bonus"] 0
    return .reservationRedeemed (← r.field "utxo_hash") (← r.field "redeemer")
      (← r.field "tbtc_burned") (← r.field "liquidation_bonus")
  | "reservation_liquidated" => do
    let r ← j.record? ["utxo_hash", "liquidator", "liquidation_bonus"] 0
    return .reservationLiquidated (← r.field "utxo_hash") (← r.field "liquidator")
      (← r.field "liquidation_bonus")
  | "priority_redemption_requested" => do
    let r ← j.record? ["utxo_hash", "wallet_pubkey_hash", "requested_amount", "fee_allowance"] 0
    return .priorityRedemptionRequested (← r.field "utxo_hash") (← r.field "wallet_pubkey_hash")
      (← r.field "requested_amount") (← r.field "fee_allowance")
  | "wallet_registered" => do
    let r ← j.record? ["wallet_pubkey_hash", "state"] 0
    return .walletRegistered (← r.field "wallet_pubkey_hash")
      (← r.symbol "state" WalletState.ofName?)
  | "wallet_state_changed" => do
    let r ← j.record? ["wallet_pubkey_hash", "from", "to"] 0
    return .walletStateChanged (← r.field "wallet_pubkey_hash")
      (← r.symbol "from" WalletState.ofName?) (← r.symbol "to" WalletState.ofName?)
  | "vault_status_updated" => do
    let r ← j.record? ["vault", "trusted"] 0
    return .vaultStatusUpdated (← r.field "vault") (← r.field "trusted")
  | _ => none

instance : FromJson Event where
  fromJson? j := do
    let (kind, rest) ← j.variant? tag
    ofFields kind rest
  whole := true

end Event

/-! ## §4. Logged events. -/

/-- An event with its number and the second of its commit. -/
structure LoggedEvent where
  seq : UInt64
  time : UInt64
  event : Event
deriving DecidableEq, Repr

namespace LoggedEvent

instance : ToJson LoggedEvent where
  toJson e := .object (
    ("seq", toJson e.seq) :: ("at", toJson e.time) :: (Event.tag, .text e.event.tagName)
      :: e.event.fields)

/-- The kind that a tag names, by its text or by its number. -/
def kindOfTag? : Json → Option String
  | .text kind => some kind
  | .integer (.ofNat n) => Event.kinds[n]?
  | _ => none

/-- A logged event is read from an object only; there the kind may be given by its number. -/
instance : FromJson LoggedEvent where
  fromJson? j := do
    let r ← j.object? ["seq", "at", Event.tag]
    let tag ← Json.lookup Event.tag r.members
    let kind ← kindOfTag? tag
    return {
      seq := ← r.field "seq"
      time := ← r.field "at"
      event := ← Event.ofFields kind (.object r.members) }
  whole := true

end LoggedEvent

end Custody
