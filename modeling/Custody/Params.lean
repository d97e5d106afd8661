/-
  Custody.Params
  ────────────────────────────────
  **WHAT THE OPERATOR SETS.**

  Thresholds, fees and limits of deposits and reservations, and the accounts
  of the treasury and of the bridge.  The bridge account holds the pool of
  liquidation bonuses and burns what is redeemed.
-/
import Custody.Json.Record

namespace Custody

/-- Parameters of ordinary deposits. -/
structure DepositParams where
  /-- The least amount that can be revealed. -/
  dustThreshold : UInt64 := 1000000
  /-- The treasury's fee is the amount over this; zero means no fee. -/
  treasuryFeeDivisor : UInt64 := 2000
  /-- The most that one deposit may pay of a sweep's fee. -/
  maxFeeShare : UInt64 := 100000
deriving DecidableEq, Repr

/-- The longest reservation that can be configured: four years. -/
def longestReservation : UInt32 := 1460

/-- Parameters of reservations. -/
structure ReservationParams where
  /-- Storage fee per year, in hundredths of a percent. -/
  storageFeeBps : UInt64 := 10
  /-- The least storage fee for each started year. -/
  minStorageFee : UInt64 := 1000000
  /-- Liquidation bonus, in hundredths of a percent of the storage fee. -/
  liquidationBonusBps : UInt64 := 1000
  /-- The least amount that can be reserved. -/
  minAmount : UInt64 := 10000000
  /-- The longest reservation in days. -/
  maxDays : UInt32 := longestReservation
deriving DecidableEq, Repr

/-- All parameters. -/
structure Params where
  deposit : DepositParams := {}
  reservation : ReservationParams := {}
  /-- The account that fees go to. -/
  treasury : Identity := ⟨"treasury"⟩
  /-- The account of the bonus pool. -/
  bridge : Identity := ⟨"bridge"⟩
deriving DecidableEq, Repr

/-! ## §1. JSON. -/

instance : ToJson DepositParams where
  toJson p := .object [
    ("dust_threshold", toJson p.dustThreshold),
    ("treasury_fee_divisor", toJson p.treasuryFeeDivisor),
    ("tx_max_fee", toJson p.maxFeeShare)]

instance : FromJson DepositParams where
  fromJson? j := do
    let r ← j.record? ["dust_threshold", "treasury_fee_divisor", "tx_max_fee"] 0
    return {
      dustThreshold := ← r.field "dust_threshold"
      treasuryFeeDivisor := ← r.field "treasury_fee_divisor"
      maxFeeShare := ← r.field "tx_max_fee" }

instance : ToJson ReservationParams where
  toJson p := .object [
    ("storage_fee_bps", toJson p.storageFeeBps),
    ("min_storage_fee", toJson p.minStorageFee),
    ("liquidation_bonus_bps", toJson p.liquidationBonusBps),
    ("min_amount", toJson p.minAmount),
    ("max_days", toJson p.maxDays)]

instance : FromJson ReservationParams where
  fromJson? j := do
    let r ← j.record?
      ["storage_fee_bps", "min_storage_fee", "liquidation_bonus_bps", "min_amount", "max_days"] 0
    return {
      storageFeeBps := ← r.field "storage_fee_bps"
      minStorageFee := ← r.field "min_storage_fee"
      liquidationBonusBps := ← r.field "liquidation_bonus_bps"
      minAmount := ← r.field "min_amount"
      maxDays := ← r.field "max_days" }

instance : ToJson Params where
  toJson p := .object [
    ("deposit", toJson p.deposit),
    ("reservation", toJson p.reservation),
    ("treasury", toJson p.treasury),
    ("bridge", toJson p.bridge)]

instance : FromJson Params where
  fromJson? j := do
    let r ← j.record? ["deposit", "reservation", "treasury", "bridge"] 0
    return {
      deposit := ← r.field "deposit"
      reservation := ← r.field "reservation"
      treasury := ← r.field "treasury"
      bridge := ← r.field "bridge" }

end Custody
