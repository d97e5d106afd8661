/-
  Custody.Command.Reserve
  ────────────────────────────────
  **A DEPOSIT IS RESERVED.**

  Reserving reveals the deposit with the reservation tag and prices the
  promise: the storage fee and the liquidation bonus are taken off the amount,
  and something has to be left.  The days have to be within the limit and the
  expiry within the range of times.

  Main fact: `price_balanced` — what is left, the fee and the bonus make up
  the amount.
-/
import Custody.Command.Reveal
import Custody.Pricing

namespace Custody

/-! ## §1. Requests. -/

/-- A request to reserve a deposit; whoever sends it is the depositor. -/
structure ReserveRequest where
  funding : Funding
  days : UInt32
  address : RedemptionAddress
deriving DecidableEq, Repr

instance : ToJson ReserveRequest where
  toJson r := .object (r.funding.fields ++ [
    ("reservation_days", toJson r.days),
    ("btc_redemption_address", toJson r.address)])

instance : FromJson ReserveRequest where
  fromJson? j := do
    let r ← j.object? (Funding.fieldNames ++ ["reservation_days", "btc_redemption_address"])
    return {
      funding := ← Funding.ofRecord r
      days := ← r.field "reservation_days"
      address := ← r.field "btc_redemption_address" }
  whole := true

/-! ## §2. Faults. -/

/-- Why a reservation cannot be made, settled or closed. -/
inductive ReservationFault where
  | reveal (fault : RevealFault)
  | invalidDays (days max : UInt32)
  | amountTooSmall (amount minimum : UInt64)
  | feeExceedsAmount (storageFee liquidationBonus amount : UInt64)
  | alreadyReserved (key : DepositKey)
  | notFound (key : DepositKey)
  | notActive (key : DepositKey) (status : ReservationStatus)
  | alreadyFinalized (key : DepositKey) (status : ReservationStatus)
  | notDepositor (caller : Identity)
  | expired (expiry now : UInt64)
  | notExpired (expiry now : UInt64)
  | sweepFeeExhausts (key : DepositKey) (minted share : UInt64)
  | unbalanced (key : DepositKey)
  | expiryOverflow
deriving DecidableEq, Repr

namespace ReservationFault

/-- The wording of a fault. -/
def message : ReservationFault → String
  | .reveal fault => fault.message
  | .invalidDays days max => s!"reservation days must be in 1..={max}, got {days}"
  | .amountTooSmall amount minimum => s!"reservation amount {amount} below minimum {minimum}"
  | .feeExceedsAmount fee bonus amount =>
    s!"storage fee {fee} plus bonus {bonus} leaves nothing of {amount}"
  | .alreadyReserved key => s!"utxo {key} is already reserved"
  | .notFound key => s!"reservation {key} not found"
  | .notActive key status => s!"reservation {key} is {status}"
  | .alreadyFinalized key status => s!"reservation {key} is {status} and cannot be finalized"
  | .notDepositor caller => s!"caller {caller} is not the depositor"
  | .expired expiry now => s!"reservation expired at {expiry}, now {now}"
  | .notExpired expiry now => s!"reservation expires at {expiry}, now {now}"
  | .sweepFeeExhausts key minted share =>
    s!"sweep fee share {share} exhausts minted amount {minted} of {key}"
  | .unbalanced key => s!"reservation {key} violates its accounting identity"
  | .expiryOverflow => "expiry timestamp overflows"

/-- The code of a fault. -/
def code : ReservationFault → String
  | .reveal fault => fault.code
  | .invalidDays .. => "INVALID_RESERVATION_DAYS"
  | .amountTooSmall .. => "RESERVATION_AMOUNT_TOO_SMALL"
  | .feeExceedsAmount .. => "STORAGE_FEE_EXCEEDS_AMOUNT"
  | .alreadyReserved _ => "ALREADY_RESERVED"
  | .notFound _ => "RESERVATION_NOT_FOUND"
  | .notActive .. => "RESERVATION_NOT_ACTIVE"
  | .alreadyFinalized .. => "RESERVATION_ALREADY_FINALIZED"
  | .notDepositor _ => "NOT_DEPOSITOR"
  | .expired .. => "RESERVATION_EXPIRED"
  | .notExpired .. => "RESERVATION_NOT_EXPIRED"
  | .sweepFeeExhausts .. => "SWEEP_FEE_EXHAUSTS_RESERVATION"
  | .unbalanced _ => "RESERVATION_UNBALANCED"
  | .expiryOverflow => "EXPIRY_OVERFLOW"

/-- The category of a fault. -/
def category : ReservationFault → Category
  | .reveal fault => fault.category
  | .notFound _ => .notFound
  | .unbalanced _ | .expiryOverflow => .invariant
  | _ => .precondition

end ReservationFault

/-! ## §3. Prices. -/

/-- The parts that a reserved amount is split into. -/
structure ReservationPrice where
  minted : UInt64
  storageFee : UInt64
  bonus : UInt64
deriving DecidableEq, Repr

namespace State

/-- Prices the reservation of an amount; something has to be left of it. -/
def price (params : ReservationParams) (amount : UInt64) (days : UInt32) :
    Except ReservationFault ReservationPrice :=
  let fee := storageFee amount days params
  let bonus := liquidationBonus fee params
  match (Word.add? fee bonus).bind fun charged => Word.sub? amount charged with
  | some minted =>
    if 0 < minted then .ok ⟨minted, fee, bonus⟩ else .error (.feeExceedsAmount fee bonus amount)
  | none => .error (.feeExceedsAmount fee bonus amount)

/-- A price leaves something to mint, and its parts are the amount. -/
theorem price_balanced {params : ReservationParams} {amount : UInt64} {days : UInt32}
    {price : ReservationPrice} (h : State.price params amount days = .ok price) :
    0 < price.minted ∧
      price.minted.toNat + price.storageFee.toNat + price.bonus.toNat = amount.toNat := by
  simp only [State.price] at h
  split at h
  case h_1 minted taken =>
    split at h
    case isTrue positive =>
      cases h
      obtain ⟨charged, sum, rest⟩ := Option.bind_eq_some_iff.mp taken
      have sum := Word.add?_eq_some_iff.mp sum
      have rest := Word.sub?_eq_some_iff.mp rest
      refine ⟨positive, ?_⟩
      show minted.toNat + (storageFee amount days params).toNat
        + (liquidationBonus (storageFee amount days params) params).toNat = amount.toNat
      omega
    case isFalse => cases h
  case h_2 => cases h

/-- The last second of a reservation, if there is one. -/
def expiryOf (now : UInt64) (days : UInt32) : Option UInt64 :=
  Word.add? now (UInt64.ofNat (days.toNat * secondsPerDay))

/-! ## §4. The command. -/

/-- Puts a reservation in, at the end of its depositor's list. -/
def addReservation (s : State) (r : Reservation) : State :=
  let keys := (s.index.get? r.depositor).getD []
  { s with
    reservations := s.reservations.insert r.key r
    index := s.index.insert r.depositor (keys ++ [r.key]) }

/-- Reveals and reserves a deposit. -/
def reserve (s : State) (params : Params) (caller : Identity) (request : ReserveRequest)
    (now : UInt64) : Except ReservationFault (Transition Reservation) := do
  let pricing := params.reservation
  let days := request.days
  if days = 0 ∨ pricing.maxDays < days then throw (.invalidDays days pricing.maxDays)
  let key := request.funding.key
  -- This comes before the deposit is looked at, which would be found revealed.
  if s.reservations.contains key then throw (.alreadyReserved key)
  let deposit ← (s.buildDeposit params.deposit caller request.funding (some reservationTag) now)
    |>.mapError .reveal
  if deposit.amount < pricing.minAmount then
    throw (.amountTooSmall deposit.amount pricing.minAmount)
  let price ← price pricing deposit.amount days
  let expiry ← match expiryOf now days with
    | some expiry => pure expiry
    | none => throw .expiryOverflow
  let reservation : Reservation := {
    key
    depositor := caller
    amount := deposit.amount
    minted := price.minted
    treasuryFee := price.storageFee
    liquidationBonus := price.bonus
    sweepFee := 0
    reservedAt := now
    expiry
    address := request.address
    walletKeyHash := deposit.walletKeyHash
    fundingTxHash := deposit.fundingTxHash
    fundingOutputIndex := deposit.fundingOutputIndex
    status := .revealed }
  return {
    state := { s with deposits := s.deposits.insert key deposit }.addReservation reservation
    events := [
      deposit.revealed,
      .reservationCreated key caller reservation.amount reservation.minted reservation.treasuryFee
        reservation.liquidationBonus reservation.expiry]
    ledgerOps := []
    output := reservation }

end State

end Custody
