/-
  Custody.Command.Close
  ────────────────────────────────
  **A RESERVATION ENDS.**

  Up to the second of its expiry the depositor of an active reservation may
  redeem it: what was minted goes back to the bridge and is burnt, the bonus
  goes to the treasury, and the wallet owes the committed address the payment.
  After that second anybody may liquidate it for the bonus; the deposit loses
  its tag and stays swept.

  Main fact: `activeReservation_ok` — what ends has been active, and added up.
-/
import Custody.Command.Reserve

namespace Custody.State

/-! ## §1. Active reservations. -/

/-- The reservation under a key, which has to be active and balanced. -/
def activeReservation (s : State) (key : DepositKey) : Except ReservationFault Reservation :=
  match s.reservations.get? key with
  | none => .error (.notFound key)
  | some r =>
    if !r.isActive then .error (.notActive key r.status)
    else if !r.isBalanced then .error (.unbalanced key)
    else .ok r

/-- An active reservation is kept under its key, is active and adds up. -/
theorem activeReservation_ok {s : State} {key : DepositKey} {r : Reservation}
    (h : s.activeReservation key = .ok r) :
    s.reservations.get? key = some r ∧ r.isActive = true ∧ r.isBalanced = true := by
  unfold activeReservation at h
  split at h
  case h_1 => cases h
  case h_2 row found =>
    split at h
    case isTrue => cases h
    case isFalse active =>
      split at h
      case isTrue => cases h
      case isFalse balanced =>
        cases h
        exact ⟨found, by simpa using active, by simpa using balanced⟩

/-- The state in which the reservation under a key has ended. -/
def endReservation (s : State) (key : DepositKey) (status : ReservationStatus) : State :=
  { s with reservations := s.reservations.modify key fun r => { r with status } }

/-! ## §2. Redemption. -/

/-- What the wallet owes for a redeemed reservation. -/
def redemptionOf (r : Reservation) (key : DepositKey) (redeemer : Identity) (now : UInt64) :
    PriorityRedemption where
  key
  walletKeyHash := r.walletKeyHash
  redeemer
  address := r.address
  outputScript := Hex.encode r.address.outputScript
  requestedAmount := r.amount
  feeAllowance := r.treasuryFee + r.liquidationBonus
  requestedAt := now

/-- Redeems an active reservation for its depositor. -/
def redeem (s : State) (params : Params) (caller : Identity) (key : DepositKey) (now : UInt64) :
    Except ReservationFault (Transition PriorityRedemption) := do
  let r ← s.activeReservation key
  if caller ≠ r.depositor then throw (.notDepositor caller)
  if r.expiry < now then throw (.expired r.expiry now)
  let redemption := redemptionOf r key caller now
  return {
    state := { s.endReservation key .redeemed with
      redemptions := s.redemptions.insert key redemption }
    events := [
      .reservationRedeemed key caller r.minted r.liquidationBonus,
      .priorityRedemptionRequested key redemption.walletKeyHash redemption.requestedAmount
        redemption.feeAllowance]
    ledgerOps := [
      .transferBalanceFrom caller params.bridge r.minted,
      .decreaseBalance r.minted,
      .transferBalance params.treasury r.liquidationBonus]
    output := redemption }

/-! ## §3. Liquidation. -/

/-- Liquidates an expired reservation for anybody. -/
def liquidate (s : State) (caller : Identity) (key : DepositKey) (now : UInt64) :
    Except ReservationFault (Transition UInt64) := do
  let r ← s.activeReservation key
  if now ≤ r.expiry then throw (.notExpired r.expiry now)
  return {
    state := { s.endReservation key .liquidated with
      deposits := s.deposits.modify key fun d => { d with extraData := none } }
    events := [.reservationLiquidated key caller r.liquidationBonus]
    ledgerOps := [.transferBalance caller r.liquidationBonus]
    output := r.liquidationBonus }

end Custody.State
