/-
  Custody.Pricing
  ────────────────────────────────
  **FEES AND THEIR SPLIT.**

  The fee of a sweep is split evenly over its deposits, and what is left over
  goes on the last.  A reservation costs a storage fee that grows with amount
  and days and is never less than a minimum for each started year; part of it
  is set aside as the bonus of whoever liquidates it.  Prices are computed
  exactly and held at the largest word.

  Main fact: `split_parts` — the parts of a split make up the fee.
-/
import Custody.Params
import Custody.Word

namespace Custody

/-! ## §1. The fee of a sweep. -/

/-- The split of a fee over a number of deposits. -/
structure FeeSplit where
  /-- What each deposit pays. -/
  each : UInt64
  /-- What the last deposit pays on top. -/
  remainder : UInt64
deriving DecidableEq, Repr

namespace FeeSplit

/-- What the deposit at a place of `count` pays. -/
def share (split : FeeSplit) (place count : Nat) : UInt64 :=
  if place + 1 = count then split.each + split.remainder else split.each

/-- The most that a deposit pays, held at the largest word. -/
def maxShare (split : FeeSplit) : UInt64 := Word.addCapped split.each split.remainder

end FeeSplit

/-- Splits a fee; there is no split over no deposits. -/
def splitFee? (fee : UInt64) (count : Nat) : Option FeeSplit :=
  if count = 0 then none
  else some ⟨UInt64.ofNat (fee.toNat / count), UInt64.ofNat (fee.toNat % count)⟩

/-- The parts of a split make up the fee. -/
theorem split_parts {fee : UInt64} {count : Nat} {split : FeeSplit}
    (h : splitFee? fee count = some split) :
    split.each.toNat * count + split.remainder.toNat = fee.toNat := by
  unfold splitFee? at h
  split at h
  case isTrue => cases h
  case isFalse =>
    cases h
    have bound : fee.toNat < 2 ^ 64 := fee.toNat_lt
    rw [UInt64.toNat_ofNat_of_lt' (Nat.lt_of_le_of_lt (Nat.div_le_self _ _) bound),
      UInt64.toNat_ofNat_of_lt' (Nat.lt_of_le_of_lt (Nat.mod_le _ _) bound)]
    exact Nat.div_add_mod' _ _

/-! ## §2. The price of a reservation. -/

/-- Seconds in one day. -/
def secondsPerDay : Nat := 86400

/-- Days in one year. -/
def daysPerYear : Nat := 365

/-- One whole, in hundredths of a percent. -/
def wholeBps : Nat := 10000

/-- The number of years that have started after a number of days. -/
def startedYears (days : Nat) : Nat := (days + (daysPerYear - 1)) / daysPerYear

/-- The storage fee of an amount for a number of days.  The proportional fee is exact: words of 128
bits compute the same as long as the product of amount, rate and days is below 2^128, and there is
no such limit to the minimum. -/
def storageFee (amount : UInt64) (days : UInt32) (params : ReservationParams) : UInt64 :=
  let proportional :=
    amount.toNat * params.storageFeeBps.toNat * days.toNat / (wholeBps * daysPerYear)
  let minimum := params.minStorageFee.toNat * startedYears days.toNat
  Word.capped (max proportional minimum)

/-- The liquidation bonus that a storage fee sets aside. -/
def liquidationBonus (fee : UInt64) (params : ReservationParams) : UInt64 :=
  Word.capped (fee.toNat * params.liquidationBonusBps.toNat / wholeBps)

end Custody
