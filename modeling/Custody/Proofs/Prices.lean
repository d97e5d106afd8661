/-
  Custody.Proofs.Prices
  ────────────────────────────────
  **WHAT FEES ADD UP TO, AND WHAT A RESERVATION COSTS.**

  The shares of a sweep's fee make up the fee to the satoshi, and the largest
  share, which is held against the cap, is the last one.  The price of a
  reservation grows with whatever it is made of, and lies between the two fees
  that it is the larger of.  What is accepted leaves the depositor something,
  and its parts are the amount.

  Products behind a price are looked at where 128 bits hold them.

  Main facts:
    * `split_loses_nothing` — the shares of a fee are the fee;
    * `startedYears_eq`     — a year counts from its first day on;
    * `storageFee_mono`, `liquidationBonus_mono` — prices grow with their parts;
    * `pricing_monotone_bounded` — the laws of prices, for every price list.
-/
import Mathlib.Algebra.BigOperators.Group.List.Basic
import Mathlib.Algebra.Order.Floor.Div
import Custody.Config
import Custody.Proofs.Settlements

namespace Custody

/-! ## §1. The shares of a fee. -/

/-- The shares of a fee are the fee. -/
theorem sum_feeShare (fee : Nat) {count : Nat} (some_pay : 0 < count) :
    ((List.range count).map (feeShare fee count)).sum = fee := by
  obtain ⟨others, rfl⟩ : ∃ others, count = others + 1 := ⟨count - 1, by omega⟩
  -- All places but the last have the same share, and the last has the remainder on top.
  have same : (List.range others).map (feeShare fee (others + 1))
      = (List.range others).map fun _ => fee / (others + 1) := by
    apply List.map_congr_left
    intro place inside
    have before : place + 1 ≠ others + 1 := by
      have := List.mem_range.mp inside
      omega
    rw [feeShare, if_neg before, Nat.add_zero]
  rw [List.range_succ, List.map_append, List.sum_append, same, List.map_const', List.sum_replicate,
    List.length_range, smul_eq_mul, List.map_singleton, List.sum_singleton, feeShare, if_pos rfl]
  have parts := Nat.div_add_mod' fee (others + 1)
  rw [Nat.mul_succ] at parts
  rw [Nat.mul_comm others]
  omega

section Shares

variable {fee : UInt64} {count : Nat} {split : FeeSplit}

/-- The largest share is the last one. -/
theorem share_last (divided : splitFee? fee count = some split) (some_pay : 0 < count) :
    split.share (count - 1) count = split.maxShare := by
  apply UInt64.toNat_inj.mp
  rw [toNat_share divided, toNat_maxShare divided, feeShare, if_pos (by omega)]

/-- No share is above the largest. -/
theorem share_le_maxShare (divided : splitFee? fee count = some split) (place : Nat) :
    split.share place count ≤ split.maxShare := by
  rw [UInt64.le_iff_toNat_le, toNat_share divided, toNat_maxShare divided]
  unfold feeShare
  split <;> omega

/-- The last share is no more than the fee. -/
theorem each_add_remainder_le (divided : splitFee? fee count = some split) (some_pay : 0 < count) :
    split.each.toNat + split.remainder.toNat ≤ fee.toNat := by
  have parts := split_parts divided
  have each : split.each.toNat ≤ split.each.toNat * count := Nat.le_mul_of_pos_right _ some_pay
  omega

/-- Two shares are less than the number of deposits apart. -/
theorem share_lt_share_add (divided : splitFee? fee count = some split) (some_pay : 0 < count)
    (place other : Nat) :
    (split.share place count).toNat < (split.share other count).toNat + count := by
  have left_over : fee.toNat % count < count := Nat.mod_lt _ some_pay
  rw [toNat_share divided, toNat_share divided]
  unfold feeShare
  split <;> split <;> omega

end Shares

/-- **The split of a fee loses nothing.**  Over at least one deposit there is a split; its shares
are the fee, each is at most the largest, which is the last and no more than the fee, so that no
sum leaves the words; and two shares are less than the number of deposits apart. -/
theorem split_loses_nothing (fee : UInt64) (count : Nat) (some_pay : 0 < count) :
    ∃ split, splitFee? fee count = some split ∧
      ((List.range count).map fun place => (split.share place count).toNat).sum = fee.toNat ∧
      (∀ place < count, split.share place count ≤ split.maxShare) ∧
      split.share (count - 1) count = split.maxShare ∧
      split.maxShare.toNat = split.each.toNat + split.remainder.toNat ∧
      split.each.toNat + split.remainder.toNat ≤ fee.toNat ∧
      ∀ place < count, ∀ other < count,
        (split.share place count).toNat < (split.share other count).toNat + count := by
  obtain ⟨split, divided⟩ : ∃ split, splitFee? fee count = some split := by
    unfold splitFee?
    rw [if_neg (Nat.pos_iff_ne_zero.mp some_pay)]
    exact ⟨_, rfl⟩
  obtain ⟨each, remainder⟩ := splitFee?_toNat divided
  refine ⟨split, divided, ?_, fun place _ => share_le_maxShare divided place,
    share_last divided some_pay, ?_, each_add_remainder_le divided some_pay,
    fun place _ other _ => share_lt_share_add divided some_pay place other⟩
  · simp only [toNat_share divided]
    exact sum_feeShare fee.toNat some_pay
  · rw [toNat_maxShare divided, each, remainder]

/-- The largest fee over seven deposits leaves one satoshi, which the last pays on top. -/
theorem split_loses_nothing_sample :
    0 < 7 ∧ ∃ split, splitFee? 0xffffffffffffffff 7 = some split ∧
      ((List.range 7).map fun place => (split.share place 7).toNat).sum = 2 ^ 64 - 1 ∧
      split.share 6 7 = split.maxShare ∧
      (split.share 6 7).toNat = (split.share 0 7).toNat + 1 := by
  obtain ⟨split, divided, sum, -, largest, -⟩ :=
    split_loses_nothing 0xffffffffffffffff 7 (by decide)
  have computed : split = ⟨2635249153387078802, 1⟩ :=
    Option.some.inj (divided.symm.trans (by decide))
  refine ⟨by decide, split, divided, sum, largest, ?_⟩
  rw [computed]
  decide

/-! ## §2. The storage fee. -/

/-- A year counts from its first day on. -/
theorem startedYears_eq (days : Nat) : startedYears days = days ⌈/⌉ daysPerYear := rfl

theorem startedYears_mono {days days' : Nat} (longer : days ≤ days') :
    startedYears days ≤ startedYears days' :=
  Nat.div_le_div_right (Nat.add_le_add_right longer _)

namespace ReservationParams

/-- The part of a fee that grows with amount and days, without a limit. -/
def proportional (params : ReservationParams) (amount : UInt64) (days : UInt32) : Nat :=
  amount.toNat * params.storageFeeBps.toNat * days.toNat / 3650000

/-- The least fee of as many started years, without a limit. -/
def minimum (params : ReservationParams) (days : UInt32) : Nat :=
  params.minStorageFee.toNat * (days.toNat ⌈/⌉ 365)

/-- Whether 128 bits hold the product behind the proportional fee. -/
def Fits (params : ReservationParams) (amount : UInt64) (days : UInt32) : Prop :=
  amount.toNat * params.storageFeeBps.toNat * days.toNat < 2 ^ 128

/-- The proportional fee as words of 128 bits compute it. -/
def wideProportional (params : ReservationParams) (amount : UInt64) (days : UInt32) : BitVec 128 :=
  BitVec.ofNat 128 amount.toNat * BitVec.ofNat 128 params.storageFeeBps.toNat
    * BitVec.ofNat 128 days.toNat / 3650000

/-- Where they hold the product, words of 128 bits lose nothing of it. -/
theorem toNat_wideProportional {params : ReservationParams} {amount : UInt64} {days : UInt32}
    (fits : params.Fits amount days) :
    (params.wideProportional amount days).toNat = params.proportional amount days := by
  have product : (BitVec.ofNat 128 amount.toNat * BitVec.ofNat 128 params.storageFeeBps.toNat
      * BitVec.ofNat 128 days.toNat).toNat
      = amount.toNat * params.storageFeeBps.toNat * days.toNat := by
    rw [← BitVec.ofNat_mul, ← BitVec.ofNat_mul, BitVec.toNat_ofNat]
    exact Nat.mod_eq_of_lt fits
  rw [wideProportional, BitVec.toNat_udiv, product]
  rfl

end ReservationParams

section Fees

variable {params params' : ReservationParams} {amount amount' : UInt64} {days days' : UInt32}

/-- The storage fee is the larger of its two parts, as far as a word goes. -/
theorem toNat_storageFee (params : ReservationParams) (amount : UInt64) (days : UInt32) :
    (storageFee amount days params).toNat
      = min (max (params.proportional amount days) (params.minimum days)) (2 ^ 64 - 1) := by
  unfold storageFee
  rw [Word.toNat_capped, startedYears_eq]
  rfl

/-- The proportional fee grows with amount, days and rate. -/
theorem proportional_mono (amounts : amount ≤ amount') (longer : days ≤ days')
    (dearer : params.storageFeeBps ≤ params'.storageFeeBps) :
    params.proportional amount days ≤ params'.proportional amount' days' := by
  apply Nat.div_le_div_right
  apply Nat.mul_le_mul
  · exact Nat.mul_le_mul (UInt64.le_iff_toNat_le.mp amounts) (UInt64.le_iff_toNat_le.mp dearer)
  · exact UInt32.le_iff_toNat_le.mp longer

theorem minimum_mono (longer : days ≤ days')
    (dearer : params.minStorageFee ≤ params'.minStorageFee) :
    params.minimum days ≤ params'.minimum days' := by
  apply Nat.mul_le_mul (UInt64.le_iff_toNat_le.mp dearer)
  exact startedYears_mono (UInt32.le_iff_toNat_le.mp longer)

/-- **A storage fee grows with whatever it is made of.** -/
theorem storageFee_mono (amounts : amount ≤ amount') (longer : days ≤ days')
    (dearer : params.storageFeeBps ≤ params'.storageFeeBps)
    (least : params.minStorageFee ≤ params'.minStorageFee) :
    storageFee amount days params ≤ storageFee amount' days' params' := by
  have grown := proportional_mono amounts longer dearer
  have raised := minimum_mono longer least
  rw [UInt64.le_iff_toNat_le, toNat_storageFee, toNat_storageFee]
  omega

end Fees

/-! ## §3. The liquidation bonus. -/

section Bonuses

variable {params : ReservationParams} {fee fee' : UInt64}

/-- The bonus is a part of the fee, as far as a word goes. -/
theorem toNat_liquidationBonus (params : ReservationParams) (fee : UInt64) :
    (liquidationBonus fee params).toNat
      = min (fee.toNat * params.liquidationBonusBps.toNat / 10000) (2 ^ 64 - 1) := by
  unfold liquidationBonus
  rw [Word.toNat_capped]
  rfl

/-- A bonus of at most the whole fee is at most the fee. -/
theorem liquidationBonus_le (whole : params.liquidationBonusBps ≤ 10000) :
    liquidationBonus fee params ≤ fee := by
  have part : params.liquidationBonusBps.toNat ≤ 10000 := UInt64.le_iff_toNat_le.mp whole
  have bound : fee.toNat * params.liquidationBonusBps.toNat / 10000 ≤ fee.toNat := by
    apply Nat.div_le_of_le_mul
    rw [Nat.mul_comm 10000]
    exact Nat.mul_le_mul_left _ part
  rw [UInt64.le_iff_toNat_le, toNat_liquidationBonus]
  exact Nat.le_trans (Nat.min_le_left _ _) bound

/-- The bonus grows with the fee. -/
theorem liquidationBonus_mono (more : fee ≤ fee') :
    liquidationBonus fee params ≤ liquidationBonus fee' params := by
  have scaled : fee.toNat * params.liquidationBonusBps.toNat / 10000
      ≤ fee'.toNat * params.liquidationBonusBps.toNat / 10000 :=
    Nat.div_le_div_right (Nat.mul_le_mul_right _ (UInt64.le_iff_toNat_le.mp more))
  rw [UInt64.le_iff_toNat_le, toNat_liquidationBonus, toNat_liquidationBonus]
  omega

end Bonuses

/-- A configuration never sets more aside than the whole fee. -/
theorem Config.liquidationBonusBps_le {vars : Variables} {config : Config}
    (read : Config.ofVariables vars = .ok config) :
    config.params.reservation.liquidationBonusBps ≤ 10000 := by
  simp only [Config.ofVariables, throw_bind, check_ok_iff, bind_ok_iff, pure_ok_iff] at read
  obtain ⟨_, -, _, -, _, -, -, _, -, params, limited, _, -, rfl⟩ := read
  simp only [Config.reservationParams, throw_bind, check_ok_iff, bind_ok_iff, pure_ok_iff]
    at limited
  obtain ⟨_, -, _, -, _, -, _, -, _, -, -, whole, rfl⟩ := limited
  exact UInt64.not_lt.mp whole

/-! ## §4. What is accepted. -/

/-- A reservation is priced for a number of days: its fees are what the price list says, something
is minted, and its parts are the amount. -/
structure ReservationParams.Prices (params : ReservationParams) (r : Reservation) (days : UInt32) :
    Prop where
  fee : r.treasuryFee = storageFee r.amount days params
  bonus : r.liquidationBonus = liquidationBonus r.treasuryFee params
  positive : 1 ≤ r.minted
  parts : r.minted.toNat + r.treasuryFee.toNat + r.liquidationBonus.toNat = r.amount.toNat

/-- A price is made of the storage fee and the bonus set aside from it. -/
theorem State.price_eq {params : ReservationParams} {amount : UInt64} {days : UInt32}
    {price : ReservationPrice} (h : State.price params amount days = .ok price) :
    price.storageFee = storageFee amount days params ∧
      price.bonus = liquidationBonus price.storageFee params := by
  simp only [State.price] at h
  split at h
  case h_1 minted taken =>
    split at h
    case isTrue => cases h; exact ⟨rfl, rfl⟩
    case isFalse => cases h
  case h_2 => cases h

/-- **What is accepted is priced, and its parts are the amount.** -/
theorem State.reserve_priced {s : State} {params : Params} {caller : Identity}
    {request : ReserveRequest} {now : UInt64} {t : Transition Reservation}
    (accepted : s.reserve params caller request now = .ok t) :
    params.reservation.Prices t.output request.days := by
  have proposed : (Service.mk params s .empty (.opened params.bridge)).propose
      ⟨now, fun tx _ => .ok tx.hash, none⟩ (.reserve caller request) = .ok (t.map .reserved) := by
    simp only [Service.propose, map_ok_iff, mapError_ok_iff]
    exact ⟨t, accepted, rfl⟩
  have inverted := Service.propose_accepted proposed
  generalize told : t.map Receipt.reserved = receipt at inverted
  cases inverted with
  | @reserve depositor request d price expiry r unreserved reveals priced expires row =>
    have same : t.output = r := Receipt.reserved.inj (congrArg Transition.output told)
    obtain ⟨positive, parts⟩ := State.price_balanced priced
    obtain ⟨fee, bonus⟩ := State.price_eq priced
    rw [same, row]
    exact ⟨fee, bonus, positive, parts⟩

/-! ## §5. The laws of prices. -/

/-- **Prices are monotone and bounded.**  As long as 128 bits hold the product behind it, a storage
fee never falls when amount, days, rate or least fee grow; it is at least the least fee of the
started years and at least the proportional fee, both as far as a word goes, and at most the larger
of the two.  A bonus of at most the whole fee is at most the fee and grows with it, and every
configuration keeps to that.  A reservation that is accepted mints something, and its parts are its
amount. -/
theorem pricing_monotone_bounded :
    (∀ (params params' : ReservationParams) (amount amount' : UInt64) (days days' : UInt32),
      amount ≤ amount' → days ≤ days' → params.storageFeeBps ≤ params'.storageFeeBps →
      params.minStorageFee ≤ params'.minStorageFee → params'.Fits amount' days' →
      storageFee amount days params ≤ storageFee amount' days' params') ∧
    (∀ (params : ReservationParams) (amount : UInt64) (days : UInt32), params.Fits amount days →
      (params.wideProportional amount days).toNat = params.proportional amount days ∧
      min (params.minimum days) (2 ^ 64 - 1) ≤ (storageFee amount days params).toNat ∧
      min (params.proportional amount days) (2 ^ 64 - 1) ≤ (storageFee amount days params).toNat ∧
      (storageFee amount days params).toNat
        ≤ max (params.minimum days) (params.proportional amount days)) ∧
    (∀ (params : ReservationParams) (fee fee' : UInt64), params.liquidationBonusBps ≤ 10000 →
      liquidationBonus fee params ≤ fee ∧
      (fee ≤ fee' → liquidationBonus fee params ≤ liquidationBonus fee' params)) ∧
    (∀ (vars : Variables) (config : Config), Config.ofVariables vars = .ok config →
      config.params.reservation.liquidationBonusBps ≤ 10000) ∧
    ∀ (s : State) (params : Params) (caller : Identity) (request : ReserveRequest) (now : UInt64)
      (t : Transition Reservation), s.reserve params caller request now = .ok t →
      params.reservation.Prices t.output request.days := by
  refine ⟨?_, ?_, ?_, ?_, ?_⟩
  · intro params params' amount amount' days days' amounts longer dearer least _
    exact storageFee_mono amounts longer dearer least
  · intro params amount days fits
    refine ⟨ReservationParams.toNat_wideProportional fits, ?_⟩
    rw [toNat_storageFee]
    omega
  · intro params fee fee' whole
    exact ⟨liquidationBonus_le whole, liquidationBonus_mono⟩
  · intro vars config read
    exact Config.liquidationBonusBps_le read
  · intro s params caller request now t accepted
    exact State.reserve_priced accepted

/-- What is laid down where nothing else is, for the promised deposit of the sample run: one more
day than a year costs the least fee twice, of which a tenth is set aside. -/
theorem pricing_monotone_bounded_sample :
    (({} : ReservationParams).Fits 20000000 366 ∧
      storageFee 10000000 365 {} ≤ storageFee 20000000 366 {} ∧
      min (({} : ReservationParams).minimum 366) (2 ^ 64 - 1)
        ≤ (storageFee 20000000 366 {}).toNat) ∧
    (({} : ReservationParams).liquidationBonusBps ≤ 10000 ∧
      liquidationBonus 2000000 {} ≤ 2000000) ∧
    (∃ config, Config.ofVariables (fun _ => none) = .ok config ∧
      config.params.reservation.liquidationBonusBps ≤ 10000) ∧
    ∃ t, Sample.sweepable.state.reserve {} ⟨"bob"⟩ ⟨Sample.promised, 366, Sample.address⟩ 4 = .ok t ∧
      ({} : ReservationParams).Prices t.output 366 := by
  obtain ⟨monotone, bounded, bonuses, configured, accepted⟩ := pricing_monotone_bounded
  have fits : ({} : ReservationParams).Fits 20000000 366 := by
    unfold ReservationParams.Fits
    decide
  refine ⟨⟨fits, ?_, (bounded {} 20000000 366 fits).2.1⟩, ⟨by decide, ?_⟩, ?_, ?_⟩
  · exact monotone {} {} 10000000 20000000 365 366 (by decide) (by decide) (by decide) (by decide)
      fits
  · exact (bonuses {} 2000000 2000000 (by decide)).1
  · have reads : (Config.ofVariables fun _ => none).isOk = true := by decide +kernel
    cases read : Config.ofVariables (fun _ => none) with
    | error fault =>
      rw [read] at reads
      cases reads
    | ok config => exact ⟨config, rfl, configured _ _ read⟩
  · have reserves : (Sample.sweepable.state.reserve {} ⟨"bob"⟩
        ⟨Sample.promised, 366, Sample.address⟩ 4).isOk = true := by decide +kernel
    cases reserved : Sample.sweepable.state.reserve {} ⟨"bob"⟩
        ⟨Sample.promised, 366, Sample.address⟩ 4 with
    | error fault =>
      rw [reserved] at reserves
      cases reserves
    | ok t => exact ⟨t, rfl, accepted _ _ _ _ _ _ reserved⟩

end Custody
