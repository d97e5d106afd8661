/-
  Custody.Proofs.Exactness
  ────────────────────────────────
  **SUMS AND DIFFERENCES THAT NOBODY CHECKS.**

  Some sums and differences of words are taken without a look at whether they
  stay in range: the last deposit's share of the fee, what fees leave of an
  amount, what a share leaves of what is minted, the totals of a sweep, and
  the allowance of a redemption.  Taken with a look they come out the same, as
  long as the reservations of the state are balanced and back what they say.
  In a state where they are not the totals do leave the range.

  Main facts:
    * `total?_eq`      — a sum that fits is the checked sum;
    * `Standing.exact` — in a standing state every such sum and difference fits.
-/
import Custody.Proofs.Holdings

namespace Custody

/-! ## §1. The same with a look. -/

/-- A sum of words that fits is exact. -/
theorem toNat_add_of_lt {a b : UInt64} (fits : a.toNat + b.toNat < UInt64.size) :
    (a + b).toNat = a.toNat + b.toNat := by
  rw [UInt64.toNat_add]
  exact Nat.mod_eq_of_lt fits

theorem add?_eq_of_lt {a b : UInt64} (fits : a.toNat + b.toNat < UInt64.size) :
    Word.add? a b = some (a + b) :=
  Word.add?_eq_some_iff.mpr (toNat_add_of_lt fits).symm

/-- A difference of words from which nothing is borrowed comes out the same with a look. -/
theorem sub?_eq_of_lt {a b : UInt64} (below : b.toNat < a.toNat) :
    Word.sub? a b = some (a - b) := by
  refine Word.sub?_eq_some_iff.mpr ?_
  rw [toNat_sub_of_lt below]
  omega

/-- What the deposit at a place of `count` pays, if it fits into a word. -/
def FeeSplit.share? (split : FeeSplit) (place count : Nat) : Option UInt64 :=
  if place + 1 = count then Word.add? split.each split.remainder else some split.each

namespace State

/-- The sum of words, if no sum on the way leaves the range. -/
def total? (amounts : List UInt64) : Option UInt64 := amounts.foldlM Word.add? 0

/-- **A sum that fits is the checked sum.** -/
theorem total?_eq {amounts : List UInt64} (fits : sumOver UInt64.toNat amounts < UInt64.size) :
    total? amounts = some (total amounts) := by
  -- The induction is on the amounts, from any sum that was reached before them.
  have general : ∀ start : UInt64, start.toNat + sumOver UInt64.toNat amounts < UInt64.size →
      amounts.foldlM Word.add? start = some (amounts.foldl (· + ·) start) := by
    clear fits
    induction amounts with
    | nil =>
      intro start _
      rfl
    | cons amount rest ih =>
      intro start fits
      rw [sumOver_cons] at fits
      have sum : (start + amount).toNat = start.toNat + amount.toNat := toNat_add_of_lt (by omega)
      rw [List.foldlM_cons, add?_eq_of_lt (by omega)]
      exact ih (start + amount) (by omega)
  exact general 0 (by simpa using fits)

/-! ## §2. In a standing state they fit. -/

/-- Whatever a command adds or subtracts without a look comes out the same with one. -/
structure Exact (s : State) (params : Params) : Prop where
  /-- The shares of a sweep's fee. -/
  shares : ∀ {request walk value fee split}, s.takeInputs request = .ok walk →
    sweepSplit params.deposit walk value = .ok (fee, split) →
    ∀ place, split.share? place walk.swept.length = some (split.share place walk.swept.length)
  /-- What an ordinary deposit is credited. -/
  rests : ∀ {d key share x}, settleOrdinary d key share = .ok x →
    ∃ fees, Word.add? d.treasuryFee share = some fees ∧ Word.sub? d.amount fees = some x.credited
  /-- What is minted for a reservation once its deposit is swept. -/
  mints : ∀ {key r share final}, finalize key r share = .ok final →
    Word.sub? r.minted share = some final.minted
  /-- The totals over all deposits of a sweep. -/
  totals : ∀ {request walk value fee split hash now p}, s.takeInputs request = .ok walk →
    sweepSplit params.deposit walk value = .ok (fee, split) →
    settleAll now hash split walk.swept.length 0 { state := s } walk.swept = .ok p →
    ∀ part ∈ [Settlement.credited, Settlement.treasuryFee, Settlement.liquidationBonus,
      Settlement.feeShare], total? (p.settled.map part) = some (total (p.settled.map part))
  /-- What a wallet may take off a redemption. -/
  allowances : ∀ {key r}, s.activeReservation key = .ok r →
    Word.add? r.treasuryFee r.liquidationBonus = some (r.treasuryFee + r.liquidationBonus)

/-- The parts of a split over at least one deposit fit into a word together. -/
theorem split_fits {fee : UInt64} {count : Nat} {split : FeeSplit}
    (divided : splitFee? fee count = some split) :
    split.each.toNat + split.remainder.toNat < UInt64.size := by
  have parts := split_parts divided
  have bound : fee.toNat < UInt64.size := fee.toNat_lt
  have many : 0 < count := by
    refine Nat.pos_of_ne_zero fun none_there => ?_
    subst none_there
    cases divided
  have each : split.each.toNat ≤ split.each.toNat * count := Nat.le_mul_of_pos_right _ many
  omega

/-- **In a standing state whatever is added or subtracted without a look fits.** -/
theorem Standing.exact {s : State} (standing : s.Standing) (params : Params) : s.Exact params where
  shares := by
    intro request walk value fee split taken capped place
    obtain ⟨-, divided, -⟩ := sweepSplit_ok_iff.mp capped
    unfold FeeSplit.share? FeeSplit.share
    by_cases last : place + 1 = walk.swept.length
    · rw [if_pos last, if_pos last]
      exact add?_eq_of_lt (split_fits divided)
    · rw [if_neg last, if_neg last]
  rests := by
    intro d key share x settled
    obtain ⟨fees, sum, left, rfl⟩ := settleOrdinary_ok settled
    exact ⟨fees, Word.add?_eq_some_iff.mpr sum, sub?_eq_of_lt left⟩
  mints := by
    intro key r share final finalized
    obtain ⟨-, -, left, rfl⟩ := finalize_ok finalized
    exact sub?_eq_of_lt left
  totals := by
    intro request walk value fee split hash now p taken divided settled part listed
    obtain ⟨left, divided, -⟩ := sweepSplit_ok_iff.mp divided
    -- All parts together are worth no more than the inputs, so each of them is.
    obtain ⟨fits, -⟩ := settled_value standing.backs taken left divided settled
    have parts := sumOver_worth p.settled
    refine total?_eq ?_
    rw [sumOver_map]
    simp only [List.mem_cons, List.not_mem_nil, or_false] at listed
    rcases listed with rfl | rfl | rfl | rfl <;> omega
  allowances := by
    intro key r active
    obtain ⟨-, -, balanced⟩ := activeReservation_ok active
    have identity := r.isBalanced_iff.mp balanced
    have bound : r.amount.toNat < UInt64.size := r.amount.toNat_lt
    exact add?_eq_of_lt (by omega)

end State

end Custody
