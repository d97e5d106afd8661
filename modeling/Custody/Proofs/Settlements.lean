/-
  Custody.Proofs.Settlements
  ────────────────────────────────
  **HOW EACH DEPOSIT OF A SWEEP IS SETTLED.**

  The deposits of a sweep are settled one after the other, each on the state
  that those before it have left.  As their keys are distinct, each is settled
  as if it were alone: what comes of it, and whether anything does, depends on
  what was held under its key before the sweep, and on its share of the fee.
  `SettledAs` says what that is.

  Main facts:
    * `Settles.settledAs`   — settling one deposit does what `SettledAs` says;
    * `settleOne_of_settledAs` — and is possible where `SettledAs` says so;
    * `settleAll_at`        — in a sweep every deposit is settled so;
    * `settleAll_of_settledAs` — and a sweep is possible where every one can be;
    * `settleAll_each`      — the same with the shares of a fee, without words.
-/
import Custody.Proofs.Internals

namespace Custody

/-! ## §1. One deposit. -/

/-- How what is held under a key is settled with a share of the fee: what is reported, and what is
held then.  An ordinary deposit has to be worth more than the treasury's fee and its share, and
a pending reservation has to mint more than its share. -/
inductive SettledAs (now : UInt64) (key : DepositKey) (share : UInt64) :
    Holding → Settlement → Holding → Prop
  | ordinary {d : Deposit} {r : Option Reservation} {owed : Option PriorityRedemption}
      (untagged : d.isReserved = false)
      (left : d.treasuryFee.toNat + share.toNat < d.amount.toNat) :
      SettledAs now key share ⟨some d, r, owed⟩
        ⟨key, d.depositor, d.amount - (d.treasuryFee + share), share, d.treasuryFee, 0, false⟩
        ⟨some { d with sweptAt := now }, r, owed⟩
  | reserved {d : Deposit} {r : Reservation} {owed : Option PriorityRedemption}
      (tagged : d.isReserved = true) (pending : r.status = .revealed)
      (balanced : r.isBalanced = true) (left : share.toNat < r.minted.toNat) :
      SettledAs now key share ⟨some d, some r, owed⟩
        ⟨key, d.depositor, r.minted - share, share, r.treasuryFee, r.liquidationBonus, true⟩
        ⟨some { d with sweptAt := now },
          some { r with minted := r.minted - share, sweepFee := share, status := .active }, owed⟩

namespace State

variable {now : UInt64} {hash : TxHash} {p q : Progress} {key : DepositKey} {share : UInt64}
  {split : FeeSplit} {count place : Nat} {keys : List DepositKey}

/-- Settling one deposit reports it as it was held. -/
theorem Settles.settledAs (h : Settles now hash p key share q) :
    ∃ x, q.settled = p.settled ++ [x] ∧
      SettledAs now key share (p.state.holding key) x (q.state.holding key) := by
  cases h with
  | @ordinary d fees found untagged sum left =>
    have same : fees = d.treasuryFee + share := by
      rw [← UInt64.toNat_inj, ← sum, toNat_add_of_lt (by rw [sum]; exact fees.toNat_lt)]
    refine ⟨_, rfl, ?_⟩
    unfold holding
    rw [found, Table.get?_insert_self, same]
    exact .ordinary untagged (by omega)
  | @reserved d r final found tagged kept pending balanced left row =>
    refine ⟨_, rfl, ?_⟩
    unfold holding
    rw [found, kept, Table.get?_insert_self, Table.get?_insert_self, row]
    exact .reserved tagged pending balanced left

/-- **A deposit can be settled where it has been said how.** -/
theorem settleOne_of_settledAs {x : Settlement} {next : Holding}
    (h : SettledAs now key share (p.state.holding key) x next) :
    ∃ q, settleOne now hash p key share = .ok q := by
  generalize held : p.state.holding key = before at h
  cases h with
  | @ordinary d r owed untagged left =>
    have found : p.state.deposits.get? key = some d := congrArg Holding.deposit held
    have room : d.treasuryFee.toNat + share.toNat < UInt64.size :=
      Nat.lt_trans left d.amount.toNat_lt
    have enough : ¬ d.amount ≤ d.treasuryFee + share := by
      rw [UInt64.le_iff_toNat_le, toNat_add_of_lt room]
      omega
    have unreserved : ¬ ({ d with sweptAt := now } : Deposit).isReserved = true :=
      Bool.eq_false_iff.mp untagged
    simp only [settleOne, found, if_neg unreserved, settleOrdinary, add?_eq_of_lt room,
      if_neg enough]
    exact ⟨_, rfl⟩
  | @reserved d r owed tagged pending balanced left =>
    have found : p.state.deposits.get? key = some d := congrArg Holding.deposit held
    have kept : p.state.reservations.get? key = some r := congrArg Holding.reservation held
    have enough : ¬ r.minted ≤ share := by
      rw [UInt64.le_iff_toNat_le]
      omega
    have reserved : ({ d with sweptAt := now } : Deposit).isReserved = true := tagged
    simp only [settleOne, found, if_pos reserved, settleReserved, kept, finalize, pending,
      balanced, if_neg enough]
    exact ⟨_, rfl⟩

/-! ## §2. All deposits. -/

/-- A sweep leaves alone what is held under other keys. -/
theorem settleAll_holding_other (h : settleAll now hash split count place p keys = .ok q)
    {other : DepositKey} (absent : other ∉ keys) :
    q.state.holding other = p.state.holding other := by
  induction keys generalizing place p with
  | nil =>
    cases h
    rfl
  | cons key rest ih =>
    obtain ⟨between, first, others⟩ := settleAll_cons_ok h
    rw [List.mem_cons, not_or] at absent
    rw [ih others absent.2, first.holding_other absent.1]

/-- **Every deposit of a sweep is settled as if it were alone.** -/
theorem settleAll_at (h : settleAll now hash split count place p keys = .ok q)
    (distinct : keys.Nodup) {i : Nat} (found : keys[i]? = some key) :
    ∃ x, q.settled[p.settled.length + i]? = some x ∧
      SettledAs now key (split.share (place + i) count) (p.state.holding key) x
        (q.state.holding key) := by
  induction keys generalizing place p i with
  | nil => cases found
  | cons first rest ih =>
    obtain ⟨fresh, distinct⟩ := List.nodup_cons.mp distinct
    obtain ⟨between, settles, others⟩ := settleAll_cons_ok h
    obtain ⟨x, reported, settled⟩ := settles.settledAs
    cases i with
    | zero =>
      cases found
      -- Those that come later leave the first alone, and report behind it.
      obtain ⟨more, later⟩ := settleAll_settled others
      refine ⟨x, ?_, ?_⟩
      · rw [later, reported, List.append_assoc, Nat.add_zero,
          List.getElem?_append_right (Nat.le_refl _), Nat.sub_self]
        rfl
      · rw [settleAll_holding_other others fresh]
        exact settled
    | succ i =>
      obtain ⟨y, behind, own⟩ := ih others distinct found
      have differ : key ≠ first := fun same => fresh (same ▸ List.mem_of_getElem? found)
      rw [reported, List.length_append, List.length_singleton] at behind
      rw [settles.holding_other differ] at own
      refine ⟨y, ?_, ?_⟩
      · rw [← behind]
        congr 1
        omega
      · rwa [Nat.add_right_comm, Nat.add_assoc] at own

/-- **A sweep can be settled where each of its deposits can be.** -/
theorem settleAll_of_settledAs (distinct : keys.Nodup)
    (each : ∀ i key, keys[i]? = some key → ∃ x next,
      SettledAs now key (split.share (place + i) count) (p.state.holding key) x next) :
    ∃ q, settleAll now hash split count place p keys = .ok q := by
  induction keys generalizing place p with
  | nil => exact ⟨p, rfl⟩
  | cons first rest ih =>
    obtain ⟨fresh, distinct⟩ := List.nodup_cons.mp distinct
    obtain ⟨x, next, settled⟩ := each 0 first rfl
    obtain ⟨between, one⟩ : ∃ q, settleOne now hash p first (split.share place count) = .ok q :=
      settleOne_of_settledAs settled
    have settles := settleOne_settles one
    -- The others hold what they held before the first was settled.
    obtain ⟨q, others⟩ : ∃ q, settleAll now hash split count (place + 1) between rest = .ok q := by
      refine ih distinct fun i key found => ?_
      obtain ⟨y, after, own⟩ := each (i + 1) key found
      have differ : key ≠ first := fun same => fresh (same ▸ List.mem_of_getElem? found)
      rw [settles.holding_other differ, Nat.add_right_comm, Nat.add_assoc]
      exact ⟨y, after, own⟩
    refine ⟨q, ?_⟩
    rw [settleAll, bind_ok_iff]
    exact ⟨between, one, others⟩

end State

/-! ## §3. Shares. -/

/-- The share of the deposit at a place: an even part of the fee, and what is left over for the
last. -/
def feeShare (fee count place : Nat) : Nat :=
  fee / count + (if place + 1 = count then fee % count else 0)

/-- The parts of a split are quotient and remainder of the fee. -/
theorem splitFee?_toNat {fee : UInt64} {count : Nat} {split : FeeSplit}
    (divided : splitFee? fee count = some split) :
    split.each.toNat = fee.toNat / count ∧ split.remainder.toNat = fee.toNat % count := by
  unfold splitFee? at divided
  split at divided
  case isTrue => cases divided
  case isFalse =>
    cases divided
    have bound : fee.toNat < UInt64.size := fee.toNat_lt
    exact ⟨UInt64.toNat_ofNat_of_lt' (Nat.lt_of_le_of_lt (Nat.div_le_self _ _) bound),
      UInt64.toNat_ofNat_of_lt' (Nat.lt_of_le_of_lt (Nat.mod_le _ _) bound)⟩

/-- A share is the quotient, and the last has the remainder on top. -/
theorem toNat_share {fee : UInt64} {count : Nat} {split : FeeSplit}
    (divided : splitFee? fee count = some split) (place : Nat) :
    (split.share place count).toNat = feeShare fee.toNat count place := by
  obtain ⟨each, remainder⟩ := splitFee?_toNat divided
  unfold FeeSplit.share feeShare
  split
  · rw [toNat_add_of_lt (State.split_fits divided), each, remainder]
  · rw [each, Nat.add_zero]

/-- The largest share is quotient and remainder together. -/
theorem toNat_maxShare {fee : UInt64} {count : Nat} {split : FeeSplit}
    (divided : splitFee? fee count = some split) :
    split.maxShare.toNat = fee.toNat / count + fee.toNat % count := by
  obtain ⟨each, remainder⟩ := splitFee?_toNat divided
  have fits := State.split_fits divided
  rw [FeeSplit.maxShare, Word.addCapped, Word.toNat_capped, ← each, ← remainder]
  omega

/-- **In a sweep every deposit is settled with its share of the fee.** -/
theorem State.settleAll_each {s : State} {now fee : UInt64} {hash : TxHash} {split : FeeSplit}
    {keys : List DepositKey} {p : Progress}
    (settled : settleAll now hash split keys.length 0 { state := s } keys = .ok p)
    (divided : splitFee? fee keys.length = some split) (distinct : keys.Nodup) {i : Nat}
    {key : DepositKey} (found : keys[i]? = some key) :
    ∃ x share, p.settled[i]? = some x ∧ share.toNat = feeShare fee.toNat keys.length i ∧
      SettledAs now key share (s.holding key) x (p.state.holding key) := by
  obtain ⟨x, reported, own⟩ := settleAll_at settled distinct found
  rw [List.length_nil, Nat.zero_add] at reported
  exact ⟨x, _, reported, by rw [toNat_share divided, Nat.zero_add], own⟩

end Custody
