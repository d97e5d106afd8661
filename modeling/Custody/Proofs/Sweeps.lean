/-
  Custody.Proofs.Sweeps
  ────────────────────────────────
  **A SWEEP, TAKEN APART.**

  The inputs are walked with one invariant: the keys found so far are those of
  distinct unswept deposits of the wallet, and the value is what they and the
  spent main output are worth.  The deposits are then settled one after the
  other, and `Settles` says once all that settling one can do.  Sums over a
  whole sweep follow by induction over its keys.

  Main facts:
    * `takeInputs_sound`   — the inputs are worth their deposits and the claim;
    * `settleSweep_ok_iff` — what an accepted sweep has checked and proposes;
    * `settleAll_worth`    — what is settled is worth the deposits;
    * `settleAll_shares`   — the shares make up the fee;
    * `gained_credits`     — what the credits of a sweep give to some accounts.
-/
import Custody.Proofs.Acceptance

namespace Custody

theorem toNat_sub_of_lt {a b : UInt64} (h : b.toNat < a.toNat) :
    (a - b).toNat = a.toNat - b.toNat :=
  UInt64.toNat_sub_of_le _ _ (UInt64.le_iff_toNat_le.mpr (Nat.le_of_lt h))

namespace State

/-! ## §1. The inputs. -/

/-- What the deposit under a key is worth, if there is one. -/
def amountAt (s : State) (key : DepositKey) : Nat :=
  ((s.deposits.get? key).map (·.amount.toNat)).getD 0

/-- What a claimed main output is worth, if one is claimed. -/
def claimedValue (claimed : Option MainOutput) : Nat :=
  (claimed.map (·.value.toNat)).getD 0

/-- What is true of a walk after every input. -/
structure SoundWalk (s : State) (request : SweepRequest) (walk : Walk) : Prop where
  distinct : walk.swept.Nodup
  unswept : ∀ key ∈ walk.swept, ∃ d, s.deposits.get? key = some d ∧ d.isSwept = false ∧
    d.walletKeyHash = request.walletKeyHash ∧ d.vault = request.vault
  worth : walk.value.toNat = sumOver s.amountAt walk.swept
    + (if walk.mainSpent then claimedValue request.mainOutput else 0)

/-- An amount is added up exactly if the sum fits. -/
theorem Walk.add_ok_iff {walk : Walk} {amount value : UInt64} :
    walk.add amount = .ok value ↔ walk.value.toNat + amount.toNat = value.toNat := by
  rw [← Word.add?_eq_some_iff]
  unfold Walk.add
  split
  case h_1 sum found => simp [found]
  case h_2 absent => simp [absent]

/-- Taking a deposit keeps a walk sound. -/
theorem takeDeposit_sound {s : State} {request : SweepRequest} {walk next : Walk}
    {key : DepositKey} {d : Deposit} (sound : s.SoundWalk request walk)
    (found : s.deposits.get? key = some d) (h : takeDeposit request walk key d = .ok next) :
    s.SoundWalk request next := by
  simp only [takeDeposit, throw_bind, check_ok_iff, bind_ok_iff, pure_ok_iff] at h
  obtain ⟨fresh, wallet, vault, value, sum, rfl⟩ := h
  have sum := Walk.add_ok_iff.mp sum
  simp only [Bool.or_eq_true, List.contains_iff_mem, not_or] at fresh
  obtain ⟨unswept, fresh⟩ := fresh
  refine ⟨?_, ?_, ?_⟩
  · -- The key was looked for among those that came before it.
    refine List.nodup_append.mpr ⟨sound.distinct, by simp, ?_⟩
    intro a ha b hb same
    rw [List.mem_singleton] at hb
    rw [same, hb] at ha
    exact fresh ha
  · intro other mem
    rcases List.mem_append.mp mem with mem | mem
    · exact sound.unswept other mem
    · cases List.mem_singleton.mp mem
      exact ⟨d, found, by simpa using unswept, Decidable.not_not.mp wallet,
        Decidable.not_not.mp vault⟩
  · have worth := sound.worth
    have own : s.amountAt key = d.amount.toNat := by rw [amountAt, found]; rfl
    show value.toNat = sumOver s.amountAt (walk.swept ++ [key])
      + (if walk.mainSpent then claimedValue request.mainOutput else 0)
    rw [sumOver_append, sumOver_cons, sumOver_nil, own]
    omega

theorem takeMainOutput_sound {s : State} {request : SweepRequest} {walk next : Walk}
    {spent : Outpoint} (sound : s.SoundWalk request walk)
    (h : takeMainOutput request walk spent = .ok next) : s.SoundWalk request next := by
  unfold takeMainOutput at h
  split at h
  case h_2 => exact absurd h throw_ne_ok
  case h_1 output claimed =>
    split at h
    case isFalse => exact absurd h throw_ne_ok
    case isTrue first =>
      simp only [bind_ok_iff, pure_ok_iff] at h
      obtain ⟨value, sum, rfl⟩ := h
      have sum := Walk.add_ok_iff.mp sum
      -- The claimed output is counted once, as it may be spent only once.
      have unspent : walk.mainSpent = false := by
        simp only [Bool.and_eq_true, Bool.not_eq_true'] at first
        exact first.1
      refine ⟨sound.distinct, sound.unswept, ?_⟩
      have worth := sound.worth
      have own : claimedValue request.mainOutput = output.value.toNat := by
        rw [claimed]
        rfl
      rw [unspent] at worth
      show value.toNat = sumOver s.amountAt walk.swept + claimedValue request.mainOutput
      simp only [Bool.false_eq_true, if_false] at worth
      omega

/-- Taking an input keeps a walk sound. -/
theorem takeInput_sound {s : State} {request : SweepRequest} {walk next : Walk}
    {spent : Outpoint} (sound : s.SoundWalk request walk)
    (h : s.takeInput request walk spent = .ok next) : s.SoundWalk request next := by
  unfold takeInput at h
  split at h
  case h_1 d found => exact takeDeposit_sound sound found h
  case h_2 => exact takeMainOutput_sound sound h

/-- **Every walk over inputs that starts sound is sound.** -/
theorem walkInputs_sound {s : State} {request : SweepRequest} {count offset stop : Nat}
    {walk next : Walk} (sound : s.SoundWalk request walk)
    (h : s.walkInputs request count offset walk = .ok (next, stop)) :
    s.SoundWalk request next := by
  induction count generalizing offset walk with
  | zero =>
    cases h
    exact sound
  | succ count ih =>
    simp only [walkInputs, bind_ok_iff, mapError_ok_iff] at h
    obtain ⟨input, -, between, taken, h⟩ := h
    exact ih (takeInput_sound sound taken) h

/-- **The inputs of a sweep are worth its deposits and the main output that it claims.** -/
theorem takeInputs_sound {s : State} {request : SweepRequest} {walk : Walk}
    (h : s.takeInputs request = .ok walk) :
    s.SoundWalk request walk ∧
      walk.value.toNat = sumOver s.amountAt walk.swept + claimedValue request.mainOutput := by
  simp only [takeInputs, throw_bind, check_ok_iff, bind_ok_iff, mapError_ok_iff, pure_ok_iff] at h
  obtain ⟨count, -, ⟨last, stop⟩, walked, -, spent, rfl⟩ := h
  have start : s.SoundWalk request {} := ⟨List.nodup_nil, by simp, rfl⟩
  have sound := walkInputs_sound start walked
  refine ⟨sound, ?_⟩
  rw [sound.worth]
  cases claimed : request.mainOutput with
  | none => simp [claimedValue]
  | some output =>
    -- A walk that ends without the claimed output is refused.
    rw [claimed] at spent
    simp only [Option.isSome_some, Bool.true_and, Bool.not_eq_true, Bool.not_eq_false'] at spent
    rw [spent]
    rfl

/-! ## §2. One deposit settled. -/

/-- All that settling one deposit can do. -/
inductive Settles (now : UInt64) (sweepTxHash : TxHash) (p : Progress) (key : DepositKey)
    (share : UInt64) : Progress → Prop
  | ordinary {d : Deposit} {fees : UInt64}
      (found : p.state.deposits.get? key = some d)
      (untagged : d.isReserved = false)
      (sum : d.treasuryFee.toNat + share.toNat = fees.toNat)
      (left : fees.toNat < d.amount.toNat) :
      Settles now sweepTxHash p key share {
        state := { p.state with
          deposits := p.state.deposits.insert key { d with sweptAt := now } }
        events := p.events ++ [
          .depositSettled key d.depositor sweepTxHash (d.amount - fees) share d.treasuryFee]
        settled := p.settled ++ [
          ⟨key, d.depositor, d.amount - fees, share, d.treasuryFee, 0, false⟩] }
  | reserved {d : Deposit} {r final : Reservation}
      (found : p.state.deposits.get? key = some d)
      (tagged : d.isReserved = true)
      (kept : p.state.reservations.get? key = some r)
      (pending : r.status = .revealed)
      (balanced : r.isBalanced = true)
      (left : share.toNat < r.minted.toNat)
      (row : final = { r with minted := r.minted - share, sweepFee := share, status := .active }) :
      Settles now sweepTxHash p key share {
        state := { p.state with
          deposits := p.state.deposits.insert key { d with sweptAt := now }
          reservations := p.state.reservations.insert key final }
        events := p.events ++ [
          .reservationActivated key share final.minted,
          .depositSettled key d.depositor sweepTxHash final.minted share final.treasuryFee]
        settled := p.settled ++ [
          ⟨key, d.depositor, final.minted, share, final.treasuryFee, final.liquidationBonus,
            true⟩] }

/-- A reservation that is made active was pending and added up, and loses its share. -/
theorem finalize_ok {key : DepositKey} {r final : Reservation} {share : UInt64}
    (h : finalize key r share = .ok final) :
    r.status = .revealed ∧ r.isBalanced = true ∧ share.toNat < r.minted.toNat ∧
      final = { r with minted := r.minted - share, sweepFee := share, status := .active } := by
  simp only [finalize, throw_bind, check_ok_iff, pure_ok_iff] at h
  obtain ⟨pending, balanced, left, row⟩ := h
  refine ⟨Decidable.not_not.mp pending, by simpa using balanced, ?_, row.symm⟩
  exact UInt64.lt_iff_toNat_lt.mp (UInt64.not_le.mp left)

/-- An ordinary deposit that is settled is credited what its fees leave of it. -/
theorem settleOrdinary_ok {d : Deposit} {key : DepositKey} {share : UInt64} {x : Settlement}
    (h : settleOrdinary d key share = .ok x) :
    ∃ fees : UInt64, d.treasuryFee.toNat + share.toNat = fees.toNat ∧
      fees.toNat < d.amount.toNat ∧
      x = ⟨key, d.depositor, d.amount - fees, share, d.treasuryFee, 0, false⟩ := by
  unfold settleOrdinary at h
  split at h
  case h_1 => exact absurd h throw_ne_ok
  case h_2 fees sum =>
    simp only [throw_bind, check_ok_iff, pure_ok_iff] at h
    obtain ⟨left, rfl⟩ := h
    exact ⟨fees, Word.add?_eq_some_iff.mp sum, UInt64.lt_iff_toNat_lt.mp (UInt64.not_le.mp left),
      rfl⟩

/-- A deposit that is settled is settled in one of the two ways. -/
theorem settleOne_settles {now : UInt64} {sweepTxHash : TxHash} {p q : Progress}
    {key : DepositKey} {share : UInt64} (h : settleOne now sweepTxHash p key share = .ok q) :
    Settles now sweepTxHash p key share q := by
  unfold settleOne at h
  split at h
  case h_1 => exact absurd h throw_ne_ok
  case h_2 d found =>
    dsimp only at h
    split at h
    case isTrue tagged =>
      simp only [bind_ok_iff, pure_ok_iff] at h
      obtain ⟨⟨between, settled⟩, h, rfl⟩ := h
      unfold settleReserved at h
      split at h
      case h_1 => exact absurd h throw_ne_ok
      case h_2 r kept =>
        simp only [bind_ok_iff, mapError_ok_iff, pure_ok_iff] at h
        obtain ⟨final, finalized, h⟩ := h
        obtain ⟨pending, balanced, left, row⟩ := finalize_ok finalized
        cases h
        have settles : Settles now sweepTxHash p key share _ :=
          .reserved found tagged kept pending balanced left row
        simpa using settles
    case isFalse untagged =>
      simp only [bind_ok_iff, map_ok_iff, pure_ok_iff] at h
      obtain ⟨_, ⟨settled, h, rfl⟩, rfl⟩ := h
      obtain ⟨fees, sum, left, rfl⟩ := settleOrdinary_ok h
      exact .ordinary found (Bool.eq_false_iff.mpr untagged) sum left

/-- Settling deposits settles the first, and then the rest. -/
theorem settleAll_cons_ok {now : UInt64} {sweepTxHash : TxHash} {split : FeeSplit}
    {count place : Nat} {p q : Progress} {key : DepositKey} {rest : List DepositKey}
    (h : settleAll now sweepTxHash split count place p (key :: rest) = .ok q) :
    ∃ between, Settles now sweepTxHash p key (split.share place count) between ∧
      settleAll now sweepTxHash split count (place + 1) between rest = .ok q := by
  simp only [settleAll, bind_ok_iff] at h
  obtain ⟨between, first, others⟩ := h
  exact ⟨between, settleOne_settles first, others⟩

/-! ## §3. All deposits settled. -/

/-- What settling a deposit has distributed. -/
def worth (x : Settlement) : Nat :=
  x.credited.toNat + x.treasuryFee.toNat + x.liquidationBonus.toNat + x.feeShare.toNat

/-- What was distributed, by where it went. -/
theorem sumOver_worth (settled : List Settlement) :
    sumOver worth settled = sumOver (·.credited.toNat) settled
      + sumOver (·.treasuryFee.toNat) settled + sumOver (·.liquidationBonus.toNat) settled
      + sumOver (·.feeShare.toNat) settled := by
  unfold worth
  rw [sumOver_add, sumOver_add, sumOver_add]

/-- Pending reservations are worth their deposits and have paid nothing of a sweep's fee. -/
def Backs (s : State) : Prop :=
  ∀ key r, s.reservations.get? key = some r → r.status = .revealed →
    s.amountAt key = r.amount.toNat ∧ r.sweepFee = 0

section Run

variable {now : UInt64} {sweepTxHash : TxHash} {p q : Progress} {key : DepositKey}
  {share : UInt64} {split : FeeSplit} {count place : Nat} {keys : List DepositKey}

/-- Writing down when a deposit was swept changes no amount. -/
theorem amountAt_sweptAt {s next : State} {d : Deposit} (found : s.deposits.get? key = some d)
    (deposits : next.deposits = s.deposits.insert key { d with sweptAt := now })
    (other : DepositKey) : next.amountAt other = s.amountAt other := by
  unfold amountAt
  rw [deposits, Table.get?_insert_eq]
  by_cases same : other = key
  · rw [if_pos same, same, found]
    rfl
  · rw [if_neg same]

/-- Settling changes no amount. -/
theorem Settles.amountAt (h : Settles now sweepTxHash p key share q) (other : DepositKey) :
    q.state.amountAt other = p.state.amountAt other := by
  cases h with
  | ordinary found => exact amountAt_sweptAt found rfl other
  | reserved found => exact amountAt_sweptAt found rfl other

/-- Settling keeps pending reservations worth their deposits. -/
theorem Settles.backs (h : Settles now sweepTxHash p key share q) (backs : p.state.Backs) :
    q.state.Backs := by
  intro other r kept pending
  rw [h.amountAt]
  cases h with
  | ordinary => exact backs other r kept pending
  | reserved found tagged keptBefore pendingBefore balanced left row =>
    rw [Table.get?_insert_eq] at kept
    by_cases same : other = key
    · -- The settled reservation is not pending any more.
      rw [if_pos same] at kept
      cases kept
      rw [row] at pending
      cases pending
    · rw [if_neg same] at kept
      exact backs other r kept pending

/-- One settlement distributes what the deposit is worth. -/
theorem Settles.worth (h : Settles now sweepTxHash p key share q) (backs : p.state.Backs) :
    sumOver worth q.settled = sumOver worth p.settled + p.state.amountAt key := by
  cases h with
  | @ordinary d fees found untagged sum left =>
    have rest : (d.amount - fees).toNat = d.amount.toNat - fees.toNat := toNat_sub_of_lt left
    rw [sumOver_append, sumOver_cons, sumOver_nil, State.amountAt, found]
    simp only [State.worth, rest, Option.map_some, Option.getD_some, UInt64.toNat_zero]
    omega
  | @reserved d r final found tagged kept pending balanced left row =>
    obtain ⟨amount, unpaid⟩ := backs key r kept pending
    have identity := r.isBalanced_iff.mp balanced
    have rest : (r.minted - share).toNat = r.minted.toNat - share.toNat := toNat_sub_of_lt left
    rw [unpaid] at identity
    rw [sumOver_append, sumOver_cons, sumOver_nil, amount, row]
    simp only [State.worth, rest, UInt64.toNat_zero] at identity ⊢
    omega

/-- **A sweep distributes what its deposits are worth.** -/
theorem settleAll_worth (h : settleAll now sweepTxHash split count place p keys = .ok q)
    (backs : p.state.Backs) :
    sumOver worth q.settled = sumOver worth p.settled + sumOver p.state.amountAt keys := by
  induction keys generalizing place p with
  | nil =>
    cases h
    rfl
  | cons key rest ih =>
    obtain ⟨between, first, others⟩ := settleAll_cons_ok h
    have same : sumOver between.state.amountAt rest = sumOver p.state.amountAt rest :=
      sumOver_congr fun other _ => first.amountAt other
    rw [ih others (first.backs backs), first.worth backs, sumOver_cons, same]
    omega

/-- Settling one deposit reports it with its share. -/
theorem Settles.settled (h : Settles now sweepTxHash p key share q) :
    ∃ x, q.settled = p.settled ++ [x] ∧ x.key = key ∧ x.feeShare = share := by
  cases h with
  | ordinary => exact ⟨_, rfl, rfl, rfl⟩
  | reserved => exact ⟨_, rfl, rfl, rfl⟩

/-- The deposits are settled in the order of the keys. -/
theorem settleAll_keys (h : settleAll now sweepTxHash split count place p keys = .ok q) :
    q.settled.map (·.key) = p.settled.map (·.key) ++ keys := by
  induction keys generalizing place p with
  | nil =>
    cases h
    rw [List.append_nil]
  | cons key rest ih =>
    obtain ⟨between, first, others⟩ := settleAll_cons_ok h
    obtain ⟨x, settled, own, -⟩ := first.settled
    rw [ih others, settled, List.map_append, List.map_singleton, own, List.append_assoc]
    rfl

/-- The shares that are paid are all equal but for the last. -/
theorem settleAll_shares (h : settleAll now sweepTxHash split count place p keys = .ok q)
    (last : place + keys.length = count)
    (fits : split.each.toNat + split.remainder.toNat < UInt64.size) :
    sumOver (·.feeShare.toNat) q.settled = sumOver (·.feeShare.toNat) p.settled
      + split.each.toNat * keys.length + (if keys = [] then 0 else split.remainder.toNat) := by
  induction keys generalizing place p with
  | nil =>
    cases h
    simp
  | cons key rest ih =>
    obtain ⟨between, first, others⟩ := settleAll_cons_ok h
    obtain ⟨x, settled, -, share⟩ := first.settled
    rw [List.length_cons] at last
    rw [ih others (by omega), settled, sumOver_append, sumOver_cons, sumOver_nil, share,
      FeeSplit.share, List.length_cons, Nat.mul_succ, if_neg (List.cons_ne_nil key rest)]
    -- Only the last deposit bears what is left over.
    cases rest with
    | nil =>
      rw [if_pos (by simpa using last), UInt64.toNat_add, Nat.mod_eq_of_lt fits, if_pos rfl]
      omega
    | cons other others =>
      rw [List.length_cons] at last
      rw [if_neg (by omega), if_neg (List.cons_ne_nil _ _)]
      omega

/-- What has been settled before stays settled. -/
theorem settleAll_settled (h : settleAll now sweepTxHash split count place p keys = .ok q) :
    ∃ more, q.settled = p.settled ++ more := by
  induction keys generalizing place p with
  | nil =>
    cases h
    exact ⟨[], (List.append_nil _).symm⟩
  | cons key rest ih =>
    obtain ⟨between, first, others⟩ := settleAll_cons_ok h
    obtain ⟨x, settled, -⟩ := first.settled
    obtain ⟨more, later⟩ := ih others
    exact ⟨x :: more, by rw [later, settled, List.append_assoc, List.singleton_append]⟩

section Gains

variable (measure : DepositKey → Reservation → Nat) (gain : Settlement → Nat)

/-- A measure of reservations that pending ones do not have, and that a reservation has the gain of
its settlement in once it is active; ordinary settlements gain nothing. -/
structure Gains (settled : List Settlement) : Prop where
  ordinary : ∀ x, x.reserved = false → x.liquidationBonus = 0 → gain x = 0
  pending : ∀ key r, r.status = .revealed → measure key r = 0
  active : ∀ x ∈ settled, x.reserved = true → ∀ r, r.status = .active →
    r.minted = x.credited → r.liquidationBonus = x.liquidationBonus → measure x.key r = gain x

variable {measure gain}

/-- Settling one deposit moves a measure of the reservations by what it reports as gained. -/
theorem Settles.gains (h : Settles now sweepTxHash p key share q)
    (gains : Gains measure gain q.settled) :
    q.state.reservations.sumBy measure + sumOver gain p.settled
      = p.state.reservations.sumBy measure + sumOver gain q.settled := by
  cases h with
  | ordinary => simp [sumOver_append, gains.ordinary]
  | @reserved d r final found tagged kept waiting balanced left row =>
    have grown : measure key final = gain _ :=
      gains.active _ (List.mem_append_right _ List.mem_cons_self) rfl final (by rw [row]) rfl rfl
    have inserted := Table.sumBy_insert_of_some measure final kept
    rw [gains.pending key r waiting, grown] at inserted
    rw [sumOver_append, sumOver_cons, sumOver_nil]
    dsimp only
    omega

/-- **The sum of a measure of reservations grows by what the settlements gain.** -/
theorem settleAll_gains (h : settleAll now sweepTxHash split count place p keys = .ok q)
    (gains : Gains measure gain q.settled) :
    q.state.reservations.sumBy measure + sumOver gain p.settled
      = p.state.reservations.sumBy measure + sumOver gain q.settled := by
  induction keys generalizing place p with
  | nil =>
    cases h
    rfl
  | cons key rest ih =>
    obtain ⟨between, first, others⟩ := settleAll_cons_ok h
    obtain ⟨more, later⟩ := settleAll_settled others
    have here := first.gains { gains with
      active := fun x mem => gains.active x (by rw [later]; exact List.mem_append_left _ mem) }
    have after := ih others
    omega

end Gains

/-- The sum of a measure of reservations that a pending one does not have and an active one has
`weight` times its bonus of. -/
theorem settleAll_sumBy (h : settleAll now sweepTxHash split count place p keys = .ok q)
    (measure : DepositKey → Reservation → Nat) (weight : Nat)
    (pending : ∀ key r, r.status = .revealed → measure key r = 0)
    (active : ∀ key r, r.status = .active → measure key r = weight * r.liquidationBonus.toNat) :
    q.state.reservations.sumBy measure + weight * sumOver (·.liquidationBonus.toNat) p.settled
      = p.state.reservations.sumBy measure
        + weight * sumOver (·.liquidationBonus.toNat) q.settled := by
  rw [← sumOver_mul, ← sumOver_mul]
  refine settleAll_gains h ⟨?_, pending, ?_⟩
  · intro x _ unpaid
    rw [unpaid]
    rfl
  · intro x _ _ r own _ bonus
    rw [active x.key r own, bonus]

/-- What a sweep leaves alone. -/
theorem settleAll_frame (h : settleAll now sweepTxHash split count place p keys = .ok q) :
    q.state.wallets = p.state.wallets ∧ q.state.index = p.state.index ∧
      q.state.redemptions = p.state.redemptions ∧ q.state.vaults = p.state.vaults := by
  induction keys generalizing place p with
  | nil =>
    cases h
    exact ⟨rfl, rfl, rfl, rfl⟩
  | cons key rest ih =>
    obtain ⟨between, first, others⟩ := settleAll_cons_ok h
    have after := ih others
    cases first with
    | ordinary => exact after
    | reserved => exact after

end Run

/-- A new reservation adds its measure. -/
theorem sumBy_addReservation {s : State} {r : Reservation}
    (measure : DepositKey → Reservation → Nat) (fresh : s.reservations.get? r.key = none) :
    (s.addReservation r).reservations.sumBy measure
      = s.reservations.sumBy measure + measure r.key r :=
  Table.sumBy_insert_of_none measure r fresh

/-- A new reservation that has no measure leaves the sum as it was. -/
theorem sumBy_addReservation_of_zero {s : State} {r : Reservation}
    {measure : DepositKey → Reservation → Nat} (fresh : s.reservations.get? r.key = none)
    (nothing : measure r.key r = 0) :
    (s.addReservation r).reservations.sumBy measure = s.reservations.sumBy measure := by
  rw [sumBy_addReservation measure fresh, nothing, Nat.add_zero]

/-- A reservation that ends is measured with its new status. -/
theorem sumBy_endReservation {s : State} {key : DepositKey} {r : Reservation}
    (measure : DepositKey → Reservation → Nat) (status : ReservationStatus)
    (found : s.reservations.get? key = some r) :
    (s.endReservation key status).reservations.sumBy measure + measure key r
      = s.reservations.sumBy measure + measure key { r with status } := by
  unfold endReservation
  rw [Table.modify_of_some _ found]
  exact Table.sumBy_insert_of_some measure { r with status } found

/-! ## §4. The credits. -/

/-- A total that fits is exact. -/
theorem total_toNat {amounts : List UInt64} (fits : sumOver UInt64.toNat amounts < UInt64.size) :
    (total amounts).toNat = sumOver UInt64.toNat amounts := by
  -- The induction is on the amounts, from any sum that was reached before them.
  have general : ∀ start : UInt64, start.toNat + sumOver UInt64.toNat amounts < UInt64.size →
      (amounts.foldl (· + ·) start).toNat = start.toNat + sumOver UInt64.toNat amounts := by
    clear fits
    induction amounts with
    | nil =>
      intro start _
      rfl
    | cons amount rest ih =>
      intro start fits
      rw [sumOver_cons] at fits ⊢
      have sum : (start + amount).toNat = start.toNat + amount.toNat := by
        rw [UInt64.toNat_add]
        exact Nat.mod_eq_of_lt (by show _ < UInt64.size; omega)
      rw [List.foldl_cons, ih _ (by omega), sum]
      omega
  have := general 0 (by simpa using fits)
  rw [total, this]
  simp

/-- What the main operation of a sweep gives to the accounts of a set. -/
def creditedTo (s : State) (accounts : Identity → Bool) (vault : Option Identity)
    (settled : List Settlement) : Nat :=
  match vault with
  | some vault =>
    if s.trusts vault then
      if accounts vault then sumOver (·.credited.toNat) settled else 0
    else sumOver (fun x => if accounts x.depositor then x.credited.toNat else 0) settled
  | none => sumOver (fun x => if accounts x.depositor then x.credited.toNat else 0) settled

section Credits

variable (bridge : Identity) (accounts : Identity → Bool)

/-- Crediting depositors credits each for its own deposit. -/
theorem moves_depositors (settled : List Settlement) :
    Ledger.moves bridge
        (.increaseBalances (settled.map (·.depositor)) (settled.map (·.credited)))
      = settled.map fun x => .credit x.depositor x.credited := by
  show (if _ then _ else _) = _
  rw [if_pos (by rw [List.length_map, List.length_map])]
  induction settled with
  | nil => rfl
  | cons x rest ih => rw [List.map_cons, List.map_cons, List.zipWith_cons_cons, ih, List.map_cons]

/-- Some accounts gain what is credited for their deposits. -/
theorem gained_depositors (settled : List Settlement) :
    Ledger.gained bridge accounts
        [.increaseBalances (settled.map (·.depositor)) (settled.map (·.credited))]
      = sumOver (fun x => if accounts x.depositor then x.credited.toNat else 0) settled := by
  rw [Ledger.gained, Ledger.batchMoves, List.flatMap_singleton, moves_depositors, sumOver_map]
  rfl

theorem gained_one (account : Identity) (amount : UInt64) :
    Ledger.gained bridge accounts [.increaseBalance account amount]
      = if accounts account then amount.toNat else 0 := rfl

/-- An operation that is left out when there is nothing to give. -/
theorem gained_some (account : Identity) (amount : UInt64) :
    Ledger.gained bridge accounts (if 0 < amount then [.increaseBalance account amount] else [])
      = if accounts account then amount.toNat else 0 := by
  by_cases positive : 0 < amount
  · rw [if_pos positive, gained_one]
  · have nothing : amount.toNat = 0 := by
      have := mt UInt64.lt_iff_toNat_lt.mpr positive
      simpa using this
    rw [if_neg positive, Ledger.gained_nil, nothing, ite_self]

/-- **What the credits of a sweep give to the accounts of a set.** -/
theorem gained_credits (s : State) (params : Params) (vault : Option Identity)
    {settled : List Settlement} (fits : sumOver worth settled < UInt64.size) :
    Ledger.gained bridge accounts (s.credits params vault settled)
      = s.creditedTo accounts vault settled
        + (if accounts params.treasury then sumOver (·.treasuryFee.toNat) settled else 0)
        + (if accounts params.bridge then sumOver (·.liquidationBonus.toNat) settled else 0) := by
  have parts := sumOver_worth settled
  -- No single sum overflows, because all of them together do not.
  have exact (f : Settlement → UInt64) (h : sumOver (fun x => (f x).toNat) settled < UInt64.size) :
      (total (settled.map f)).toNat = sumOver (fun x => (f x).toNat) settled := by
    rw [total_toNat (by rw [sumOver_map]; exact h), sumOver_map]
  unfold credits
  rw [Ledger.gained_append, Ledger.gained_append, gained_some, gained_some,
    exact (·.treasuryFee) (by omega), exact (·.liquidationBonus) (by omega)]
  congr 2
  unfold creditedTo
  cases vault with
  | none => exact gained_depositors bridge accounts settled
  | some vault =>
    by_cases trusted : s.trusts vault = true
    · simp only [trusted, if_true]
      rw [gained_one, exact (·.credited) (by omega)]
    · simp only [trusted]
      exact gained_depositors bridge accounts settled

/-- The credits of a sweep take nothing from anybody. -/
theorem lost_credits (s : State) (params : Params) (vault : Option Identity)
    (settled : List Settlement) :
    Ledger.lost bridge accounts (s.credits params vault settled) = 0 := by
  have none_lost (account : Identity) (amount : UInt64) :
      Ledger.lost bridge accounts (if 0 < amount then [.increaseBalance account amount] else [])
        = 0 := by
    split <;> rfl
  have depositors : Ledger.lost bridge accounts
      [.increaseBalances (settled.map (·.depositor)) (settled.map (·.credited))] = 0 := by
    rw [Ledger.lost, Ledger.batchMoves, List.flatMap_singleton, moves_depositors, sumOver_map]
    exact sumOver_zero settled
  unfold credits
  rw [Ledger.lost_append, Ledger.lost_append, none_lost, none_lost]
  cases vault with
  | none => exact depositors
  | some vault =>
    by_cases trusted : s.trusts vault = true
    · simp only [trusted, if_true]
      rfl
    · simp only [trusted]
      exact depositors

end Credits

/-! ## §5. The whole sweep. -/

/-- What an accepted sweep has checked, and the transition that it proposes. -/
inductive Sweeps (s : State) (params : Params) (request : SweepRequest) (hash : TxHash)
    (now : UInt64) : Transition SweepOutcome → Prop
  | mk {value fee : UInt64} {walk : Walk} {split : FeeSplit} {p : Progress}
      (sweepable : (s.walletState request.walletKeyHash).acceptsSweeps = true)
      (claimed : request.mainOutput.map MainOutput.hash
        = (s.wallets.get? request.walletKeyHash).bind (·.mainOutputHash))
      (paid : sweptValue request.tx request.walletKeyHash = .ok value)
      (taken : s.takeInputs request = .ok walk)
      (left : walk.value.toNat = value.toNat + fee.toNat)
      (divided : splitFee? fee walk.swept.length = some split)
      (capped : split.maxShare ≤ params.deposit.maxFeeShare)
      (settled : settleAll now hash split walk.swept.length 0 { state := s } walk.swept = .ok p) :
      Sweeps s params request hash now {
        state := { p.state with
          wallets := p.state.wallets.modify request.walletKeyHash fun row =>
            { row with mainOutputHash := some (MainOutput.hash ⟨hash, 0, value⟩) } }
        events := p.events ++ [
          .depositsSwept request.walletKeyHash hash (UInt64.ofNat p.settled.length) fee,
          .mainOutputUpdated request.walletKeyHash ⟨hash, 0, value⟩]
        ledgerOps := s.credits params request.vault p.settled
        output := ⟨hash, ⟨hash, 0, value⟩, fee, p.settled⟩ }

/-- A wallet passes the check exactly if its stage accepts sweeps and the main output that is
claimed is the one it has. -/
theorem checkWallet_ok_iff {s : State} {wallet : PubKeyHash} {claimed : Option MainOutput} :
    s.checkWallet wallet claimed = .ok () ↔
      (s.walletState wallet).acceptsSweeps = true ∧
      claimed.map MainOutput.hash = (s.wallets.get? wallet).bind (·.mainOutputHash) := by
  constructor
  · intro h
    unfold checkWallet at h
    split at h
    case isTrue => cases h
    case isFalse sweepable =>
      refine ⟨by simpa using sweepable, ?_⟩
      split at h
      case h_1 kept output found =>
        split at h
        case isTrue same => rw [Option.map_some, same, found]
        case isFalse => cases h
      case h_2 => cases h
      case h_3 => cases h
      case h_4 found => rw [Option.map_none, found]
  · rintro ⟨sweepable, same⟩
    unfold checkWallet
    rw [sweepable, ← same]
    cases claimed with
    | none => rfl
    | some output => exact if_pos rfl

/-- The fee of a sweep is split exactly if there is one, there is a deposit, and the largest share
is within the cap. -/
theorem sweepSplit_ok_iff {params : DepositParams} {walk : Walk} {value fee : UInt64}
    {split : FeeSplit} : sweepSplit params walk value = .ok (fee, split) ↔
      walk.value.toNat = value.toNat + fee.toNat ∧ splitFee? fee walk.swept.length = some split ∧
      split.maxShare ≤ params.maxFeeShare := by
  constructor
  · intro h
    unfold sweepSplit at h
    split at h
    case h_1 => exact absurd h throw_ne_ok
    case h_2 fee' left =>
      split at h
      case h_1 => exact absurd h throw_ne_ok
      case h_2 split' parts =>
        simp only [throw_bind, check_ok_iff, pure_ok_iff] at h
        obtain ⟨capped, same⟩ := h
        cases same
        exact ⟨Word.sub?_eq_some_iff.mp left, parts, UInt64.not_lt.mp capped⟩
  · rintro ⟨left, divided, capped⟩
    simp only [sweepSplit, Word.sub?_eq_some_iff.mpr left, divided, throw_bind, check_ok_iff]
    exact ⟨UInt64.not_lt.mpr capped, rfl⟩

/-- **A sweep is accepted exactly where all its steps pass**, and with this transition. -/
theorem settleSweep_ok_iff {s : State} {params : Params} {request : SweepRequest} {hash : TxHash}
    {now : UInt64} {t : Transition SweepOutcome} :
    s.settleSweep params request hash now = .ok t ↔ s.Sweeps params request hash now t := by
  simp only [settleSweep, bind_ok_iff]
  constructor
  · rintro ⟨⟨⟩, checked, value, paid, walk, taken, ⟨fee, split⟩, divided, p, settled, h⟩
    cases pure_ok_iff.mp h
    obtain ⟨sweepable, claimed⟩ := checkWallet_ok_iff.mp checked
    obtain ⟨left, parts, capped⟩ := sweepSplit_ok_iff.mp divided
    exact .mk sweepable claimed paid taken left parts capped settled
  · rintro ⟨sweepable, claimed, paid, taken, left, divided, capped, settled⟩
    exact ⟨(), checkWallet_ok_iff.mpr ⟨sweepable, claimed⟩, _, paid, _, taken, _,
      sweepSplit_ok_iff.mpr ⟨left, divided, capped⟩, _, settled, rfl⟩

/-- **What a sweep credits, with the main output that it spends, is its one output.** -/
theorem settled_value {s : State} {request : SweepRequest} {hash : TxHash} {now value fee : UInt64}
    {walk : Walk} {split : FeeSplit} {p : Progress} (backs : s.Backs)
    (taken : s.takeInputs request = .ok walk)
    (left : walk.value.toNat = value.toNat + fee.toNat)
    (divided : splitFee? fee walk.swept.length = some split)
    (settled : settleAll now hash split walk.swept.length 0 { state := s } walk.swept = .ok p) :
    sumOver worth p.settled < UInt64.size ∧
      sumOver (·.credited.toNat) p.settled + sumOver (·.treasuryFee.toNat) p.settled
        + sumOver (·.liquidationBonus.toNat) p.settled + claimedValue request.mainOutput
        = value.toNat := by
  have distributed := settleAll_worth settled backs
  have inputs := (takeInputs_sound taken).2
  have parts := split_parts divided
  have bound : walk.value.toNat < UInt64.size := walk.value.toNat_lt
  have some_swept : walk.swept ≠ [] := by
    intro none_swept
    rw [none_swept] at divided
    cases divided
  have many : 1 ≤ walk.swept.length := List.length_pos_iff.mpr some_swept
  have each : split.each.toNat ≤ split.each.toNat * walk.swept.length :=
    Nat.le_mul_of_pos_right _ many
  have shares := settleAll_shares settled (by rw [Nat.zero_add]) (by omega)
  rw [if_neg some_swept] at shares
  simp only [sumOver_nil, Nat.zero_add] at distributed shares
  have worths := sumOver_worth p.settled
  -- inputs = worth = credits + fees + bonuses + shares, and shares = fee = inputs - output
  omega

end State

end Custody
