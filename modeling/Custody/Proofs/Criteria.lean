/-
  Custody.Proofs.Criteria
  ────────────────────────────────
  **WHEN A SWEEP IS SETTLED.**

  A sweep is checked on the way: its inputs while they are read, its deposits
  while they are settled.  What is checked can be said in advance, of the
  state, the request and the outpoints that the sweep spends, and but for the
  share of the last deposit in no order.  `Settleable` says it, and a sweep is
  settled exactly where it holds.

  That needs books on which every pending reservation adds up, as they do after
  any run.

  Main facts:
    * `settleSweep_iff_settleable` — on sound books a sweep is settled exactly
                                    where it can be;
    * `sweep_settled_iff`         — so it is after any run, and then settles
                                    each deposit with its share.
-/
import Custody.Proofs.Settlements
import Custody.Proofs.Spendings

namespace Custody

namespace State

variable {s : State} {params : Params} {request : SweepRequest} {hash : TxHash} {now : UInt64}

/-! ## §1. What is checked. -/

/-- What the inputs of a sweep are worth: its deposits, and the main output that is claimed. -/
def worthOf (s : State) (request : SweepRequest) (outpoints : List Outpoint) : Nat :=
  sumOver s.amountAt (s.spentDeposits outpoints) + claimedValue request.mainOutput

/-- What a sweep has to be to be settled: `outpoints` are what it spends, and `value` is what it
pays. -/
structure Settleable (s : State) (params : DepositParams) (request : SweepRequest)
    (outpoints : List Outpoint) (value : UInt64) : Prop where
  stage : s.walletState request.walletKeyHash = .live ∨
    s.walletState request.walletKeyHash = .movingFunds
  /-- What is claimed has the digest that the wallet keeps; or neither is there. -/
  claim : request.mainOutput.map MainOutput.hash
    = (s.wallets.get? request.walletKeyHash).bind (·.mainOutputHash)
  pays : request.tx.Pays request.walletKeyHash value
  spends : request.tx.Spends outpoints
  /-- The deposits among the inputs are there once each, and at least one is. -/
  distinct : (s.spentDeposits outpoints).Nodup
  some_deposit : s.spentDeposits outpoints ≠ []
  eligible : ∀ key ∈ s.spentDeposits outpoints, ∀ d, s.deposits.get? key = some d →
    d.sweptAt = 0 ∧ d.walletKeyHash = request.walletKeyHash ∧ d.vault = request.vault ∧
    (d.isReserved = true → ∃ r, s.reservations.get? key = some r ∧ r.status = .revealed)
  /-- The other inputs are the claimed main output, once; or none. -/
  others : s.strangers outpoints = (request.mainOutput.map MainOutput.outpoint).toList
  fits : s.worthOf request outpoints < UInt64.size
  covers : value.toNat ≤ s.worthOf request outpoints
  capped : (s.worthOf request outpoints - value.toNat) / (s.spentDeposits outpoints).length
      + (s.worthOf request outpoints - value.toNat) % (s.spentDeposits outpoints).length
    ≤ params.maxFeeShare.toNat
  /-- An ordinary deposit is worth more than the treasury's fee and its share. -/
  ordinary : ∀ i key d, (s.spentDeposits outpoints)[i]? = some key →
    s.deposits.get? key = some d → d.isReserved = false →
    d.treasuryFee.toNat + feeShare (s.worthOf request outpoints - value.toNat)
      (s.spentDeposits outpoints).length i < d.amount.toNat
  /-- A reservation mints more than its share. -/
  reserved : ∀ i key d r, (s.spentDeposits outpoints)[i]? = some key →
    s.deposits.get? key = some d → d.isReserved = true → s.reservations.get? key = some r →
    feeShare (s.worthOf request outpoints - value.toNat) (s.spentDeposits outpoints).length i
      < r.minted.toNat

/-- Every pending reservation adds up. -/
def PendingBalanced (s : State) : Prop :=
  ∀ key r, s.reservations.get? key = some r → r.status = .revealed → r.isBalanced = true

theorem Standing.pendingBalanced (standing : s.Standing) : s.PendingBalanced :=
  fun key r kept _ => ((standing.held key).balanced r kept).1

/-! ## §2. The steps pass where the sweep can be settled. -/

/-- Sweeps are accepted while a wallet is live or moves its funds. -/
theorem acceptsSweeps_iff {stage : WalletState} :
    stage.acceptsSweeps = true ↔ stage = .live ∨ stage = .movingFunds := by
  cases stage <;> decide

/-- What has been settled bears its share: an ordinary deposit beside the treasury's fee, and a
reserved one by its reservation, which was pending. -/
theorem settledAs_bears {key : DepositKey} {share : UInt64} {x : Settlement} {next : Holding}
    {d : Deposit} (h : SettledAs now key share (s.holding key) x next)
    (found : s.deposits.get? key = some d) :
    (d.isReserved = false → d.treasuryFee.toNat + share.toNat < d.amount.toNat) ∧
    (d.isReserved = true → ∃ r, s.reservations.get? key = some r ∧ r.status = .revealed ∧
      share.toNat < r.minted.toNat) := by
  generalize held : s.holding key = before at h
  cases h with
  | ordinary untagged left =>
    cases found.symm.trans (congrArg Holding.deposit held)
    exact ⟨fun _ => left, fun tagged => absurd (untagged.symm.trans tagged) Bool.false_ne_true⟩
  | reserved tagged pending balanced left =>
    cases found.symm.trans (congrArg Holding.deposit held)
    exact ⟨fun untagged => absurd (untagged.symm.trans tagged) Bool.false_ne_true,
      fun _ => ⟨_, congrArg Holding.reservation held, pending, left⟩⟩

/-- Every deposit of a sweep that was settled bears its share. -/
theorem settleAll_bears {fee : UInt64} {split : FeeSplit} {keys : List DepositKey} {p : Progress}
    (settled : settleAll now hash split keys.length 0 { state := s } keys = .ok p)
    (divided : splitFee? fee keys.length = some split) (distinct : keys.Nodup) {i : Nat}
    {key : DepositKey} {d : Deposit} (at_i : keys[i]? = some key)
    (found : s.deposits.get? key = some d) :
    (d.isReserved = false →
      d.treasuryFee.toNat + feeShare fee.toNat keys.length i < d.amount.toNat) ∧
    (d.isReserved = true → ∃ r, s.reservations.get? key = some r ∧ r.status = .revealed ∧
      feeShare fee.toNat keys.length i < r.minted.toNat) := by
  obtain ⟨x, share, -, same, own⟩ := settleAll_each settled divided distinct at_i
  rw [← same]
  exact settledAs_bears own found

/-- What bears its share can be settled, if pending reservations add up. -/
theorem settledAs_of_bears {key : DepositKey} {share : UInt64} {d : Deposit}
    (balanced : s.PendingBalanced) (found : s.deposits.get? key = some d)
    (ordinary : d.isReserved = false → d.treasuryFee.toNat + share.toNat < d.amount.toNat)
    (reserved : d.isReserved = true → ∃ r, s.reservations.get? key = some r ∧
      r.status = .revealed ∧ share.toNat < r.minted.toNat) :
    ∃ x next, SettledAs now key share (s.holding key) x next := by
  unfold holding
  rw [found]
  cases tag : d.isReserved with
  | false => exact ⟨_, _, .ordinary tag (ordinary tag)⟩
  | true =>
    obtain ⟨r, kept, pending, left⟩ := reserved tag
    rw [kept]
    exact ⟨_, _, .reserved tag pending (balanced key r kept pending) left⟩

/-- What comes of a settled sweep: its main output, its fee, how each deposit was settled with its
share, and nothing else but the credits and the digest that the wallet keeps. -/
structure Reports (s : State) (params : Params) (request : SweepRequest)
    (outpoints : List Outpoint) (value : UInt64) (hash : TxHash) (now : UInt64)
    (t : Transition SweepOutcome) : Prop where
  txHash : t.output.sweepTxHash = hash
  mainOutput : t.output.mainOutput = ⟨hash, 0, value⟩
  fee : s.worthOf request outpoints = value.toNat + t.output.totalFee.toNat
  keys : t.output.settled.map (·.key) = s.spentDeposits outpoints
  each : ∀ i key, (s.spentDeposits outpoints)[i]? = some key → ∃ x share,
    t.output.settled[i]? = some x ∧
    share.toNat = feeShare t.output.totalFee.toNat (s.spentDeposits outpoints).length i ∧
    SettledAs now key share (s.holding key) x (t.state.holding key)
  others : ∀ key, key ∉ s.spentDeposits outpoints → t.state.holding key = s.holding key
  wallets : t.state.wallets = s.wallets.modify request.walletKeyHash fun row =>
    { row with mainOutputHash := some (MainOutput.hash ⟨hash, 0, value⟩) }
  index : t.state.index = s.index
  vaults : t.state.vaults = s.vaults
  ledgerOps : t.ledgerOps = s.credits params request.vault t.output.settled

/-- **An accepted sweep was one to be settled, and reports how it was.** -/
theorem Sweeps.reports {t : Transition SweepOutcome} (h : s.Sweeps params request hash now t) :
    ∃ outpoints value, s.Settleable params.deposit request outpoints value ∧
      s.Reports params request outpoints value hash now t := by
  cases h with
  | @mk value fee walk split p sweepable claimed paid taken left divided capped settled =>
    have worth := (takeInputs_sound taken).2
    obtain ⟨outpoints, spends, takes, main⟩ := takeInputs_ok_iff.mp taken
    have keys : s.spentDeposits outpoints = walk.swept := takes.swept.symm
    have total : s.worthOf request outpoints = walk.value.toNat := by
      rw [worthOf, keys, worth]
    have rest : s.worthOf request outpoints - value.toNat = fee.toNat := by omega
    obtain ⟨wallets, index, -, vaults⟩ := settleAll_frame settled
    refine ⟨outpoints, value, {
      stage := acceptsSweeps_iff.mp sweepable
      claim := claimed
      pays := sweptValue_ok_iff.mp paid
      spends := spends
      distinct := keys ▸ takes.distinct
      some_deposit := ?_
      eligible := ?_
      others := ?_
      fits := total ▸ walk.value.toNat_lt
      covers := by omega
      capped := ?_
      ordinary := ?_
      reserved := ?_ }, {
      txHash := rfl
      mainOutput := rfl
      fee := total.trans left
      keys := by rw [keys]; exact settleAll_keys settled
      each := by rw [keys]; exact fun i key => settleAll_each settled divided takes.distinct
      others := by rw [keys]; exact fun key absent => settleAll_holding_other settled absent
      wallets := by rw [← wallets]
      index := index
      vaults := vaults
      ledgerOps := rfl }⟩
    -- some_deposit, eligible, others, capped, ordinary and reserved
    · rintro nothing
      rw [← keys, nothing] at divided
      cases divided
    · rw [keys]
      intro key mem d found
      obtain ⟨d', found', unswept, wallet, vault⟩ := takes.unswept key mem
      rw [found] at found'
      cases found'
      refine ⟨by simpa [Deposit.isSwept] using unswept, wallet, vault, fun tagged => ?_⟩
      obtain ⟨i, at_i⟩ := List.mem_iff_getElem?.mp mem
      have bears := settleAll_bears settled divided takes.distinct at_i found
      obtain ⟨r, kept, pending, -⟩ := bears.2 tagged
      exact ⟨r, kept, pending⟩
    · rw [takes.others, main]
      cases request.mainOutput <;> rfl
    · rw [rest, keys, ← toNat_maxShare divided]
      exact UInt64.le_iff_toNat_le.mp capped
    · rw [rest, keys]
      exact fun i key d at_i found => (settleAll_bears settled divided takes.distinct at_i found).1
    · rw [rest, keys]
      intro i key d r at_i found tagged kept
      have bears := settleAll_bears settled divided takes.distinct at_i found
      obtain ⟨r', kept', -, left⟩ := bears.2 tagged
      rw [kept] at kept'
      cases kept'
      exact left

/-- What the walk over the inputs finds, of a sweep that can be settled. -/
theorem Settleable.takes {terms : DepositParams} {outpoints : List Outpoint} {value : UInt64}
    (can : s.Settleable terms request outpoints value) :
    s.Takes request outpoints ⟨s.spentDeposits outpoints, request.mainOutput.isSome,
      UInt64.ofNat (s.worthOf request outpoints)⟩ where
  distinct := can.distinct
  unswept := by
    intro key mem
    obtain ⟨d, found⟩ := Option.isSome_iff_exists.mp (List.mem_filter.mp mem).2
    obtain ⟨unswept, wallet, vault, -⟩ := can.eligible key mem d found
    exact ⟨d, found, by simp [Deposit.isSwept, unswept], wallet, vault⟩
  worth := by
    dsimp only
    rw [UInt64.toNat_ofNat_of_lt' can.fits, worthOf]
    cases request.mainOutput <;> rfl
  swept := rfl
  claimed := id
  others := by
    rw [can.others]
    cases request.mainOutput <;> rfl

/-- **A sweep that can be settled is**, on books on which pending reservations add up. -/
theorem Settleable.settles {outpoints : List Outpoint} {value : UInt64}
    (can : s.Settleable params.deposit request outpoints value) (balanced : s.PendingBalanced) :
    ∃ t, s.settleSweep params request hash now = .ok t := by
  have taken := takeInputs_ok_iff.mpr ⟨outpoints, can.spends, can.takes, rfl⟩
  -- This is the fee, and its split.
  have covers := can.covers
  have fits := can.fits
  have fee : (UInt64.ofNat (s.worthOf request outpoints - value.toNat)).toNat
      = s.worthOf request outpoints - value.toNat := UInt64.toNat_ofNat_of_lt' (by omega)
  obtain ⟨split, divided⟩ : ∃ split,
      splitFee? (UInt64.ofNat (s.worthOf request outpoints - value.toNat))
        (s.spentDeposits outpoints).length = some split :=
    ⟨_, if_neg (mt List.length_eq_zero_iff.mp can.some_deposit)⟩
  have share (place : Nat) := toNat_share divided place
  rw [fee] at share
  have capped : split.maxShare ≤ params.deposit.maxFeeShare := by
    rw [UInt64.le_iff_toNat_le, toNat_maxShare divided, fee]
    exact can.capped
  -- Each deposit bears its share.
  obtain ⟨p, settled⟩ : ∃ p, settleAll now hash split (s.spentDeposits outpoints).length 0
      { state := s } (s.spentDeposits outpoints) = .ok p := by
    refine settleAll_of_settledAs can.distinct fun i key at_i => ?_
    have mem := List.mem_of_getElem? at_i
    obtain ⟨d, found⟩ := Option.isSome_iff_exists.mp (List.mem_filter.mp mem).2
    refine settledAs_of_bears balanced found (fun untagged => ?_) (fun tagged => ?_)
    · rw [share, Nat.zero_add]
      exact can.ordinary i key d at_i found untagged
    · obtain ⟨-, -, -, kept⟩ := can.eligible key mem d found
      obtain ⟨r, kept, pending⟩ := kept tagged
      rw [share, Nat.zero_add]
      exact ⟨r, kept, pending, can.reserved i key d r at_i found tagged kept⟩
  exact ⟨_, settleSweep_ok_iff.mpr (.mk (acceptsSweeps_iff.mpr can.stage) can.claim
    (sweptValue_ok_iff.mpr can.pays) taken
    (by rw [fee, UInt64.toNat_ofNat_of_lt' fits]; omega) divided capped settled)⟩

/-- There is one list of outpoints and one value that a sweep can be settled with. -/
theorem Settleable.unique {outpoints outpoints' : List Outpoint} {value value' : UInt64}
    (one : s.Settleable params.deposit request outpoints value)
    (other : s.Settleable params.deposit request outpoints' value') :
    outpoints = outpoints' ∧ value = value' :=
  ⟨one.spends.unique other.spends, (one.pays.unique other.pays).2⟩

/-- On books on which pending reservations add up, a sweep is settled exactly where it can be. -/
theorem settleSweep_iff_settleable (balanced : s.PendingBalanced) :
    (∃ t, s.settleSweep params request hash now = .ok t) ↔
      ∃ outpoints value, s.Settleable params.deposit request outpoints value := by
  constructor
  · rintro ⟨t, accepted⟩
    obtain ⟨outpoints, value, can, -⟩ := (settleSweep_ok_iff.mp accepted).reports
    exact ⟨outpoints, value, can⟩
  · rintro ⟨outpoints, value, can⟩
    exact can.settles balanced

end State

/-! ## §3. After any run. -/

theorem World.Reached.standing {σ : Type} [Store σ] {params : Params} {orders : List Order}
    {w : World σ} (reached : w.Reached params orders) : w.service.state.Standing :=
  reached.invariant (fun service => service.state.Standing) .empty
    fun _ _ _ _ _ standing accepted _ => accepted.standing standing

/-- **After any run a sweep is settled exactly where it can be**, and what is settled is reported:
which deposits, with which share of the fee, and what is held under their keys then. -/
theorem sweep_settled_iff {σ : Type} [Store σ] {params : Params} {orders : List Order} {w : World σ}
    (reached : w.Reached params orders) (terms : Params) (request : SweepRequest) (hash : TxHash)
    (now : UInt64) :
    ((∃ t, w.service.state.settleSweep terms request hash now = .ok t) ↔
      ∃ outpoints value, w.service.state.Settleable terms.deposit request outpoints value) ∧
    ∀ t outpoints value, w.service.state.settleSweep terms request hash now = .ok t →
      w.service.state.Settleable terms.deposit request outpoints value →
      w.service.state.Reports terms request outpoints value hash now t := by
  refine ⟨State.settleSweep_iff_settleable reached.standing.pendingBalanced, ?_⟩
  intro t outpoints value accepted can
  obtain ⟨_, _, found, reports⟩ := (State.settleSweep_ok_iff.mp accepted).reports
  obtain ⟨rfl, rfl⟩ := found.unique can
  exact reports

namespace Sample

/-- The sample run up to its second sweep. -/
def ripe : World Volatile := (World.mk (Service.opened {}) Volatile.empty).serve (orders.take 4)

end Sample

/-- In the sample run the second sweep can be settled, and not without the main output that it
spends. -/
theorem sweep_settled_iff_sample :
    Sample.ripe.Reached {} (Sample.orders.take 4) ∧
    (∃ outpoints value, Sample.ripe.service.state.Settleable ({} : Params).deposit
      (Sample.sweep Sample.second Sample.firstOutput) outpoints value) ∧
    ¬ ∃ outpoints value, Sample.ripe.service.state.Settleable ({} : Params).deposit
      (Sample.sweep Sample.second none) outpoints value := by
  have reached : Sample.ripe.Reached {} (Sample.orders.take 4) := Volatile.reached_serve ..
  obtain ⟨settles, refused⟩ :
      (Sample.ripe.service.state.settleSweep {} (Sample.sweep Sample.second Sample.firstOutput)
        Sample.second.hash 5).isOk = true ∧
      (Sample.ripe.service.state.settleSweep {} (Sample.sweep Sample.second none)
        Sample.second.hash 5).isOk = false := by
    decide +kernel
  refine ⟨reached, ?_, fun can => ?_⟩
  · refine (sweep_settled_iff reached {} _ Sample.second.hash 5).1.mp ?_
    cases accepted : Sample.ripe.service.state.settleSweep {}
        (Sample.sweep Sample.second Sample.firstOutput) Sample.second.hash 5 with
    | error fault =>
      rw [accepted] at settles
      cases settles
    | ok t => exact ⟨t, rfl⟩
  · obtain ⟨t, accepted⟩ := (sweep_settled_iff reached {} _ Sample.second.hash 5).1.mpr can
    rw [accepted] at refused
    cases refused

end Custody
