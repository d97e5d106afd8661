/-
  Custody.Proofs.Reorderings
  ────────────────────────────────
  **WHAT THE ORDER OF THE INPUTS DECIDES.**

  The fee of a sweep is divided evenly among its deposits, and the last one
  bears what is left over.  So whoever builds a sweep can have another deposit
  bear the remainder by listing the inputs in another order.  That is all that
  the order decides: what is taken, what the treasury and the pool get and
  what is minted in all are the same, and so is what is kept, but for the
  reservations of the two deposits that come last.

  Each deposit is settled as if it were alone, so the two sweeps are compared
  deposit by deposit, and not step by step.

  Main facts:
    * `SettledAs.near`  — two shares that are near settle a deposit nearly alike;
    * `Reports.near`    — so two orders settle every deposit nearly alike;
    * `Reports.sameBut` — and lead to states that are nearly the same;
    * `order_moves_remainder` — after any run the order moves the remainder.
-/
import Custody.Proofs.Backing
import Custody.Proofs.Criteria

namespace Custody

/-! ## §1. One deposit with two shares. -/

/-- Two numbers are at most `slack` apart. -/
def Within (slack a b : Nat) : Prop := a ≤ b + slack ∧ b ≤ a + slack

/-- Two settlements of a deposit, of which one may credit a little less than the other because its
share of the fee is a little more. -/
structure Settlement.Near (slack : Nat) (x x' : Settlement) : Prop where
  depositor : x.depositor = x'.depositor
  treasuryFee : x.treasuryFee = x'.treasuryFee
  liquidationBonus : x.liquidationBonus = x'.liquidationBonus
  reserved : x.reserved = x'.reserved
  credited : Within slack x.credited.toNat x'.credited.toNat
  feeShare : Within slack x.feeShare.toNat x'.feeShare.toNat

/-- A reservation without what the share of the fee decides. -/
def Reservation.butShare (r : Reservation) : Reservation := { r with minted := 0, sweepFee := 0 }

/-- What is held under a key in two states, up to what the share of the fee decides. -/
structure Holding.Near (held held' : Holding) : Prop where
  deposit : held.deposit = held'.deposit
  reservation : held.reservation.map Reservation.butShare
    = held'.reservation.map Reservation.butShare
  redemption : held.redemption = held'.redemption

theorem Holding.Near.of_eq {held held' : Holding} (same : held = held') : held.Near held' :=
  same ▸ ⟨rfl, rfl, rfl⟩

section Alone

variable {now : UInt64} {key : DepositKey} {share share' : UInt64} {x x' : Settlement}
  {held next next' : Holding}

/-- The share decides what comes of a deposit. -/
theorem SettledAs.unique (one : SettledAs now key share held x next)
    (other : SettledAs now key share held x' next') : x = x' ∧ next = next' := by
  cases one with
  | ordinary untagged =>
    cases other with
    | ordinary => exact ⟨rfl, rfl⟩
    | reserved tagged => exact absurd (untagged.symm.trans tagged) Bool.false_ne_true
  | reserved tagged =>
    cases other with
    | ordinary untagged => exact absurd (untagged.symm.trans tagged) Bool.false_ne_true
    | reserved => exact ⟨rfl, rfl⟩

/-- **Shares that are near settle a deposit nearly alike.** -/
theorem SettledAs.near {slack : Nat} (one : SettledAs now key share held x next)
    (other : SettledAs now key share' held x' next')
    (shares : Within slack share.toNat share'.toNat) : x.Near slack x' ∧ next.Near next' := by
  obtain ⟨more, less⟩ := shares
  cases one with
  | @ordinary d r owed untagged left =>
    cases other with
    | reserved tagged => exact absurd (untagged.symm.trans tagged) Bool.false_ne_true
    | ordinary _ left' =>
      -- What is credited is what the treasury's fee and the share leave.
      have credited {paid : UInt64} (left : d.treasuryFee.toNat + paid.toNat < d.amount.toNat) :
          (d.amount - (d.treasuryFee + paid)).toNat
            = d.amount.toNat - (d.treasuryFee.toNat + paid.toNat) := by
        have fees := toNat_add_of_lt (Nat.lt_trans left d.amount.toNat_lt)
        rw [toNat_sub_of_lt (fees ▸ left), fees]
      refine ⟨⟨rfl, rfl, rfl, rfl, ?_, more, less⟩, .of_eq rfl⟩
      dsimp only
      rw [credited left, credited left']
      constructor <;> omega
  | @reserved d r owed tagged pending balanced left =>
    cases other with
    | ordinary untagged => exact absurd (untagged.symm.trans tagged) Bool.false_ne_true
    | reserved _ _ _ left' =>
      refine ⟨⟨rfl, rfl, rfl, rfl, ?_, more, less⟩, ⟨rfl, rfl, rfl⟩⟩
      dsimp only
      rw [toNat_sub_of_lt left, toNat_sub_of_lt left']
      constructor <;> omega

end Alone

/-- Two shares of a fee differ at most by what is left over. -/
theorem feeShare_within (fee count i j : Nat) :
    Within (fee % count) (feeShare fee count i) (feeShare fee count j) := by
  unfold Within feeShare
  split <;> split <;> omega

/-- All shares but the last are the same. -/
theorem feeShare_of_ne {fee count i : Nat} (early : i + 1 ≠ count) :
    feeShare fee count i = fee / count := by
  rw [feeShare, if_neg early, Nat.add_zero]

/-! ## §2. Two orders of the same inputs. -/

/-- Two requests to settle a sweep that differ at most in the order of its inputs: one lists
`outpoints`, and the other lists `outpoints'`. -/
structure Reordered (request request' : SweepRequest) (outpoints outpoints' : List Outpoint) :
    Prop where
  wallet : request.walletKeyHash = request'.walletKeyHash
  vault : request.vault = request'.vault
  mainOutput : request.mainOutput = request'.mainOutput
  outputs : request.tx.outputVector = request'.tx.outputVector
  spends : request.tx.Spends outpoints
  spends' : request'.tx.Spends outpoints'
  listed : outpoints.Perm outpoints'

/-- What a transaction pays is told from its outputs alone. -/
theorem Tx.Pays.congr {tx tx' : Tx} {wallet : PubKeyHash} {value : UInt64}
    (outputs : tx.outputVector = tx'.outputVector) (pays : tx.Pays wallet value) :
    tx'.Pays wallet value := by
  obtain ⟨o, worth, script, written⟩ := pays
  exact ⟨o, worth, script, outputs ▸ written⟩

namespace State

variable {s : State} {params : Params} {request request' : SweepRequest}
  {outpoints outpoints' : List Outpoint} {value : UInt64} {hash : TxHash} {now : UInt64}
  {t t' : Transition SweepOutcome}

/-- A deposit comes last among those that one of two lists of outpoints spends. -/
def EndsOne (s : State) (outpoints outpoints' : List Outpoint) (key : DepositKey) : Prop :=
  (s.spentDeposits outpoints).getLast? = some key ∨
    (s.spentDeposits outpoints').getLast? = some key

/-- Two states that differ at most in what the reservations under some keys mint and have paid of a
sweep's fee. -/
structure SameBut (marked : DepositKey → Prop) (s s' : State) : Prop where
  deposits : s.deposits = s'.deposits
  wallets : s.wallets = s'.wallets
  index : s.index = s'.index
  redemptions : s.redemptions = s'.redemptions
  vaults : s.vaults = s'.vaults
  reservations : ∀ key, (s.reservations.get? key).map Reservation.butShare
    = (s'.reservations.get? key).map Reservation.butShare
  unmarked : ∀ key, ¬ marked key → s.reservations.get? key = s'.reservations.get? key

/-- In another order of the inputs the same deposits are spent. -/
theorem spentDeposits_perm (listed : outpoints.Perm outpoints') :
    (s.spentDeposits outpoints).Perm (s.spentDeposits outpoints') :=
  (listed.map _).filter _

/-- In another order the inputs are worth the same. -/
theorem worthOf_reordered (same : Reordered request request' outpoints outpoints') :
    s.worthOf request outpoints = s.worthOf request' outpoints' := by
  rw [worthOf, worthOf, sumOver_perm _ (spentDeposits_perm same.listed), same.mainOutput]

/-- What is at the end of a list comes last in it. -/
theorem place_ne_of_not_last {keys : List DepositKey} {i : Nat} {key : DepositKey}
    (at_i : keys[i]? = some key) (early : keys.getLast? ≠ some key) : i + 1 ≠ keys.length := by
  intro last
  rw [List.getLast?_eq_getElem?, ← last, Nat.add_sub_cancel] at early
  exact early at_i

/-! ## §3. Two sweeps, deposit by deposit. -/

/-- How a settlement that is reported has come about. -/
theorem Reports.settledAs (reports : s.Reports params request outpoints value hash now t)
    {x : Settlement} (mem : x ∈ t.output.settled) :
    ∃ i share, (s.spentDeposits outpoints)[i]? = some x.key ∧
      share.toNat = feeShare t.output.totalFee.toNat (s.spentDeposits outpoints).length i ∧
      SettledAs now x.key share (s.holding x.key) x (t.state.holding x.key) := by
  obtain ⟨i, at_i⟩ := List.mem_iff_getElem?.mp mem
  have own : (s.spentDeposits outpoints)[i]? = some x.key := by
    rw [← reports.keys, List.getElem?_map, at_i]
    rfl
  obtain ⟨y, share, reported, part, settled⟩ := reports.each i x.key own
  cases at_i.symm.trans reported
  exact ⟨i, share, own, part, settled⟩

/-- As many deposits are settled as are spent. -/
theorem Reports.length_settled (reports : s.Reports params request outpoints value hash now t) :
    t.output.settled.length = (s.spentDeposits outpoints).length := by
  rw [← reports.keys, List.length_map]

/-- Every deposit that is spent is reported. -/
theorem Reports.mem_of_key (reports : s.Reports params request outpoints value hash now t)
    {key : DepositKey} (mem : key ∈ s.spentDeposits outpoints) :
    ∃ x ∈ t.output.settled, x.key = key :=
  List.mem_map.mp (reports.keys ▸ mem)

section Pair

variable (one : s.Reports params request outpoints value hash now t)
  (other : s.Reports params request' outpoints' value hash now t')
  (same : Reordered request request' outpoints outpoints')

include one other same

theorem Reports.totalFee_eq : t.output.totalFee = t'.output.totalFee := by
  have here := one.fee
  have there := other.fee
  rw [← worthOf_reordered same] at there
  exact UInt64.toNat_inj.mp (by omega)

/-- In another order of the inputs the same deposits are settled. -/
theorem Reports.keys_perm :
    (t.output.settled.map (·.key)).Perm (t'.output.settled.map (·.key)) := by
  rw [one.keys, other.keys]
  exact spentDeposits_perm same.listed

/-- **Two orders settle a deposit nearly alike**, and if it comes last in neither, alike. -/
theorem Reports.near {x x' : Settlement} (here : x ∈ t.output.settled)
    (there : x' ∈ t'.output.settled) (key : x.key = x'.key) :
    (x.Near (t.output.totalFee.toNat % t.output.settled.length) x' ∧
      (t.state.holding x.key).Near (t'.state.holding x.key)) ∧
    (¬ s.EndsOne outpoints outpoints' x.key →
      x = x' ∧ t.state.holding x.key = t'.state.holding x.key) := by
  obtain ⟨i, share, at_i, part, settled⟩ := one.settledAs here
  obtain ⟨j, share', at_j, part', settled'⟩ := other.settledAs there
  have many := (spentDeposits_perm (s := s) same.listed).length_eq
  rw [← key] at at_j settled'
  rw [← many, ← one.totalFee_eq other same] at part'
  rw [one.length_settled]
  refine ⟨settled.near settled' (by rw [part, part']; exact feeShare_within ..), fun early => ?_⟩
  -- Early deposits have the even share in both orders.
  have shares : share = share' := by
    rw [EndsOne, not_or] at early
    rw [← UInt64.toNat_inj, part, part', feeShare_of_ne (place_ne_of_not_last at_i early.1),
      feeShare_of_ne (many ▸ place_ne_of_not_last at_j early.2)]
  subst shares
  exact settled.unique settled'

/-- What is held under any key then. -/
theorem Reports.holding_near (key : DepositKey) :
    (t.state.holding key).Near (t'.state.holding key) ∧
    (¬ s.EndsOne outpoints outpoints' key → t.state.holding key = t'.state.holding key) := by
  have listed := spentDeposits_perm (s := s) same.listed
  by_cases swept : key ∈ s.spentDeposits outpoints
  · obtain ⟨x, here, rfl⟩ := one.mem_of_key swept
    obtain ⟨x', there, own⟩ := other.mem_of_key (listed.mem_iff.mp swept)
    obtain ⟨⟨-, near⟩, alike⟩ := one.near other same here there own.symm
    exact ⟨near, fun early => (alike early).2⟩
  · -- Neither sweep has touched it.
    have untouched : t.state.holding key = t'.state.holding key := by
      rw [one.others key swept, other.others key (mt listed.mem_iff.mpr swept)]
    exact ⟨.of_eq untouched, fun _ => untouched⟩

/-- **Two orders lead to states that differ at most in the reservations of the deposits that come
last.** -/
theorem Reports.sameBut : SameBut (s.EndsOne outpoints outpoints') t.state t'.state := by
  have held := one.holding_near other same
  exact {
    deposits := Table.ext_get? fun key => (held key).1.deposit
    wallets := by rw [one.wallets, other.wallets, same.wallet]
    index := by rw [one.index, other.index]
    redemptions := Table.ext_get? fun key => (held key).1.redemption
    vaults := by rw [one.vaults, other.vaults]
    reservations := fun key => (held key).1.reservation
    unmarked := fun key early => congrArg Holding.reservation ((held key).2 early) }

end Pair

/-! ## §4. What is minted. -/

/-- What a sweep pays out in all, and how it is parted. -/
theorem Sweeps.minted (h : s.Sweeps params request hash now t) (backs : s.Backs)
    (bridge : Identity) :
    Ledger.gained bridge (fun _ => true) t.ledgerOps + claimedValue request.mainOutput
        = t.output.mainOutput.value.toNat ∧
      Ledger.gained bridge (fun _ => true) t.ledgerOps
        = sumOver (·.credited.toNat) t.output.settled
          + sumOver (·.treasuryFee.toNat) t.output.settled
          + sumOver (·.liquidationBonus.toNat) t.output.settled := by
  cases h with
  | @mk value fee walk split p sweepable claimed paid taken left divided capped settled =>
    obtain ⟨fits, distributed⟩ := settled_value backs taken left divided settled
    have parts := gained_credits bridge (fun _ => true) s params request.vault fits
    rw [creditedTo_all, if_pos rfl, if_pos rfl] at parts
    exact ⟨by rw [parts]; exact distributed, parts⟩

end State

/-! ## §5. After any run. -/

/-- **The order of the inputs moves the remainder of the fee, and nothing else.**  After any run, of
a sweep and the same sweep with its inputs in another order, if both are accepted: the fee and what
is minted are the same; every deposit has the same fees, and a credit and a share that are at most
the remainder apart, and if it comes last in neither order the same ones; and the states that they
lead to differ at most in what the reservations of the last deposits mint and have paid. -/
theorem order_moves_remainder {σ : Type} [Store σ] {params : Params} {orders : List Order}
    {w : World σ} (reached : w.Reached params orders) {terms : Params}
    {request request' : SweepRequest} {outpoints outpoints' : List Outpoint} {hash : TxHash}
    {now : UInt64} {t t' : Transition SweepOutcome}
    (same : Reordered request request' outpoints outpoints')
    (accepted : w.service.state.settleSweep terms request hash now = .ok t)
    (accepted' : w.service.state.settleSweep terms request' hash now = .ok t') :
    let s := w.service.state
    let remainder := t.output.totalFee.toNat % t.output.settled.length
    t.output.totalFee = t'.output.totalFee ∧
    (t.output.settled.map (·.key)).Perm (t'.output.settled.map (·.key)) ∧
    (∀ x ∈ t.output.settled, ∀ x' ∈ t'.output.settled, x.key = x'.key →
      x.Near remainder x' ∧ (¬ s.EndsOne outpoints outpoints' x.key → x = x')) ∧
    sumOver (·.credited.toNat) t.output.settled = sumOver (·.credited.toNat) t'.output.settled ∧
    (∀ bridge, Ledger.gained bridge (fun _ => true) t.ledgerOps
      = Ledger.gained bridge (fun _ => true) t'.ledgerOps) ∧
    t.state.SameBut (s.EndsOne outpoints outpoints') t'.state := by
  intro s remainder
  have sweeps := State.settleSweep_ok_iff.mp accepted
  have sweeps' := State.settleSweep_ok_iff.mp accepted'
  -- Both list what they are said to list, and pay the same.
  obtain ⟨_, value, can, one⟩ := sweeps.reports
  obtain ⟨_, value', can', other⟩ := sweeps'.reports
  cases can.spends.unique same.spends
  cases can'.spends.unique same.spends'
  obtain ⟨-, rfl⟩ := (can.pays.congr same.outputs).unique can'.pays
  have each (x) (here : x ∈ t.output.settled) (x') (there : x' ∈ t'.output.settled)
      (key : x.key = x'.key) : x.Near remainder x' ∧
        (¬ s.EndsOne outpoints outpoints' x.key → x = x') := by
    obtain ⟨⟨near, -⟩, alike⟩ := one.near other same here there key
    exact ⟨near, fun early => (alike early).1⟩
  have keys := one.keys_perm other same
  have distinct : (t.output.settled.map (·.key)).Nodup := one.keys ▸ can.distinct
  -- The output pays for what is minted, so that is the same, and the fees are.
  have minted (bridge : Identity) : Ledger.gained bridge (fun _ => true) t.ledgerOps
      = Ledger.gained bridge (fun _ => true) t'.ledgerOps := by
    have paid := (sweeps.minted reached.standing.backs bridge).1
    have paid' := (sweeps'.minted reached.standing.backs bridge).1
    rw [one.mainOutput] at paid
    rw [other.mainOutput, ← same.mainOutput] at paid'
    exact Nat.add_right_cancel (paid.trans paid'.symm)
  have fees : sumOver (·.treasuryFee.toNat) t.output.settled
      = sumOver (·.treasuryFee.toNat) t'.output.settled :=
    sumOver_eq_of_keys keys distinct fun x here x' there key =>
      congrArg UInt64.toNat (each x here x' there key).1.treasuryFee
  have bonuses : sumOver (·.liquidationBonus.toNat) t.output.settled
      = sumOver (·.liquidationBonus.toNat) t'.output.settled :=
    sumOver_eq_of_keys keys distinct fun x here x' there key =>
      congrArg UInt64.toNat (each x here x' there key).1.liquidationBonus
  refine ⟨one.totalFee_eq other same, keys, each, ?_, minted, one.sameBut other same⟩
  have parts := (sweeps.minted reached.standing.backs terms.bridge).2
  have parts' := (sweeps'.minted reached.standing.backs terms.bridge).2
  have total := minted terms.bridge
  omega

namespace Sample

/-- The funding output of another ordinary deposit. -/
def further : Funding := ⟨tx [] 3000001, 0, wallet, none⟩

/-- The sample run up to its second sweep, with one more deposit. -/
def fuller : List Order :=
  orders.take 4 ++ [⟨env 5, .reveal ⟨"carol"⟩ ⟨further, none⟩⟩]

/-- What is there to be swept then, and the same in another order. -/
def listed : List Outpoint := [firstOutput.outpoint, promised.outpoint, further.outpoint]
def relisted : List Outpoint := [further.outpoint, firstOutput.outpoint, promised.outpoint]

/-- A sweep of it in some order, for a fee that leaves one satoshi over. -/
def sweepOf (outpoints : List Outpoint) : SweepRequest :=
  sweep (tx outpoints 24998500) firstOutput

/-- A transaction from a few outpoints spends them. -/
theorem spends_tx {outpoints : List Outpoint} (few : outpoints.length < 0xfd) (value : Nat) :
    (tx outpoints value).Spends outpoints := by
  let input (o : Outpoint) : Vector.WrittenInput :=
    ⟨o, [UInt8.ofNat 0], [], .short (by decide), Octets.replicate 4 0xff⟩
  refine ⟨outpoints.map input, ?_, [UInt8.ofNat outpoints.length], ?_, ?_⟩
  · rw [List.map_map]
    exact List.map_id outpoints
  · rw [List.length_map]
    exact .short few
  · rw [List.flatMap_map]
    simp only [tx, spending, input, Vector.WrittenInput.bytes, List.nil_append, List.append_assoc]
    rfl

/-- Sweeps that list the same outpoints in other orders are reordered. -/
theorem reordered_sweepOf {outpoints outpoints' : List Outpoint} (few : outpoints.length < 0xfd)
    (listed : outpoints.Perm outpoints') :
    Reordered (sweepOf outpoints) (sweepOf outpoints') outpoints outpoints' where
  wallet := rfl
  vault := rfl
  mainOutput := rfl
  outputs := rfl
  spends := spends_tx few 24998500
  spends' := spends_tx (listed.length_eq ▸ few) 24998500
  listed := listed

end Sample

/-- The last satoshi of the fee is borne by the ordinary deposit or by the reservation. -/
theorem order_moves_remainder_sample :
    let w := (World.mk (Service.opened {}) Volatile.empty).serve Sample.fuller
    let s := w.service.state
    Reordered (Sample.sweepOf Sample.listed) (Sample.sweepOf Sample.relisted)
      Sample.listed Sample.relisted ∧
    ∃ t t', s.settleSweep {} (Sample.sweepOf Sample.listed) Sample.second.hash 6 = .ok t ∧
      s.settleSweep {} (Sample.sweepOf Sample.relisted) Sample.second.hash 6 = .ok t' ∧
      t.output.settled.map (fun x => (x.key, x.feeShare))
        = [(Sample.promised.key, 500), (Sample.further.key, 501)] ∧
      t'.output.settled.map (fun x => (x.key, x.feeShare))
        = [(Sample.further.key, 500), (Sample.promised.key, 501)] ∧
      t.output.totalFee = t'.output.totalFee ∧
      t.state.SameBut (s.EndsOne Sample.listed Sample.relisted) t'.state := by
  intro w s
  have reached : w.Reached {} Sample.fuller := Volatile.reached_serve ..
  have same : Reordered (Sample.sweepOf Sample.listed) (Sample.sweepOf Sample.relisted)
      Sample.listed Sample.relisted :=
    Sample.reordered_sweepOf (by decide)
      (@List.perm_append_comm _ [Sample.firstOutput.outpoint, Sample.promised.outpoint]
        [Sample.further.outpoint])
  let shares (t : Transition SweepOutcome) := t.output.settled.map fun x => (x.key, x.feeShare)
  obtain ⟨settles, settles'⟩ :
      (s.settleSweep {} (Sample.sweepOf Sample.listed) Sample.second.hash 6).map shares
        = .ok [(Sample.promised.key, 500), (Sample.further.key, 501)] ∧
      (s.settleSweep {} (Sample.sweepOf Sample.relisted) Sample.second.hash 6).map shares
        = .ok [(Sample.further.key, 500), (Sample.promised.key, 501)] := by
    decide +kernel
  obtain ⟨t, accepted, borne⟩ := map_ok_iff.mp settles
  obtain ⟨t', accepted', borne'⟩ := map_ok_iff.mp settles'
  obtain ⟨fee, -, -, -, -, kept⟩ := order_moves_remainder reached same accepted accepted'
  exact ⟨same, t, t', accepted, accepted', borne, borne', fee, kept⟩

end Custody
