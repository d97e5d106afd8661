/-
  Custody.Proofs.Spendings
  ────────────────────────────────
  **WHAT THE INPUTS OF A SWEEP SPEND.**

  The walk over the inputs of a sweep reads each and judges it before it reads
  the next.  Taken apart, it reads outpoints to the end of the input vector,
  whatever the state, and then takes them one after the other for deposits or
  for the claimed main output.  What comes of the taking can be said without
  the walk: the deposits in their order, each once, and one stranger at most.

  As an accepted sweep has read its inputs to their end, its bytes show where
  they end.  So no two ways to cut the same bytes are both accepted, in
  whatever states and on whatever requests.

  Main facts:
    * `walkInputs_ok_iff`     — the walk reads outpoints and takes them;
    * `foldlM_takeInput_iff`  — what comes of taking them;
    * `takeInputs_ok_iff`     — the same of a whole input vector;
    * `spent_and_paid_of_bytes` — the bytes of an accepted sweep fix what it
                                spends and pays.
-/
import Mathlib.Data.List.Induction
import Custody.Proofs.Grammar

namespace Custody

/-! ## §1. Outpoints are read, and then taken. -/

/-- The outpoints that a transaction spends: its input vector is that of inputs that spend them. -/
def Tx.Spends (tx : Tx) (outpoints : List Outpoint) : Prop :=
  ∃ inputs : List Vector.WrittenInput, inputs.map (·.spent) = outpoints ∧
    Vector.IsVector Vector.WrittenInput.bytes inputs tx.inputVector

/-- A transaction spends outpoints exactly if they are read off its inputs to the end. -/
theorem Tx.spends_iff {tx : Tx} {outpoints : List Outpoint} : tx.Spends outpoints ↔
    ∃ count, Vector.compactSize tx.inputVector = .ok count ∧
      Vector.inputsFrom tx.inputVector count.value count.width
        = .ok (outpoints, tx.inputVector.length) := Vector.inputs_ok_iff.symm

/-- A transaction spends one list of outpoints. -/
theorem Tx.Spends.unique {tx : Tx} {xs ys : List Outpoint} (one : tx.Spends xs)
    (other : tx.Spends ys) : xs = ys := by
  obtain ⟨count, counted, read⟩ := Tx.spends_iff.mp one
  obtain ⟨count', counted', read'⟩ := Tx.spends_iff.mp other
  rw [counted] at counted'
  cases counted'
  rw [read] at read'
  exact (Prod.ext_iff.mp (Except.ok.inj read')).1

/-- The input vector of a transaction that spends outpoints holds its inputs. -/
theorem Tx.Spends.holdsInputs {tx : Tx} {outpoints : List Outpoint} (h : tx.Spends outpoints) :
    Vector.HoldsInputs tx.inputVector := by
  obtain ⟨count, counted, read⟩ := Tx.spends_iff.mp h
  exact ⟨count, outpoints, counted, read⟩

namespace State

variable {s : State} {request : SweepRequest} {walk next : Walk}

/-- **The walk over inputs reads outpoints and takes them.** -/
theorem walkInputs_ok_iff {count offset stop : Nat} :
    s.walkInputs request count offset walk = .ok (next, stop) ↔
      ∃ outpoints, Vector.inputsFrom request.tx.inputVector count offset = .ok (outpoints, stop) ∧
        outpoints.foldlM (s.takeInput request) walk = .ok next := by
  induction count generalizing offset walk with
  | zero =>
    simp only [walkInputs, Vector.inputsFrom, Except.ok.injEq, Prod.mk.injEq]
    constructor
    · rintro ⟨rfl, rfl⟩
      exact ⟨[], ⟨rfl, rfl⟩, rfl⟩
    · rintro ⟨_, ⟨rfl, rfl⟩, taken⟩
      exact ⟨Except.ok.inj taken, rfl⟩
  | succ count ih =>
    simp only [walkInputs, Vector.inputsFrom, bind_ok_iff, mapError_ok_iff, pure_ok_iff, ih]
    constructor
    · rintro ⟨input, read, between, taken, outpoints, others, rest⟩
      refine ⟨input.spent :: outpoints, ⟨input, read, _, others, rfl⟩, ?_⟩
      rw [List.foldlM_cons, bind_ok_iff]
      exact ⟨between, taken, rest⟩
    · rintro ⟨_, ⟨input, read, ⟨outpoints, last⟩, others, ends⟩, taken⟩
      cases ends
      rw [List.foldlM_cons, bind_ok_iff] at taken
      obtain ⟨between, taken, rest⟩ := taken
      exact ⟨input, read, between, taken, outpoints, others, rest⟩

/-! ## §2. What comes of taking them. -/

/-- The keys of the deposits among outpoints, in their order. -/
def spentDeposits (s : State) (outpoints : List Outpoint) : List DepositKey :=
  (outpoints.map Outpoint.key).filter s.deposits.contains

/-- The outpoints that are no deposits, in their order. -/
def strangers (s : State) (outpoints : List Outpoint) : List Outpoint :=
  outpoints.filter fun o => !s.deposits.contains o.key

/-- What has been found after outpoints were taken: a sound walk over the deposits among them, and
no stranger but the claimed main output, once. -/
structure Takes (s : State) (request : SweepRequest) (outpoints : List Outpoint) (walk : Walk) :
    Prop extends s.SoundWalk request walk where
  swept : walk.swept = s.spentDeposits outpoints
  claimed : walk.mainSpent = true → request.mainOutput.isSome = true
  others : s.strangers outpoints
    = if walk.mainSpent then (request.mainOutput.map MainOutput.outpoint).toList else []

/-- A deposit is taken exactly if it is unswept, new to the sweep, of its wallet and its vault, and
its amount fits. -/
theorem takeDeposit_ok_iff {key : DepositKey} {d : Deposit} :
    takeDeposit request walk key d = .ok next ↔
      d.isSwept = false ∧ key ∉ walk.swept ∧ d.walletKeyHash = request.walletKeyHash ∧
      d.vault = request.vault ∧ ∃ value, walk.value.toNat + d.amount.toNat = value.toNat ∧
        { walk with swept := walk.swept ++ [key], value } = next := by
  simp only [takeDeposit, throw_bind, check_ok_iff, bind_ok_iff, pure_ok_iff, Walk.add_ok_iff,
    Bool.or_eq_true, List.contains_iff_mem, not_or, Decidable.not_not, Bool.not_eq_true, and_assoc]

/-- A main output is taken exactly if it is the one that is claimed, for the first time, and its
value fits. -/
theorem takeMainOutput_ok_iff {spent : Outpoint} :
    takeMainOutput request walk spent = .ok next ↔
      walk.mainSpent = false ∧ ∃ output, request.mainOutput = some output ∧
        output.outpoint = spent ∧ ∃ value, walk.value.toNat + output.value.toNat = value.toNat ∧
          { walk with mainSpent := true, value } = next := by
  unfold takeMainOutput
  cases claim : request.mainOutput with
  | none => simp [throw_ne_ok]
  | some output =>
    dsimp only
    by_cases first : (!walk.mainSpent && output.outpoint == spent) = true
    · rw [if_pos first]
      rw [Bool.and_eq_true, Bool.not_eq_true', beq_iff_eq] at first
      simp only [bind_ok_iff, pure_ok_iff, Walk.add_ok_iff]
      constructor
      · exact fun h => ⟨first.1, output, rfl, first.2, h⟩
      · rintro ⟨-, _, ⟨⟩, -, h⟩
        exact h
    · rw [if_neg first]
      rw [Bool.and_eq_true, Bool.not_eq_true', beq_iff_eq] at first
      constructor
      · exact fun h => absurd h throw_ne_ok
      · rintro ⟨unspent, _, ⟨⟩, same, -⟩
        exact absurd ⟨unspent, same⟩ first

/-- Which of the two lists an outpoint goes into. -/
theorem spentDeposits_concat_of_some (outpoints : List Outpoint) {spent : Outpoint} {d : Deposit}
    (found : s.deposits.get? spent.key = some d) :
    s.spentDeposits (outpoints ++ [spent]) = s.spentDeposits outpoints ++ [spent.key] ∧
      s.strangers (outpoints ++ [spent]) = s.strangers outpoints := by
  have held : s.deposits.contains spent.key = true := by
    unfold Table.contains
    rw [found]
    rfl
  simp [spentDeposits, strangers, List.filter_append, held]

/-- An outpoint under which no deposit is kept is a stranger. -/
theorem spentDeposits_concat_of_none (outpoints : List Outpoint) {spent : Outpoint}
    (absent : s.deposits.get? spent.key = none) :
    s.spentDeposits (outpoints ++ [spent]) = s.spentDeposits outpoints ∧
      s.strangers (outpoints ++ [spent]) = s.strangers outpoints ++ [spent] := by
  have strange : s.deposits.contains spent.key = false := Table.contains_eq_false_iff.mpr absent
  simp [spentDeposits, strangers, List.filter_append, strange]

/-- One more outpoint that is taken is one more deposit or the stranger that was claimed. -/
theorem Takes.concat {outpoints : List Outpoint} {spent : Outpoint}
    (takes : s.Takes request outpoints walk) (taken : s.takeInput request walk spent = .ok next) :
    s.Takes request (outpoints ++ [spent]) next := by
  have sound := takeInput_sound takes.toSoundWalk taken
  unfold takeInput at taken
  split at taken
  case h_1 d found =>
    obtain ⟨deposits, strangers⟩ := spentDeposits_concat_of_some outpoints found
    obtain ⟨-, -, -, -, value, -, rfl⟩ := takeDeposit_ok_iff.mp taken
    exact { sound with
      swept := by rw [deposits, ← takes.swept]
      claimed := takes.claimed
      others := by rw [strangers, takes.others] }
  case h_2 absent =>
    obtain ⟨deposits, strangers⟩ := spentDeposits_concat_of_none outpoints absent
    obtain ⟨unspent, output, claim, rfl, value, -, rfl⟩ := takeMainOutput_ok_iff.mp taken
    exact { sound with
      swept := by rw [deposits, ← takes.swept]
      claimed := fun _ => by rw [claim]; rfl
      others := by rw [strangers, takes.others, unspent, claim]; rfl }

/-- A walk that has found what there is, a deposit last, has come from one that had not found it. -/
theorem Takes.of_concat_of_some {outpoints : List Outpoint} {spent : Outpoint} {d : Deposit}
    (takes : s.Takes request (outpoints ++ [spent]) next)
    (found : s.deposits.get? spent.key = some d) :
    ∃ walk, s.Takes request outpoints walk ∧ takeDeposit request walk spent.key d = .ok next := by
  obtain ⟨deposits, strangers⟩ := spentDeposits_concat_of_some outpoints found
  obtain ⟨keys, mainSpent, worth⟩ := next
  obtain ⟨⟨distinct, unswept, value⟩, swept, claimed, others⟩ := takes
  dsimp only at distinct unswept value swept claimed others
  rw [deposits] at swept
  rw [strangers] at others
  subst swept
  obtain ⟨before, -, fresh⟩ := List.nodup_append.mp distinct
  obtain ⟨d', found', unsweptHere, wallet, vault⟩ := unswept spent.key (by simp)
  rw [found] at found'
  cases found'
  have own : s.amountAt spent.key = d.amount.toNat := by rw [amountAt, found]; rfl
  rw [sumOver_append, sumOver_cons, sumOver_nil, own] at value
  have rest : (worth - d.amount).toNat = worth.toNat - d.amount.toNat :=
    UInt64.toNat_sub_of_le _ _ (UInt64.le_iff_toNat_le.mpr (by omega))
  refine ⟨⟨s.spentDeposits outpoints, mainSpent, worth - d.amount⟩,
    ⟨⟨before, fun key mem => unswept key (List.mem_append_left _ mem), ?_⟩, rfl, claimed,
      others⟩, takeDeposit_ok_iff.mpr ⟨unsweptHere, ?_, wallet, vault, worth, ?_, rfl⟩⟩
  · dsimp only
    omega
  · intro mem
    exact fresh _ mem _ (List.mem_singleton_self _) rfl
  · dsimp only
    omega

/-- The same with a stranger last: it is the claimed main output, and no other came before it. -/
theorem Takes.of_concat_of_none {outpoints : List Outpoint} {spent : Outpoint}
    (takes : s.Takes request (outpoints ++ [spent]) next)
    (absent : s.deposits.get? spent.key = none) :
    ∃ walk, s.Takes request outpoints walk ∧ takeMainOutput request walk spent = .ok next := by
  obtain ⟨deposits, strangers⟩ := spentDeposits_concat_of_none outpoints absent
  obtain ⟨keys, mainSpent, worth⟩ := next
  obtain ⟨⟨distinct, unswept, value⟩, swept, claimed, others⟩ := takes
  dsimp only at distinct unswept value swept claimed others
  rw [deposits] at swept
  rw [strangers] at others
  cases mainSpent with
  | false => simp at others
  | true =>
    obtain ⟨output, claim⟩ := Option.isSome_iff_exists.mp (claimed rfl)
    rw [claim] at others value
    obtain ⟨none_before, rfl⟩ : s.strangers outpoints = [] ∧ spent = output.outpoint := by
      cases before : s.strangers outpoints with
      | nil => simpa [before] using others
      | cons other rest => simp [before] at others
    simp only [if_true, claimedValue, Option.map_some, Option.getD_some] at value
    have rest : (worth - output.value).toNat = worth.toNat - output.value.toNat :=
      UInt64.toNat_sub_of_le _ _ (UInt64.le_iff_toNat_le.mpr (by omega))
    refine ⟨⟨keys, false, worth - output.value⟩, ⟨⟨distinct, unswept, ?_⟩, swept, by simp, ?_⟩,
      takeMainOutput_ok_iff.mpr ⟨rfl, output, claim, rfl, worth, ?_, rfl⟩⟩
    · simp only [Bool.false_eq_true, if_false]
      omega
    · exact none_before
    · dsimp only
      omega

/-- A walk that has found what there is has come from one that had not found the last. -/
theorem Takes.of_concat {outpoints : List Outpoint} {spent : Outpoint}
    (takes : s.Takes request (outpoints ++ [spent]) next) :
    ∃ walk, s.Takes request outpoints walk ∧ s.takeInput request walk spent = .ok next := by
  unfold takeInput
  cases found : s.deposits.get? spent.key with
  | some d => exact takes.of_concat_of_some found
  | none => exact takes.of_concat_of_none found

/-- **What comes of taking outpoints can be said without the order of the taking.** -/
theorem foldlM_takeInput_iff {outpoints : List Outpoint} :
    outpoints.foldlM (s.takeInput request) {} = .ok walk ↔ s.Takes request outpoints walk := by
  -- The induction adds outpoints at the end, as the walk does.
  induction outpoints using List.reverseRecOn generalizing walk with
  | nil =>
    constructor
    · intro taken
      cases Except.ok.inj taken
      exact ⟨⟨List.nodup_nil, by simp, rfl⟩, rfl, by simp, rfl⟩
    · rintro ⟨⟨-, -, value⟩, swept, claimed, others⟩
      obtain ⟨keys, mainSpent, worth⟩ := walk
      cases swept
      cases mainSpent with
      | false =>
        have zero : worth = 0 := UInt64.toNat_inj.mp value
        rw [zero]
        rfl
      | true =>
        obtain ⟨output, claim⟩ := Option.isSome_iff_exists.mp (claimed rfl)
        simp [strangers, claim] at others
  | append_singleton outpoints spent ih =>
    simp only [List.foldlM_append, List.foldlM_cons, List.foldlM_nil, bind_ok_iff, pure_ok_iff, ih]
    constructor
    · rintro ⟨between, before, last, taken, rfl⟩
      exact before.concat taken
    · intro takes
      obtain ⟨between, before, taken⟩ := takes.of_concat
      exact ⟨between, before, walk, taken, rfl⟩

/-- **The inputs of a sweep are taken when they are read to the end of their vector, and found to be
deposits and, if one is claimed, the main output.** -/
theorem takeInputs_ok_iff : s.takeInputs request = .ok walk ↔
    ∃ outpoints, request.tx.Spends outpoints ∧ s.Takes request outpoints walk ∧
      walk.mainSpent = request.mainOutput.isSome := by
  simp only [takeInputs, throw_bind, check_ok_iff, bind_ok_iff, mapError_ok_iff, pure_ok_iff,
    Decidable.not_not, Tx.spends_iff]
  constructor
  · rintro ⟨count, counted, ⟨last, stop⟩, walked, rfl, spent, rfl⟩
    obtain ⟨outpoints, read, taken⟩ := walkInputs_ok_iff.mp walked
    have takes := foldlM_takeInput_iff.mp taken
    refine ⟨outpoints, ⟨count, counted, read⟩, takes, ?_⟩
    have := takes.claimed
    cases main : last.mainSpent <;> simp_all
  · rintro ⟨outpoints, ⟨count, counted, read⟩, takes, same⟩
    refine ⟨count, counted, (walk, request.tx.inputVector.length),
      walkInputs_ok_iff.mpr ⟨outpoints, read, foldlM_takeInput_iff.mpr takes⟩, rfl, ?_, rfl⟩
    rw [same, Bool.and_not_self]
    exact Bool.false_ne_true

end State

/-! ## §3. What a sweep pays. -/

/-- The scripts that pay a key hash: the witness script and the older one. -/
def keyHashScripts (hash : PubKeyHash) : List (List UInt8) :=
  [[0x00, 0x14] ++ hash.bytes, [0x76, 0xa9, 0x14] ++ (hash.bytes ++ [0x88, 0xac])]

/-- Bytes make up a string exactly if they are its own. -/
theorem Octets.ofList?_eq_some_iff {n : Nat} {bytes : List UInt8} {a : Octets n} :
    Octets.ofList? n bytes = some a ↔ bytes = a.bytes := by
  constructor
  · intro read
    unfold ofList? at read
    split at read
    · cases read
      rfl
    · cases read
  · rintro rfl
    exact ofList?_eq a

/-- A script pays a key hash exactly if it is one of the two scripts that do. -/
theorem Vector.scriptKeyHash?_eq_some_iff {script : List UInt8} {hash : PubKeyHash} :
    scriptKeyHash? script = some hash ↔ script ∈ keyHashScripts hash := by
  simp only [keyHashScripts, List.mem_cons, List.not_mem_nil, or_false]
  constructor
  · intro read
    unfold scriptKeyHash? at read
    split at read
    case h_1 rest => exact .inl (by rw [Octets.ofList?_eq_some_iff.mp read]; rfl)
    case h_2 rest =>
      split at read
      case isTrue ends =>
        have own := Octets.ofList?_eq_some_iff.mp read
        refine .inr ?_
        rw [← own, ← ends, List.take_append_drop]
        rfl
      case isFalse => cases read
    case h_3 => cases read
  · rintro (rfl | rfl)
    · exact Octets.ofList?_eq hash
    · show (if (hash.bytes ++ [0x88, 0xac]).drop 20 = [0x88, 0xac] then
        Octets.ofList? 20 ((hash.bytes ++ [0x88, 0xac]).take 20) else none) = _
      rw [List.drop_left' hash.length_eq, if_pos rfl, List.take_left' hash.length_eq]
      exact Octets.ofList?_eq hash

/-- A transaction pays a wallet: its output vector is that of one output, of this value, with a
script that pays the wallet's key hash. -/
def Tx.Pays (tx : Tx) (wallet : PubKeyHash) (value : UInt64) : Prop :=
  ∃ o : Vector.WrittenOutput, o.value = value ∧ o.script ∈ keyHashScripts wallet ∧
    Vector.IsVector Vector.WrittenOutput.bytes [o] tx.outputVector

/-- An output pays a key hash exactly if its script is one of the two that do. -/
theorem Vector.outputKeyHash_bytes_iff {o : WrittenOutput} {hash : PubKeyHash} :
    outputKeyHash o.bytes = .ok hash ↔ o.script ∈ keyHashScripts hash := by
  simp only [outputKeyHash, outputScript_bytes, ← scriptKeyHash?_eq_some_iff, bind_ok_iff,
    Except.ok.injEq, exists_eq_left']
  cases scriptKeyHash? o.script with
  | none => simp [throw_ne_ok]
  | some other => simp [pure_ok_iff]

/-- **The output of a sweep is the one output of its vector, and pays the wallet.** -/
theorem State.sweptValue_ok_iff {tx : Tx} {wallet : PubKeyHash} {value : UInt64} :
    sweptValue tx wallet = .ok value ↔ tx.Pays wallet value := by
  simp only [sweptValue, throw_bind, check_ok_iff, bind_ok_iff, mapError_ok_iff, Decidable.not_not]
  constructor
  · rintro ⟨_, counted, rfl, bytes, found, _, paid, rfl, worth⟩
    obtain ⟨outputs, single, written⟩ := Vector.outputCount_ok_iff.mp counted
    obtain ⟨o, rfl⟩ := List.length_eq_one_iff.mp single
    rw [Vector.outputAt_of_getElem? written rfl] at found
    cases found
    rw [Vector.outputValue_bytes] at worth
    exact ⟨o, Except.ok.inj worth, Vector.outputKeyHash_bytes_iff.mp paid, written⟩
  · rintro ⟨o, rfl, script, written⟩
    exact ⟨1, Vector.outputCount_ok_iff.mpr ⟨[o], rfl, written⟩, rfl, o.bytes,
      Vector.outputAt_of_getElem? written rfl, wallet, Vector.outputKeyHash_bytes_iff.mpr script,
      rfl, Vector.outputValue_bytes o⟩

/-- A transaction pays one wallet one value. -/
theorem Tx.Pays.unique {tx : Tx} {wallet wallet' : PubKeyHash} {value value' : UInt64}
    (one : tx.Pays wallet value) (other : tx.Pays wallet' value') :
    wallet = wallet' ∧ value = value' := by
  obtain ⟨o, rfl, script, written⟩ := one
  obtain ⟨o', rfl, script', written'⟩ := other
  -- Both are the first output of the vector.
  have same := Vector.outputAt_of_getElem? written (i := 0) rfl
  rw [Vector.outputAt_of_getElem? written' (i := 0) rfl] at same
  have bytes := Except.ok.inj same
  have paid := Vector.outputKeyHash_bytes_iff.mpr script
  have worth := Vector.outputValue_bytes o
  rw [← bytes, Vector.outputKeyHash_bytes_iff.mpr script'] at paid
  rw [← bytes, Vector.outputValue_bytes] at worth
  exact ⟨(Except.ok.inj paid).symm, (Except.ok.inj worth).symm⟩

/-! ## §4. Accepted sweeps with the same bytes. -/

/-- What an accepted sweep spends and pays. -/
theorem State.Sweeps.spends {s : State} {params : Params} {request : SweepRequest} {hash : TxHash}
    {now : UInt64} {t : Transition SweepOutcome} (h : s.Sweeps params request hash now t) :
    request.tx.Pays request.walletKeyHash t.output.mainOutput.value ∧
      ∃ outpoints, request.tx.Spends outpoints ∧
        t.output.settled.map (·.key) = s.spentDeposits outpoints := by
  cases h with
  | mk sweepable claimed paid taken left divided capped settled =>
    obtain ⟨outpoints, spends, takes, -⟩ := takeInputs_ok_iff.mp taken
    refine ⟨sweptValue_ok_iff.mp paid, outpoints, spends, ?_⟩
    rw [← takes.swept]
    exact settleAll_keys settled

section Bytes

variable {s s' : State} {params params' : Params} {request request' : SweepRequest}
  {hash hash' : TxHash} {now now' : UInt64} {t t' : Transition SweepOutcome}

/-- **The bytes of a sweep fix what it spends and pays.**  Two transactions that are settled as
sweeps, in whatever states, on whatever requests and under whatever parameters, and that have the
same bytes were cut in the same places.  So they spend the same outpoints, of which each state has
settled its deposits, and pay the same wallet the same value. -/
theorem spent_and_paid_of_bytes (accepted : s.settleSweep params request hash now = .ok t)
    (accepted' : s'.settleSweep params' request' hash' now' = .ok t')
    (same : request.tx.serialized = request'.tx.serialized) :
    (request.tx.version = request'.tx.version ∧
      request.tx.inputVector = request'.tx.inputVector ∧
      request.tx.outputVector = request'.tx.outputVector ∧
      request.tx.locktime = request'.tx.locktime) ∧
    (∃ outpoints, request.tx.Spends outpoints ∧ request'.tx.Spends outpoints ∧
      t.output.settled.map (·.key) = s.spentDeposits outpoints ∧
      t'.output.settled.map (·.key) = s'.spentDeposits outpoints) ∧
    request.walletKeyHash = request'.walletKeyHash ∧
    t.output.mainOutput.value = t'.output.mainOutput.value := by
  obtain ⟨pays, outpoints, spends, settled⟩ := (State.settleSweep_ok_iff.mp accepted).spends
  obtain ⟨pays', outpoints', spends', settled'⟩ := (State.settleSweep_ok_iff.mp accepted').spends
  -- Both hold the inputs that they count, so they were cut alike.
  have cut : request.tx = request'.tx :=
    Tx.serialized_inj spends.holdsInputs spends'.holdsInputs same
  rw [cut] at pays spends ⊢
  cases spends.unique spends'
  exact ⟨⟨rfl, rfl, rfl, rfl⟩, ⟨outpoints, spends, spends', settled, settled'⟩,
    pays.unique pays'⟩

end Bytes

namespace Sample

/-- The run up to the first sweep. -/
def awaiting : World Volatile :=
  (World.mk (Service.opened {}) Volatile.empty).serve (orders.take 2)

/-- Another service, to which somebody else has revealed the same output, and whose wallet is moving
its funds. -/
def elsewhere : World Volatile :=
  (World.mk (Service.opened { treasury := ⟨"fund"⟩ }) Volatile.empty).serve [
    ⟨env 7, .registerWallet wallet .live⟩,
    ⟨env 8, .reveal ⟨"mallory"⟩ ⟨plain, none⟩⟩,
    ⟨env 9, .setWalletState wallet .movingFunds⟩]

end Sample

/-- One transaction is settled by two services that know different things of what it spends. -/
theorem spent_and_paid_of_bytes_sample :
    let one := Sample.awaiting.service
    let other := Sample.elsewhere.service
    let request := Sample.sweep Sample.first none
    ∃ t t', one.state.settleSweep one.params request Sample.first.hash 3 = .ok t ∧
      other.state.settleSweep other.params request Sample.first.hash 10 = .ok t' ∧
      (∃ outpoints, request.tx.Spends outpoints ∧
        t.output.settled.map (·.key) = one.state.spentDeposits outpoints ∧
        t'.output.settled.map (·.key) = other.state.spentDeposits outpoints) ∧
      t.output.mainOutput.value = t'.output.mainOutput.value := by
  intro one other request
  have settles : (one.state.settleSweep one.params request Sample.first.hash 3).isOk = true := by
    decide +kernel
  have settles' : (other.state.settleSweep other.params request Sample.first.hash 10).isOk
      = true := by
    decide +kernel
  cases accepted : one.state.settleSweep one.params request Sample.first.hash 3 with
  | error fault =>
    rw [accepted] at settles
    cases settles
  | ok t =>
    cases accepted' : other.state.settleSweep other.params request Sample.first.hash 10 with
    | error fault =>
      rw [accepted'] at settles'
      cases settles'
    | ok t' =>
      obtain ⟨-, ⟨outpoints, spends, -, settled, settled'⟩, -, value⟩ :=
        spent_and_paid_of_bytes accepted accepted' rfl
      exact ⟨t, t', rfl, rfl, ⟨outpoints, spends, settled, settled'⟩, value⟩

end Custody
