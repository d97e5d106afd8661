/-
  Custody.Proofs.Cuts
  ────────────────────────────────
  **WHERE THE INPUTS END AND THE OUTPUTS BEGIN.**

  A transaction is named by the digest of its four parts in a row, and that
  row does not show where it was cut.  An input vector that ends exactly after
  the inputs that it counts shows it: whatever follows, a reader of the inputs
  stops there.  So transactions with such input vectors and the same bytes are
  the same, and a deposit's amount follows from its outpoint.

  A transaction that is read off the network has such an input vector, but a
  funding transaction that a depositor sends is not asked for one.  Cut
  elsewhere, the same bytes can pass with another amount under the same key.

  Main facts:
    * `inputsFrom_append`         — a reader of inputs does not see what follows;
    * `serialized_inj`            — held inputs fix the cut;
    * `ofSerialized?_holdsInputs` — what the network sends holds its inputs;
    * `amount_of_outpoint`        — the amount that is recorded follows from the cut.
-/
import Mathlib.Control.Monad.Basic
import Custody.Proofs.Runs
import Custody.Tx.Serialized

namespace Custody

/-! ## §1. Readers do not see what follows. -/

namespace Vector

variable {bytes part : List UInt8} {offset needed : Nat} {size : CompactSize} {input : Input}

/-- A slice is read whatever follows the bytes. -/
theorem slice_append (read : slice bytes offset needed = .ok part) (rest : List UInt8) :
    slice (bytes ++ rest) offset needed = .ok part := by
  obtain ⟨fits, rfl⟩ := (slice_eq_ok_iff ..).mp read
  refine (slice_eq_ok_iff ..).mpr ⟨?_, ?_⟩
  · rw [List.length_append]
    omega
  · rw [List.drop_append_of_le_length (by omega),
      List.take_append_of_le_length (by rw [List.length_drop]; omega)]

theorem compactSize_append (read : compactSize bytes = .ok size) (rest : List UInt8) :
    compactSize (bytes ++ rest) = .ok size := by
  cases bytes with
  | nil => cases read
  | cons first tail =>
    rw [List.cons_append]
    simp only [compactSize] at read ⊢
    split at read
    case isTrue small =>
      rw [if_pos small]
      exact read
    case isFalse large =>
      simp only [bind_ok_iff, pure_ok_iff] at read
      obtain ⟨body, taken, rfl⟩ := read
      rw [if_neg large, ← List.cons_append, slice_append taken rest]
      rfl

theorem compactSizeAt_append (read : compactSizeAt bytes offset = .ok size)
    (rest : List UInt8) : compactSizeAt (bytes ++ rest) offset = .ok size := by
  unfold compactSizeAt at read ⊢
  split at read
  case isFalse => cases read
  case isTrue inside =>
    rw [if_pos (by rw [List.length_append]; omega), List.drop_append_of_le_length inside]
    exact compactSize_append read rest

/-- An input is read whatever follows the bytes. -/
theorem inputAt_append (read : inputAt bytes offset = .ok input) (rest : List UInt8) :
    inputAt (bytes ++ rest) offset = .ok input := by
  simp only [inputAt, bind_ok_iff, pure_ok_iff] at read ⊢
  obtain ⟨outpoint, named, script, sized, whole, taken, rfl⟩ := read
  exact ⟨outpoint, slice_append named rest, script, compactSizeAt_append sized rest, whole,
    slice_append taken rest, rfl⟩

/-- **A reader of inputs does not see what follows them.** -/
theorem inputsFrom_append {count stop : Nat} {outpoints : List Outpoint}
    (read : inputsFrom bytes count offset = .ok (outpoints, stop)) (rest : List UInt8) :
    inputsFrom (bytes ++ rest) count offset = .ok (outpoints, stop) := by
  induction count generalizing offset outpoints with
  | zero => exact read
  | succ count ih =>
    simp only [inputsFrom, bind_ok_iff, pure_ok_iff] at read ⊢
    obtain ⟨input, first, ⟨others, last⟩, later, ends⟩ := read
    cases ends
    exact ⟨input, inputAt_append first rest, (others, last), ih later, rfl⟩

/-! ## §2. Vectors that hold the inputs that they count. -/

/-- An input vector that ends exactly after the inputs that it counts. -/
def HoldsInputs (vector : List UInt8) : Prop :=
  ∃ count outpoints, compactSize vector = .ok count ∧
    inputsFrom vector count.value count.width = .ok (outpoints, vector.length)

/-- **Held inputs show where they end**, whatever follows them. -/
theorem HoldsInputs.append_inj {a b x y : List UInt8} (left : HoldsInputs a)
    (right : HoldsInputs b) (same : a ++ x = b ++ y) : a = b ∧ x = y := by
  obtain ⟨count, outpoints, counted, read⟩ := left
  obtain ⟨count', outpoints', counted', read'⟩ := right
  -- Both readers run over the same bytes, so they count the same and stop at the same place.
  have counts := compactSize_append counted x
  rw [same, compactSize_append counted' y] at counts
  cases counts
  have stops := inputsFrom_append read x
  rw [same, inputsFrom_append read' y] at stops
  exact List.append_inj same (Prod.ext_iff.mp (Except.ok.inj stops)).2.symm

end Vector

/-- **Transactions that hold their inputs and have the same bytes are the same.** -/
theorem Tx.serialized_inj {a b : Tx} (left : Vector.HoldsInputs a.inputVector)
    (right : Vector.HoldsInputs b.inputVector) (same : a.serialized = b.serialized) : a = b := by
  simp only [serialized, List.append_assoc] at same
  -- Version and locktime have a fixed length, and the inputs show where they end.
  obtain ⟨versions, same⟩ :=
    List.append_inj same (a.version.length_eq.trans b.version.length_eq.symm)
  obtain ⟨inputs, same⟩ := left.append_inj right same
  have lengths : a.outputVector.length = b.outputVector.length := by
    have whole := congrArg List.length same
    rw [List.length_append, List.length_append, a.locktime.length_eq, b.locktime.length_eq]
      at whole
    omega
  obtain ⟨outputs, locktimes⟩ := List.append_inj same lengths
  cases a
  cases b
  cases Octets.ext versions
  cases Octets.ext locktimes
  cases inputs
  cases outputs
  rfl

/-! ## §3. Transactions that come from the network. -/

namespace Vector

variable {bytes : List UInt8} {size : CompactSize}

/-- A part is read off the place where it stands. -/
theorem slice_middle (before part rest : List UInt8) :
    slice (before ++ (part ++ rest)) before.length part.length = .ok part := by
  refine (slice_eq_ok_iff ..).mpr ⟨?_, ?_⟩
  · rw [List.length_append, List.length_append]
    omega
  · rw [List.drop_left, List.take_left]

/-- A compact size is read behind other bytes as it is read alone. -/
theorem compactSizeAt_length (before bytes : List UInt8) :
    compactSizeAt (before ++ bytes) before.length = compactSize bytes := by
  unfold compactSizeAt
  rw [if_pos (by rw [List.length_append]; omega), List.drop_left]

/-- A compact size is read from the bytes that it takes. -/
theorem compactSize_take (read : compactSize bytes = .ok size) :
    size.width ≤ bytes.length ∧ compactSize (bytes.take size.width) = .ok size := by
  cases bytes with
  | nil => cases read
  | cons first tail =>
    simp only [compactSize] at read
    split at read
    case isTrue small =>
      cases read
      exact ⟨by simp, by simp [compactSize, small]⟩
    case isFalse large =>
      simp only [bind_ok_iff, pure_ok_iff] at read
      obtain ⟨body, taken, rfl⟩ := read
      obtain ⟨fits, rfl⟩ := (slice_eq_ok_iff ..).mp taken
      refine ⟨fits, ?_⟩
      show compactSize ((first :: tail).take (1 + compactWidth first)) = _
      rw [Nat.add_comm, List.take_succ_cons]
      simp only [compactSize, if_neg large, bind_ok_iff, pure_ok_iff]
      refine ⟨_, (slice_eq_ok_iff ..).mpr ⟨?_, rfl⟩, ?_⟩
      · rw [List.length_cons, List.length_take]
        rw [List.length_cons] at fits
        omega
      · rw [List.drop_succ_cons, List.drop_zero, List.drop_succ_cons, List.drop_zero,
          List.take_take, Nat.min_self, Nat.add_comm]

end Vector

namespace Tx

section Readers

variable {α β : Type}

theorem reader_bind {x : Reader α} {f : α → Reader β} {bytes rest : List UInt8} {b : β} :
    (x >>= f) bytes = some (b, rest) ↔ ∃ a mid, x bytes = some (a, mid) ∧
      f a mid = some (b, rest) := by
  show Option.bind (x bytes) (fun p => f p.1 p.2) = _ ↔ _
  rw [Option.bind_eq_some_iff]
  exact ⟨fun ⟨p, taken, then_taken⟩ => ⟨p.1, p.2, taken, then_taken⟩,
    fun ⟨a, mid, taken, then_taken⟩ => ⟨(a, mid), taken, then_taken⟩⟩

theorem reader_pure {a b : α} {bytes rest : List UInt8} :
    (pure a : Reader α) bytes = some (b, rest) ↔ a = b ∧ bytes = rest := by
  show some (a, bytes) = some (b, rest) ↔ _
  simp

/-- Whoever reads on has not failed. -/
theorem reader_check {p : Prop} [Decidable p] {x : Unit → Reader α} {y : Reader α} {a : α}
    {bytes rest : List UInt8} :
    (if p then failure >>= x else y) bytes = some (a, rest) ↔ ¬ p ∧ y bytes = some (a, rest) := by
  by_cases h : p
  · rw [if_pos h]
    exact ⟨nofun, fun other => absurd h other.1⟩
  · rw [if_neg h]
    exact ⟨fun read => ⟨h, read⟩, fun other => other.2⟩

end Readers

variable {bytes rest : List UInt8}

/-- What a reader of bytes takes stands in front. -/
theorem takeBytes_eq {n : Nat} {part : List UInt8} (h : takeBytes n bytes = some (part, rest)) :
    bytes = part ++ rest ∧ part.length = n := by
  unfold takeBytes at h
  split at h
  case isFalse => cases h
  case isTrue fits =>
    cases h
    exact ⟨(List.take_append_drop n bytes).symm, by rw [List.length_take]; omega⟩

/-- A size that is taken off was written in front as a compact size. -/
theorem takeSize_eq {n : Nat} (h : takeSize bytes = some (n, rest)) :
    ∃ part size, bytes = part ++ rest ∧ part.length = size.width ∧ size.value = n ∧
      Vector.compactSize part = .ok size := by
  unfold takeSize at h
  split at h
  case h_2 => cases h
  case h_1 size read =>
    split at h
    case isFalse => cases h
    case isTrue =>
      cases h
      obtain ⟨fits, front⟩ := Vector.compactSize_take read
      exact ⟨_, size, (List.take_append_drop size.width bytes).symm,
        by rw [List.length_take]; omega, rfl, front⟩

/-- An input that is taken off the front is read wherever it stands. -/
theorem takeInput_eq (h : takeInput bytes = some ((), rest)) :
    ∃ part, bytes = part ++ rest ∧ ∀ before, ∃ input,
      Vector.inputAt (before ++ part) before.length = .ok input ∧ input.length = part.length := by
  unfold takeInput takeSized at h
  simp only [reader_bind] at h
  obtain ⟨outpoint, _, named, _, _, ⟨n, _, sized, script, _, scripted, ⟨⟩⟩, number, _, numbered,
    ⟨⟩⟩ := h
  obtain ⟨rfl, long⟩ := takeBytes_eq named
  obtain ⟨length, size, rfl, width, rfl, read⟩ := takeSize_eq sized
  obtain ⟨rfl, scripts⟩ := takeBytes_eq scripted
  obtain ⟨rfl, four⟩ := takeBytes_eq numbered
  refine ⟨outpoint ++ (length ++ (script ++ number)), by simp only [List.append_assoc],
    fun before => ?_⟩
  -- Three reads: the outpoint, the length of the script behind it, and the input as a whole.
  have first := Vector.slice_middle before outpoint (length ++ (script ++ number))
  have second := Vector.compactSizeAt_length (before ++ outpoint) (length ++ (script ++ number))
  rw [Vector.compactSize_append read, List.append_assoc, List.length_append, long] at second
  have whole := Vector.slice_middle before (outpoint ++ (length ++ (script ++ number))) []
  have total : (outpoint ++ (length ++ (script ++ number))).length
      = 36 + size.width + size.value + 4 := by
    simp only [List.length_append]
    omega
  rw [List.append_nil, total] at whole
  rw [long] at first
  rw [total]
  simp only [Vector.inputAt, bind_ok_iff, pure_ok_iff]
  exact ⟨_, ⟨_, first, _, second, _, whole, rfl⟩, rfl⟩

/-- Inputs that are taken off the front are read wherever they stand. -/
theorem repeated_takeInput_eq {count : Nat} {units : List Unit}
    (h : repeated takeInput count bytes = some (units, rest)) :
    ∃ part, bytes = part ++ rest ∧ ∀ before, ∃ outpoints,
      Vector.inputsFrom (before ++ part) count before.length
        = .ok (outpoints, (before ++ part).length) := by
  induction count generalizing bytes units with
  | zero =>
    obtain ⟨-, rfl⟩ := reader_pure.mp h
    exact ⟨[], rfl, fun before => ⟨[], by rw [List.append_nil]; rfl⟩⟩
  | succ count ih =>
    unfold repeated at h
    simp only [reader_bind, reader_pure] at h
    obtain ⟨⟨⟩, mid, one, others, _, more, -, rfl⟩ := h
    obtain ⟨first, rfl, reads⟩ := takeInput_eq one
    obtain ⟨last, rfl, reads_more⟩ := ih more
    refine ⟨first ++ last, (List.append_assoc ..).symm, fun before => ?_⟩
    obtain ⟨input, read, long⟩ := reads before
    -- The later inputs are read behind the first.
    obtain ⟨outpoints, read_more⟩ := reads_more (before ++ first)
    rw [List.length_append, ← long] at read_more
    have read := Vector.inputAt_append read last
    rw [List.append_assoc] at read read_more
    refine ⟨input.spent :: outpoints, ?_⟩
    simp only [Vector.inputsFrom, bind_ok_iff, pure_ok_iff]
    exact ⟨input, read, _, read_more, rfl⟩

/-- A vector of inputs that is taken off holds its inputs and nothing else. -/
theorem takeVector_holdsInputs {count : Nat} {vector : List UInt8}
    (h : takeVector takeInput bytes = some ((count, vector), rest)) :
    Vector.HoldsInputs vector := by
  simp only [takeVector, Option.bind_eq_bind, Option.bind_eq_some_iff] at h
  obtain ⟨⟨⟨_, units⟩, left⟩, h, same⟩ := h
  cases same
  simp only [reader_bind, reader_pure] at h
  obtain ⟨_, _, sized, _, _, inputs, ⟨⟩, rfl⟩ := h
  obtain ⟨front, size, rfl, width, rfl, read⟩ := takeSize_eq sized
  obtain ⟨part, rfl, reads⟩ := repeated_takeInput_eq inputs
  obtain ⟨outpoints, reads⟩ := reads front
  -- What was taken is all that is not left.
  have taken (left : List UInt8) : (front ++ (part ++ left)).take
      ((front ++ (part ++ left)).length - left.length) = front ++ part := by
    rw [← List.append_assoc, List.length_append, Nat.add_sub_cancel, List.take_left]
  dsimp only
  rw [taken]
  refine ⟨size, outpoints, Vector.compactSize_append read part, ?_⟩
  rw [← width]
  exact reads

/-- A transaction that is taken off holds its inputs. -/
theorem takeTx_holdsInputs {tx : Tx} (h : takeTx bytes = some (tx, rest)) :
    Vector.HoldsInputs tx.inputVector := by
  unfold takeTx at h
  simp only [reader_bind] at h
  obtain ⟨version, _, -, ⟨count, inputs⟩, _, taken, h⟩ := h
  dsimp only at h
  -- With a witness the inputs stand behind its mark, which was read as a vector too.
  split at h
  case isTrue =>
    simp only [reader_bind, reader_pure] at h
    obtain ⟨_, _, -, _, _, -, rfl, -⟩ := h
    exact takeVector_holdsInputs taken
  case isFalse =>
    simp only [reader_bind, reader_check, reader_pure] at h
    obtain ⟨_, _, -, -, ⟨_, _⟩, _, taken, _, _, -, _, _, -, -, _, _, -, rfl, -⟩ := h
    exact takeVector_holdsInputs taken

/-- **A transaction that is read off the network holds its inputs.** -/
theorem ofSerialized?_holdsInputs {tx : Tx} (h : ofSerialized? bytes = some tx) :
    Vector.HoldsInputs tx.inputVector := by
  unfold ofSerialized? at h
  split at h
  case h_1 read =>
    cases h
    exact takeTx_holdsInputs read
  case h_2 => cases h

end Tx

/-! ## §4. The amount of a deposit. -/

/-- What an accepted command keeps of the funding output that it names. -/
theorem Accepted.funded {s : State} {params : Params} {env : Circumstances} {command : Command}
    {t : Transition Receipt} {funding : Funding} (h : Accepted s params env command t)
    (names : command.funding? = some funding) :
    ∃ d, t.state.deposits.get? funding.key = some d ∧
      State.fundedAmount funding = .ok d.amount := by
  cases h with
  | reveal untagged reveals =>
    cases names
    refine ⟨_, ?_, reveals.read⟩
    rw [← reveals.key]
    exact Table.get?_insert_self _ _ _
  | reserve unreserved reveals =>
    cases names
    refine ⟨_, ?_, reveals.read⟩
    rw [← reveals.key]
    exact Table.get?_insert_self _ _ _
  | _ => cases names

section Amounts

variable {one other : Service} {env env' : Circumstances} {command command' : Command}
  {t t' : Transition Receipt} {funding funding' : Funding}

/-- **The amount of a deposit is a function of its outpoint**, if funding transactions hold the
inputs that they count: whoever names the same output of the same bytes, by whichever command, in
whatever state and under whatever parameters, has the same amount recorded under the same key. -/
theorem amount_of_outpoint (names : command.funding? = some funding)
    (names' : command'.funding? = some funding')
    (accepted : one.propose env command = .ok t) (accepted' : other.propose env' command' = .ok t')
    (same : funding.tx.serialized = funding'.tx.serialized)
    (index : funding.outputIndex = funding'.outputIndex)
    (held : Vector.HoldsInputs funding.tx.inputVector)
    (held' : Vector.HoldsInputs funding'.tx.inputVector) :
    funding.key = funding'.key ∧
      ∃ d d', t.state.deposits.get? funding.key = some d ∧
        t'.state.deposits.get? funding'.key = some d' ∧ d.amount = d'.amount := by
  have cut : funding.tx = funding'.tx := Tx.serialized_inj held held' same
  have keys : funding.key = funding'.key := by
    unfold Funding.key Funding.outpoint
    rw [cut, index]
  obtain ⟨d, kept, read⟩ := (Service.propose_accepted accepted).funded names
  obtain ⟨d', kept', read'⟩ := (Service.propose_accepted accepted').funded names'
  refine ⟨keys, d, d', kept, kept', ?_⟩
  -- The amount is read from the transaction, at the index.
  unfold State.fundedAmount at read read'
  rw [cut, index, read'] at read
  exact (Except.ok.inj read).symm

end Amounts

namespace Sample

/-- A funding output of a transaction with one input. -/
def whole : Funding := ⟨tx [⟨Octets.replicate 32 0x33, 1⟩] 20000000, 0, wallet, none⟩

/-- The same bytes, cut in the middle of the outpoint that the input spends. -/
def recut : Funding :=
  { whole with tx := { whole.tx with
      inputVector := whole.tx.inputVector.take 33
      outputVector := whole.tx.inputVector.drop 33 ++ whole.tx.outputVector } }

/-- The run up to the first command, which registers the wallet. -/
def registered : World Volatile :=
  (World.mk (Service.opened {}) Volatile.empty).serve (orders.take 1)

/-- The amount that is recorded when somebody reveals a funding output. -/
def recorded (funding : Funding) : Option UInt64 :=
  let next := registered.carry ⟨env 2, .reveal ⟨"mallory"⟩ ⟨funding, none⟩⟩
  (next.service.state.deposits.get? funding.key).map (·.amount)

end Sample

/-- One output is revealed by one caller, and reserved by another under other parameters. -/
theorem amount_of_outpoint_sample :
    let other := { Sample.registered.service with params := { treasury := ⟨"fund"⟩ } }
    let reveal := Command.reveal ⟨"alice"⟩ ⟨Sample.whole, none⟩
    let reserve := Command.reserve ⟨"bob"⟩ ⟨Sample.whole, 30, ⟨List.replicate 20 0x22, .inl rfl⟩⟩
    Vector.HoldsInputs Sample.whole.tx.inputVector ∧
    ∃ t t', Sample.registered.service.propose (Sample.env 2) reveal = .ok t ∧
      other.propose (Sample.env 3) reserve = .ok t' ∧
      ∃ d d', t.state.deposits.get? Sample.whole.key = some d ∧
        t'.state.deposits.get? Sample.whole.key = some d' ∧ d.amount = d'.amount := by
  intro other reveal reserve
  have held : Vector.HoldsInputs Sample.whole.tx.inputVector :=
    ⟨⟨1, 1⟩, [⟨Octets.replicate 32 0x33, 1⟩], by decide +kernel, by decide +kernel⟩
  have revealed : (Sample.registered.service.propose (Sample.env 2) reveal).isOk = true := by
    decide +kernel
  have reserved : (other.propose (Sample.env 3) reserve).isOk = true := by decide +kernel
  cases first : Sample.registered.service.propose (Sample.env 2) reveal with
  | error fault =>
    rw [first] at revealed
    cases revealed
  | ok t =>
    cases second : other.propose (Sample.env 3) reserve with
    | error fault =>
      rw [second] at reserved
      cases reserved
    | ok t' =>
      exact ⟨held, t, t', rfl, rfl,
        (amount_of_outpoint rfl rfl first second rfl rfl held held).2⟩

/-- Cut elsewhere, the bytes of a transaction are accepted with another amount for the same output
under the same key. -/
theorem amount_of_recut :
    Sample.recut.tx.serialized = Sample.whole.tx.serialized ∧
    Sample.recut.outputIndex = Sample.whole.outputIndex ∧
    Sample.recut.key = Sample.whole.key ∧
    Sample.recorded Sample.whole = some 20000000 ∧
    Sample.recorded Sample.recut = some 18446744069414584320 := by
  decide +kernel

end Custody
