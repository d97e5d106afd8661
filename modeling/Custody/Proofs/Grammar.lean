/-
  Custody.Proofs.Grammar
  ────────────────────────────────
  **VECTORS AS THEY ARE WRITTEN.**

  A number is written as a compact size in one byte or behind a mark that says
  how many bytes follow, in the least width that holds it or in a larger one.
  An output is its value, the length of its script, and the script; an input
  is an outpoint, the length of a script, the script, and a sequence number.
  A vector is the number of its elements and then the elements.

  The readers accept what is written so, and nothing else.  They work on
  offsets into one vector, so each is compared with what is left of the vector
  at its offset.

  Main facts:
    * `compactSize_ok_iff`       — a compact size is read where one is written;
    * `outputLengthAt_ok_iff`, `inputAt_ok_iff` — so are an output and an input;
    * `skipOutputs_ok_iff`, `inputsFrom_ok_iff` — and as many as are counted;
    * `outputCount_reads_grammar` — an output vector is read exactly as written.
-/
import Mathlib.Data.List.Infix
import Custody.Proofs.Cuts

namespace Custody

namespace Word

/-- Bytes are the bytes of the number that they are read as. -/
theorem littleEndian_fromLittleEndian (bytes : List UInt8) :
    littleEndian bytes.length (fromLittleEndian bytes) = bytes := by
  induction bytes with
  | nil => rfl
  | cons byte rest ih =>
    have below : byte.toNat < 256 := byte.toNat_lt
    rw [List.length_cons, littleEndian, fromLittleEndian, Nat.add_mul_mod_self_left,
      Nat.mod_eq_of_lt below, Nat.add_mul_div_left _ _ (by decide), Nat.div_eq_of_lt below,
      Nat.zero_add, ih, UInt8.ofNat_toNat]

end Word

namespace Vector

/-! ## §1. Compact sizes. -/

/-- The marks of the longer forms of a compact size, and how many bytes follow each. -/
def longForms : List (UInt8 × Nat) := [(0xfd, 2), (0xfe, 4), (0xff, 8)]

/-- The ways to write a number as a compact size: any form that has room for it. -/
inductive IsSize (n : Nat) : List UInt8 → Prop
  | short (fits : n < 0xfd) : IsSize n [UInt8.ofNat n]
  | long {mark : UInt8} {width : Nat} (known : (mark, width) ∈ longForms)
      (fits : n < Word.span width) : IsSize n (mark :: Word.littleEndian width n)

/-- A mark is no short form, and tells the width of its long form. -/
theorem compactWidth_of_mem {mark : UInt8} {width : Nat} (known : (mark, width) ∈ longForms) :
    ¬ mark < 0xfd ∧ compactWidth mark = width := by
  simp only [longForms, List.mem_cons, Prod.mk.injEq, List.not_mem_nil, or_false] at known
  rcases known with ⟨rfl, rfl⟩ | ⟨rfl, rfl⟩ | ⟨rfl, rfl⟩ <;> decide

/-- Three bytes are not below the first mark, and each of them is a mark. -/
theorem mem_longForms {first : UInt8} (large : ¬ first < 0xfd) :
    (first, compactWidth first) ∈ longForms := by
  have above : 0xfd ≤ first.toNat := UInt8.le_iff_toNat_le.mp (UInt8.not_lt.mp large)
  have below : first.toNat < 256 := first.toNat_lt
  have marks : first = 0xfd ∨ first = 0xfe ∨ first = 0xff := by
    simp only [← UInt8.toNat_inj]
    show first.toNat = 253 ∨ first.toNat = 254 ∨ first.toNat = 255
    omega
  rcases marks with rfl | rfl | rfl <;> decide

theorem IsSize.length_pos {n : Nat} {form : List UInt8} (h : IsSize n form) : 0 < form.length := by
  cases h <;> exact Nat.succ_pos _

/-- What is read as a compact size is written in front. -/
theorem written_of_compactSize {bytes : List UInt8} {size : CompactSize}
    (read : compactSize bytes = .ok size) :
    ∃ form, IsSize size.value form ∧ form.length = size.width ∧ form <+: bytes := by
  cases bytes with
  | nil => cases read
  | cons first rest =>
    simp only [compactSize] at read
    split at read
    case isTrue small =>
      cases read
      refine ⟨[first], ?_, rfl, List.prefix_append [first] rest⟩
      have short : IsSize first.toNat [UInt8.ofNat first.toNat] :=
        .short (UInt8.lt_iff_toNat_lt.mp small)
      rwa [UInt8.ofNat_toNat] at short
    case isFalse large =>
      simp only [bind_ok_iff, pure_ok_iff] at read
      obtain ⟨body, taken, rfl⟩ := read
      obtain ⟨fits, rfl⟩ := (slice_eq_ok_iff ..).mp taken
      have length : (((first :: rest).drop 1).take (compactWidth first)).length
          = compactWidth first := by
        rw [List.length_take, List.length_drop]
        omega
      -- What follows the mark is written in the width that the mark names.
      have written := Word.littleEndian_fromLittleEndian
        (((first :: rest).drop 1).take (compactWidth first))
      have bound := Word.fromLittleEndian_lt
        (((first :: rest).drop 1).take (compactWidth first))
      rw [length] at written bound
      refine ⟨_, .long (mem_longForms large) bound, ?_, ?_⟩
      · rw [List.length_cons, Word.length_littleEndian, Nat.add_comm]
      · rw [written]
        exact (List.prefix_cons_inj first).mpr (List.take_prefix _ _)

/-- What is written as a compact size is read, whatever follows it. -/
theorem compactSize_of_written {value : Nat} {form : List UInt8} (written : IsSize value form)
    (rest : List UInt8) : compactSize (form ++ rest) = .ok ⟨value, form.length⟩ := by
  cases written with
  | short fits =>
    have same : (UInt8.ofNat value).toNat = value :=
      UInt8.toNat_ofNat_of_lt' (Nat.lt_trans fits (by decide))
    have small : UInt8.ofNat value < 0xfd := by
      rw [UInt8.lt_iff_toNat_lt, same]
      exact fits
    show compactSize (UInt8.ofNat value :: rest) = _
    rw [compactSize, if_pos small, same]
    rfl
  | @long mark width known fits =>
    obtain ⟨large, own⟩ := compactWidth_of_mem known
    have body := slice_middle [mark] (Word.littleEndian width value) rest
    rw [Word.length_littleEndian] at body
    show compactSize (mark :: (Word.littleEndian width value ++ rest)) = _
    simp only [compactSize, if_neg large, own, bind_ok_iff, pure_ok_iff]
    refine ⟨_, body, ?_⟩
    rw [Word.fromLittleEndian_littleEndian, Nat.mod_eq_of_lt fits, List.length_cons,
      Word.length_littleEndian, Nat.add_comm]

/-- **A compact size is read where one is written.** -/
theorem compactSize_ok_iff {bytes : List UInt8} {size : CompactSize} :
    compactSize bytes = .ok size ↔
      ∃ form, IsSize size.value form ∧ form.length = size.width ∧ form <+: bytes := by
  refine ⟨written_of_compactSize, ?_⟩
  rintro ⟨form, written, width, rest, rfl⟩
  rw [compactSize_of_written written, width]

/-! ## §2. What is read at an offset. -/

section Offsets

variable {vector part : List UInt8} {offset n : Nat}

/-- A slice is read where it stands. -/
theorem slice_ok_iff : slice vector offset n = .ok part ↔
    offset ≤ vector.length ∧ part.length = n ∧ part <+: vector.drop offset := by
  rw [slice_eq_ok_iff]
  constructor
  · rintro ⟨fits, rfl⟩
    refine ⟨by omega, ?_, List.take_prefix _ _⟩
    rw [List.length_take, List.length_drop]
    omega
  · rintro ⟨inside, rfl, front⟩
    have fits := front.length_le
    rw [List.length_drop] at fits
    exact ⟨by omega, List.prefix_iff_eq_take.mp front⟩

/-- A compact size is read at an offset where one is written. -/
theorem compactSizeAt_ok_iff {size : CompactSize} : compactSizeAt vector offset = .ok size ↔
    offset ≤ vector.length ∧
      ∃ form, IsSize size.value form ∧ form.length = size.width ∧ form <+: vector.drop offset := by
  unfold compactSizeAt
  by_cases inside : offset ≤ vector.length
  · rw [if_pos inside, compactSize_ok_iff, and_iff_right inside]
  · rw [if_neg inside]
    exact ⟨nofun, fun h => absurd h.1 inside⟩

/-- One thing after another stands at an offset if the first does and the other behind it. -/
theorem append_prefix_drop_iff {a b : List UInt8} :
    a ++ b <+: vector.drop offset ↔
      a <+: vector.drop offset ∧ b <+: vector.drop (offset + a.length) := by
  constructor
  · rintro ⟨rest, split⟩
    refine ⟨⟨b ++ rest, by rw [← List.append_assoc, split]⟩, rest, ?_⟩
    rw [← List.drop_drop, ← split, List.append_assoc, List.drop_left]
  · rintro ⟨⟨rest, split⟩, behind⟩
    rw [← List.drop_drop, ← split, List.drop_left] at behind
    rw [← split]
    exact (List.prefix_append_right_inj a).mpr behind

/-- What stands at an offset and is not empty stands inside. -/
theorem le_of_prefix_drop (front : part <+: vector.drop offset) (positive : 0 < part.length) :
    offset + part.length ≤ vector.length := by
  have fits := front.length_le
  rw [List.length_drop] at fits
  omega

end Offsets

/-! ## §3. Outputs and inputs. -/

/-- An output as it is written. -/
structure WrittenOutput where
  value : UInt64
  /-- The length of the script. -/
  size : List UInt8
  script : List UInt8
  sized : IsSize script.length size

/-- The bytes of an output: eight for its value, and the script behind its length. -/
def WrittenOutput.bytes (o : WrittenOutput) : List UInt8 :=
  Word.littleEndian 8 o.value.toNat ++ (o.size ++ o.script)

theorem WrittenOutput.length_bytes (o : WrittenOutput) :
    o.bytes.length = 8 + o.size.length + o.script.length := by
  rw [bytes, List.length_append, List.length_append, Word.length_littleEndian]
  omega

/-- An input as it is written. -/
structure WrittenInput where
  spent : Outpoint
  /-- The length of the script. -/
  size : List UInt8
  script : List UInt8
  sized : IsSize script.length size
  sequence : Octets 4

/-- The bytes of an input: an outpoint, a script behind its length, and a sequence number. -/
def WrittenInput.bytes (i : WrittenInput) : List UInt8 :=
  (i.spent.txHash.bytes ++ Word.littleEndian 4 i.spent.index.toNat)
    ++ (i.size ++ (i.script ++ i.sequence.bytes))

theorem WrittenInput.length_bytes (i : WrittenInput) :
    i.bytes.length = 36 + i.size.length + i.script.length + 4 := by
  simp only [bytes, List.length_append, Word.length_littleEndian, i.spent.txHash.length_eq,
    i.sequence.length_eq]
  omega

/-- Thirty-six bytes are those of the outpoint that is read from them. -/
theorem bytes_of_outpoint {bytes : List UInt8} (whole : bytes.length = 36) :
    (Octets.take 32 bytes).bytes
      ++ Word.littleEndian 4 (UInt32.ofNat (Word.fromLittleEndian (bytes.drop 32))).toNat
      = bytes := by
  have hash : (bytes.take 32).length = 32 := by
    rw [List.length_take]
    omega
  have index : (bytes.drop 32).length = 4 := by
    rw [List.length_drop]
    omega
  have digest : Octets.take 32 bytes = ⟨bytes.take 32, hash⟩ := by
    have taken := Octets.take_bytes (⟨bytes.take 32, hash⟩ : Octets 32) (bytes.drop 32)
    rwa [List.take_append_drop] at taken
  have same := Word.littleEndian_fromLittleEndian (bytes.drop 32)
  have fits := Word.fromLittleEndian_lt (bytes.drop 32)
  rw [index] at same fits
  rw [UInt32.toNat_ofNat_of_lt' fits, same, digest, List.take_append_drop]

/-- An outpoint is read from its bytes. -/
theorem outpoint_of_bytes (o : Outpoint) {bytes : List UInt8}
    (own : bytes = o.txHash.bytes ++ Word.littleEndian 4 o.index.toNat) :
    (⟨Octets.take 32 bytes, UInt32.ofNat (Word.fromLittleEndian (bytes.drop 32))⟩ : Outpoint)
      = o := by
  have index : o.index.toNat % Word.span 4 = o.index.toNat := Nat.mod_eq_of_lt o.index.toNat_lt
  rw [own, List.drop_left' o.txHash.length_eq, Octets.take_bytes,
    Word.fromLittleEndian_littleEndian, index, UInt32.ofNat_toNat]

section Elements

variable {vector : List UInt8} {offset : Nat}

/-- **An output is read where one is written.** -/
theorem outputLengthAt_ok_iff {length : Nat} : outputLengthAt vector offset = .ok length ↔
    ∃ o : WrittenOutput, o.bytes.length = length ∧ o.bytes <+: vector.drop offset := by
  simp only [outputLengthAt, bind_ok_iff, pure_ok_iff, slice_ok_iff, compactSizeAt_ok_iff]
  constructor
  · rintro ⟨value, ⟨-, eight, front⟩, size, ⟨-, form, sized, width, behind⟩, whole,
      ⟨inside, long, all⟩, rfl⟩
    -- The whole is the value, the length of the script, and what is left of it.
    rw [← eight] at behind
    obtain ⟨script, rfl⟩ : value ++ form <+: whole :=
      List.prefix_of_prefix_length_le (append_prefix_drop_iff.mpr ⟨front, behind⟩) all
        (by rw [List.length_append]; omega)
    rw [List.length_append, List.length_append] at long
    have rest : script.length = size.value := by omega
    rw [← rest] at sized
    refine ⟨⟨UInt64.ofNat (Word.fromLittleEndian value), form, script, sized⟩, ?_, ?_⟩
    · rw [WrittenOutput.length_bytes]
      dsimp only
      omega
    · have fits := Word.fromLittleEndian_lt value
      have same := Word.littleEndian_fromLittleEndian value
      rw [eight] at fits same
      have written : (UInt64.ofNat (Word.fromLittleEndian value)).toNat
          = Word.fromLittleEndian value := UInt64.toNat_ofNat_of_lt' fits
      unfold WrittenOutput.bytes
      dsimp only
      rw [written, same, ← List.append_assoc]
      exact all
  · rintro ⟨o, rfl, front⟩
    have long := o.length_bytes
    have inside := le_of_prefix_drop front (by omega)
    obtain ⟨value, behind⟩ := append_prefix_drop_iff.mp front
    rw [Word.length_littleEndian] at behind
    refine ⟨_, ⟨by omega, Word.length_littleEndian .., value⟩, ⟨o.script.length, o.size.length⟩,
      ⟨by omega, o.size, o.sized, rfl, (append_prefix_drop_iff.mp behind).1⟩, o.bytes,
      ⟨by omega, long, front⟩, long.symm⟩

/-- **An input is read where one is written.** -/
theorem inputAt_ok_iff {input : Input} : inputAt vector offset = .ok input ↔
    ∃ i : WrittenInput, i.spent = input.spent ∧ i.bytes.length = input.length ∧
      i.bytes <+: vector.drop offset := by
  simp only [inputAt, bind_ok_iff, pure_ok_iff, slice_ok_iff, compactSizeAt_ok_iff]
  constructor
  · rintro ⟨outpoint, ⟨-, named, front⟩, size, ⟨-, form, sized, width, behind⟩, whole,
      ⟨inside, long, all⟩, rfl⟩
    rw [← named] at behind
    obtain ⟨rest, rfl⟩ : outpoint ++ form <+: whole :=
      List.prefix_of_prefix_length_le (append_prefix_drop_iff.mpr ⟨front, behind⟩) all
        (by rw [List.length_append]; omega)
    rw [List.length_append, List.length_append] at long
    -- The last four bytes are the sequence number, and those before them the script.
    have script : (rest.take size.value).length = size.value := by
      rw [List.length_take]
      omega
    have four : (rest.drop size.value).length = 4 := by
      rw [List.length_drop]
      omega
    refine ⟨⟨⟨Octets.take 32 outpoint,
        UInt32.ofNat (Word.fromLittleEndian (outpoint.drop 32))⟩, form, rest.take size.value,
        by rw [script]; exact sized, ⟨rest.drop size.value, four⟩⟩, rfl, ?_, ?_⟩
    · rw [WrittenInput.length_bytes]
      dsimp only
      omega
    · unfold WrittenInput.bytes
      dsimp only
      rw [bytes_of_outpoint named, List.take_append_drop, ← List.append_assoc]
      exact all
  · rintro ⟨i, spends, length, front⟩
    obtain ⟨spent, _⟩ := input
    cases spends
    cases length
    have long := i.length_bytes
    have inside := le_of_prefix_drop front (by omega)
    have named : (i.spent.txHash.bytes ++ Word.littleEndian 4 i.spent.index.toNat).length = 36 := by
      rw [List.length_append, i.spent.txHash.length_eq, Word.length_littleEndian]
    obtain ⟨outpoint, behind⟩ := append_prefix_drop_iff.mp front
    rw [named] at behind
    refine ⟨_, ⟨by omega, named, outpoint⟩, ⟨i.script.length, i.size.length⟩,
      ⟨by omega, i.size, i.sized, rfl, (append_prefix_drop_iff.mp behind).1⟩, i.bytes,
      ⟨by omega, long, front⟩, ?_⟩
    rw [outpoint_of_bytes i.spent rfl, ← long]

/-- **As many outputs are skipped as are written.** -/
theorem skipOutputs_ok_iff {count stop : Nat} : skipOutputs vector count offset = .ok stop ↔
    ∃ outputs : List WrittenOutput, outputs.length = count ∧
      outputs.flatMap WrittenOutput.bytes <+: vector.drop offset ∧
      stop = offset + (outputs.flatMap WrittenOutput.bytes).length := by
  induction count generalizing offset with
  | zero =>
    simp only [skipOutputs, List.length_eq_zero_iff, exists_eq_left, Except.ok.injEq]
    simp [eq_comm]
  | succ count ih =>
    simp only [skipOutputs, bind_ok_iff, outputLengthAt_ok_iff, ih]
    constructor
    · rintro ⟨_, ⟨o, rfl, front⟩, others, counted, behind, rfl⟩
      refine ⟨o :: others, by rw [List.length_cons, counted], ?_, ?_⟩
      · rw [List.flatMap_cons]
        exact append_prefix_drop_iff.mpr ⟨front, behind⟩
      · rw [List.flatMap_cons, List.length_append, Nat.add_assoc]
    · rintro ⟨outputs, counted, front, rfl⟩
      obtain ⟨o, others, rfl⟩ := List.exists_cons_of_length_eq_add_one counted
      rw [List.flatMap_cons] at front ⊢
      obtain ⟨first, behind⟩ := append_prefix_drop_iff.mp front
      exact ⟨_, ⟨o, rfl, first⟩, others, Nat.succ.inj counted, behind,
        by rw [List.length_append, Nat.add_assoc]⟩

/-- **As many inputs are read as are written.** -/
theorem inputsFrom_ok_iff {count stop : Nat} {outpoints : List Outpoint} :
    inputsFrom vector count offset = .ok (outpoints, stop) ↔
      ∃ inputs : List WrittenInput, inputs.length = count ∧ inputs.map (·.spent) = outpoints ∧
        inputs.flatMap WrittenInput.bytes <+: vector.drop offset ∧
        stop = offset + (inputs.flatMap WrittenInput.bytes).length := by
  induction count generalizing offset outpoints with
  | zero =>
    simp only [inputsFrom, List.length_eq_zero_iff, exists_eq_left, Except.ok.injEq, Prod.mk.injEq]
    simp [eq_comm]
  | succ count ih =>
    simp only [inputsFrom, bind_ok_iff, pure_ok_iff, inputAt_ok_iff]
    constructor
    · rintro ⟨input, ⟨i, spends, length, front⟩, ⟨rest, last⟩, later, ends⟩
      cases ends
      obtain ⟨others, counted, rfl, behind, rfl⟩ := ih.mp later
      rw [← length] at behind ⊢
      refine ⟨i :: others, by rw [List.length_cons, counted], by rw [List.map_cons, spends], ?_, ?_⟩
      · rw [List.flatMap_cons]
        exact append_prefix_drop_iff.mpr ⟨front, behind⟩
      · rw [List.flatMap_cons, List.length_append, Nat.add_assoc]
    · rintro ⟨inputs, counted, rfl, front, rfl⟩
      obtain ⟨i, others, rfl⟩ := List.exists_cons_of_length_eq_add_one counted
      rw [List.flatMap_cons] at front
      obtain ⟨first, behind⟩ := append_prefix_drop_iff.mp front
      have later := ih.mpr ⟨others, Nat.succ.inj counted, rfl, behind,
        by rw [List.flatMap_cons, List.length_append, Nat.add_assoc]⟩
      exact ⟨⟨i.spent, i.bytes.length⟩, ⟨i, rfl, rfl, first⟩, _, later, rfl⟩

end Elements

/-! ## §4. Vectors. -/

/-- A vector is the number of its elements and then their bytes. -/
def IsVector {α : Type} (bytes : α → List UInt8) (items : List α) (vector : List UInt8) : Prop :=
  ∃ count, IsSize items.length count ∧ vector = count ++ items.flatMap bytes

section Vectors

variable {vector : List UInt8}

/-- A vector is as long as its count and the elements that stand behind it. -/
theorem isVector_iff {α : Type} {bytes : α → List UInt8} {items : List α} :
    IsVector bytes items vector ↔
      ∃ count, compactSize vector = .ok count ∧ items.length = count.value ∧
        items.flatMap bytes <+: vector.drop count.width ∧
        count.width + (items.flatMap bytes).length = vector.length := by
  constructor
  · rintro ⟨form, sized, rfl⟩
    refine ⟨⟨items.length, form.length⟩,
      compactSize_ok_iff.mpr ⟨form, sized, rfl, List.prefix_append _ _⟩, rfl, ?_, ?_⟩
    · rw [List.drop_left]
    · rw [List.length_append]
  · rintro ⟨count, counted, many, behind, length⟩
    obtain ⟨form, sized, width, rest, rfl⟩ := compactSize_ok_iff.mp counted
    rw [← many] at sized
    rw [← width] at behind length
    rw [List.drop_left] at behind
    rw [List.length_append] at length
    exact ⟨form, sized, by rw [behind.eq_of_length (by omega)]⟩

/-- **The outputs of a vector are counted where nothing follows them.** -/
theorem outputCount_ok_iff {n : Nat} : outputCount vector = .ok n ↔
    ∃ outputs : List WrittenOutput, outputs.length = n ∧
      IsVector WrittenOutput.bytes outputs vector := by
  simp only [outputCount, throw_bind, bind_ok_iff, check_ok_iff, pure_ok_iff, skipOutputs_ok_iff,
    isVector_iff, Decidable.not_not]
  constructor
  · rintro ⟨count, counted, _, ⟨outputs, many, behind, rfl⟩, ends, rfl⟩
    exact ⟨outputs, many, count, counted, many, behind, ends⟩
  · rintro ⟨outputs, rfl, count, counted, many, behind, ends⟩
    exact ⟨count, counted, _, ⟨outputs, many, behind, rfl⟩, ends, many.symm⟩

/-- **The inputs of a vector are read to its end where nothing follows them.** -/
theorem inputs_ok_iff {outpoints : List Outpoint} :
    (∃ count, compactSize vector = .ok count ∧
      inputsFrom vector count.value count.width = .ok (outpoints, vector.length)) ↔
    ∃ inputs : List WrittenInput, inputs.map (·.spent) = outpoints ∧
      IsVector WrittenInput.bytes inputs vector := by
  simp only [inputsFrom_ok_iff, isVector_iff]
  constructor
  · rintro ⟨count, counted, inputs, many, spent, behind, ends⟩
    exact ⟨inputs, spent, count, counted, many, behind, ends.symm⟩
  · rintro ⟨inputs, spent, count, counted, many, behind, ends⟩
    exact ⟨count, counted, inputs, many, spent, behind, ends.symm⟩

/-! ## §5. The outputs of a vector. -/

/-- An output of a vector is found under its index. -/
theorem outputAt_of_getElem? {outputs : List WrittenOutput} {i : Nat} {o : WrittenOutput}
    (written : IsVector WrittenOutput.bytes outputs vector) (found : outputs[i]? = some o) :
    outputAt vector i = .ok o.bytes := by
  obtain ⟨count, counted, many, behind, ends⟩ := isVector_iff.mp written
  obtain ⟨inside, rfl⟩ := List.getElem?_eq_some_iff.mp found
  -- The outputs before it are skipped, and those after it are not looked at.
  have split : outputs = outputs.take i ++ ([outputs[i]] ++ outputs.drop (i + 1)) := by
    rw [List.singleton_append, List.getElem_cons_drop, List.take_append_drop]
  rw [split, List.flatMap_append, List.flatMap_append] at behind
  obtain ⟨before, behind⟩ := append_prefix_drop_iff.mp behind
  obtain ⟨own, -⟩ := append_prefix_drop_iff.mp behind
  rw [List.flatMap_singleton] at own
  have long := outputs[i].length_bytes
  have fits := le_of_prefix_drop own (by omega)
  simp only [outputAt, throw_bind, bind_ok_iff, check_ok_iff, skipOutputs_ok_iff,
    outputLengthAt_ok_iff, slice_ok_iff]
  exact ⟨count, counted, by omega, _, ⟨outputs.take i, List.length_take_of_le (by omega), before,
    rfl⟩, _, ⟨outputs[i], rfl, own⟩, by omega, rfl, own⟩

/-- There is no output from the number of outputs on. -/
theorem outputAt_of_le {outputs : List WrittenOutput} {i : Nat}
    (written : IsVector WrittenOutput.bytes outputs vector) (beyond : outputs.length ≤ i) :
    outputAt vector i = .error (.noSuchOutput i outputs.length) := by
  obtain ⟨count, counted, many, -⟩ := isVector_iff.mp written
  rw [many] at beyond ⊢
  unfold outputAt
  rw [counted]
  show (if count.value ≤ i then throw _ >>= _ else _) = _
  rw [if_pos beyond]
  rfl

/-- The value of an output is read back. -/
theorem outputValue_bytes (o : WrittenOutput) : outputValue o.bytes = .ok o.value := by
  have front : Word.littleEndian 8 o.value.toNat <+: o.bytes.drop 0 := List.prefix_append _ _
  simp only [outputValue, bind_ok_iff, slice_ok_iff, pure_ok_iff]
  refine ⟨_, ⟨Nat.zero_le _, Word.length_littleEndian .., front⟩, ?_⟩
  have fits : o.value.toNat < Word.span 8 := o.value.toNat_lt
  rw [Word.fromLittleEndian_littleEndian, Nat.mod_eq_of_lt fits, UInt64.ofNat_toNat]

/-- The script of an output is read back. -/
theorem outputScript_bytes (o : WrittenOutput) : outputScript o.bytes = .ok o.script := by
  have long := o.length_bytes
  have whole : o.bytes <+: o.bytes.drop 0 := List.prefix_refl _
  obtain ⟨-, behind⟩ := append_prefix_drop_iff.mp whole
  rw [Word.length_littleEndian, Nat.zero_add] at behind
  obtain ⟨size, script⟩ := append_prefix_drop_iff.mp behind
  simp only [outputScript, bind_ok_iff, compactSizeAt_ok_iff, slice_ok_iff]
  refine ⟨⟨o.script.length, o.size.length⟩, ⟨by omega, o.size, o.sized, rfl, size⟩, ?_, rfl,
    script⟩
  dsimp only
  omega

/-- Every output takes nine bytes at least. -/
theorem nine_mul_le (outputs : List WrittenOutput) :
    9 * outputs.length ≤ (outputs.flatMap WrittenOutput.bytes).length := by
  induction outputs with
  | nil => exact Nat.le_refl 0
  | cons o rest ih =>
    have long := o.length_bytes
    have sized := o.sized.length_pos
    rw [List.length_cons, List.flatMap_cons, List.length_append]
    omega

end Vectors

end Vector

/-! ## §6. Vectors that are not read. -/

/-- Whether bytes are missing. -/
def VectorFault.isShort : VectorFault → Bool
  | .emptyCompactSize | .truncated .. => true
  | _ => false

namespace Vector

section Faults

variable {vector : List UInt8} {offset needed : Nat} {fault : VectorFault}

theorem bind_error_iff {ε α β : Type} {x : Except ε α} {f : α → Except ε β} {e : ε} :
    (x >>= f) = .error e ↔ x = .error e ∨ ∃ a, x = .ok a ∧ f a = .error e := by
  cases x with
  | error other => simp [bind, Except.bind]
  | ok a => simp [bind, Except.bind]

/-- A slice that is not read lacks bytes. -/
theorem slice_error (failed : slice vector offset needed = .error fault) :
    fault.isShort = true := by
  unfold slice at failed
  split at failed
  · cases failed
  · cases failed
    rfl

/-- A compact size that is not read lacks bytes. -/
theorem compactSize_error (failed : compactSize vector = .error fault) :
    fault.isShort = true := by
  cases vector with
  | nil =>
    cases failed
    rfl
  | cons first rest =>
    simp only [compactSize] at failed
    split at failed
    · cases failed
    · rcases bind_error_iff.mp failed with short | ⟨body, -, ⟨⟩⟩
      exact slice_error short

/-- An output that is not read lacks bytes. -/
theorem outputLengthAt_error (failed : outputLengthAt vector offset = .error fault) :
    fault.isShort = true := by
  simp only [outputLengthAt, bind_error_iff] at failed
  rcases failed with short | ⟨_, -, short | ⟨_, -, short | ⟨_, -, ⟨⟩⟩⟩⟩
  · exact slice_error short
  · unfold compactSizeAt at short
    split at short
    · exact compactSize_error short
    · cases short
      rfl
  · exact slice_error short

/-- Outputs that cannot be skipped are missing bytes. -/
theorem skipOutputs_error {count : Nat} (failed : skipOutputs vector count offset = .error fault) :
    fault.isShort = true := by
  induction count generalizing offset with
  | zero => cases failed
  | succ count ih =>
    unfold skipOutputs at failed
    rcases bind_error_iff.mp failed with short | ⟨_, -, later⟩
    · exact outputLengthAt_error short
    · exact ih later

/-- **A vector whose outputs are not counted is missing bytes or has too many.** -/
theorem outputCount_error (failed : outputCount vector = .error fault) :
    fault.isShort = true ∨ ∃ bytes, 0 < bytes ∧ fault = .trailing bytes := by
  simp only [outputCount, throw_bind, bind_error_iff] at failed
  rcases failed with short | ⟨count, counted, short | ⟨stop, skipped, trails⟩⟩
  · exact .inl (compactSize_error short)
  · exact .inl (skipOutputs_error short)
  · split at trails
    case isFalse => cases trails
    case isTrue differ =>
      cases trails
      -- What was skipped lies in the vector, so something is left.
      obtain ⟨outputs, -, front, rfl⟩ := skipOutputs_ok_iff.mp skipped
      obtain ⟨form, -, width, inside⟩ := compactSize_ok_iff.mp counted
      have fits := front.length_le
      have starts := inside.length_le
      rw [List.length_drop] at fits
      exact .inr ⟨_, by omega, rfl⟩

/-- **A count that the vector is too short for is not read to its end.** -/
theorem outputCount_of_short {count : CompactSize} (counted : compactSize vector = .ok count)
    (short : vector.length < count.width + 9 * count.value) :
    ∃ fault, outputCount vector = .error fault ∧ fault.isShort = true := by
  unfold outputCount
  rw [counted]
  cases skipped : skipOutputs vector count.value count.width with
  | error fault =>
    refine ⟨fault, ?_, skipOutputs_error skipped⟩
    show (skipOutputs vector count.value count.width >>= _) = _
    rw [skipped]
    rfl
  | ok stop =>
    obtain ⟨outputs, many, front, -⟩ := skipOutputs_ok_iff.mp skipped
    have nine := nine_mul_le outputs
    have fits := front.length_le
    obtain ⟨form, -, width, inside⟩ := compactSize_ok_iff.mp counted
    have starts := inside.length_le
    rw [List.length_drop] at fits
    omega

end Faults

/-- **An output vector is read exactly as it is written.**  It is counted as `n` outputs if it is the
number `n` and then `n` outputs, and nothing else; then each output is found under its index, with
its value and its script, and none from the number of outputs on.  Whatever else is read, bytes are
missing or left over; and they are missing where the count is too large for the vector. -/
theorem outputs_read_as_written (vector : List UInt8) :
    (∀ n, outputCount vector = .ok n ↔ ∃ outputs : List WrittenOutput, outputs.length = n ∧
      IsVector WrittenOutput.bytes outputs vector) ∧
    (∀ outputs : List WrittenOutput, IsVector WrittenOutput.bytes outputs vector →
      (∀ i o, outputs[i]? = some o → outputAt vector i = .ok o.bytes ∧
        outputValue o.bytes = .ok o.value ∧ outputScript o.bytes = .ok o.script) ∧
      ∀ i, outputs.length ≤ i → outputAt vector i = .error (.noSuchOutput i outputs.length)) ∧
    ((∀ outputs : List WrittenOutput, ¬ IsVector WrittenOutput.bytes outputs vector) →
      ∃ fault, outputCount vector = .error fault ∧
        (fault.isShort = true ∨ ∃ bytes, 0 < bytes ∧ fault = .trailing bytes)) ∧
    ∀ count, compactSize vector = .ok count → vector.length < count.width + 9 * count.value →
      ∃ fault, outputCount vector = .error fault ∧ fault.isShort = true := by
  refine ⟨fun n => outputCount_ok_iff, fun outputs written => ⟨?_, ?_⟩, ?_, ?_⟩
  · intro i o found
    exact ⟨outputAt_of_getElem? written found, outputValue_bytes o, outputScript_bytes o⟩
  · intro i beyond
    exact outputAt_of_le written beyond
  · intro unwritten
    cases read : outputCount vector with
    | error fault => exact ⟨fault, rfl, outputCount_error read⟩
    | ok n =>
      obtain ⟨outputs, -, written⟩ := outputCount_ok_iff.mp read
      exact absurd written (unwritten outputs)
  · intro count counted short
    exact outputCount_of_short counted short

end Vector

namespace Sample

/-- An output with a script of one byte, whose length is written in eight. -/
def wide : Vector.WrittenOutput :=
  ⟨174990, 0xff :: Word.littleEndian 8 1, [0x51], .long (by decide) (by decide)⟩

/-- An output without a script. -/
def scriptless : Vector.WrittenOutput := ⟨5000, [UInt8.ofNat 0], [], .short (by decide)⟩

/-- Both, with their number written in two bytes. -/
def both : List UInt8 := (0xfd :: Word.littleEndian 2 2) ++ [wide, scriptless].flatMap (·.bytes)

end Sample

/-- Two outputs are read from a vector whose lengths are wider than they need to be; and the largest
count, with nothing behind it, is refused. -/
theorem Vector.outputs_read_as_written_sample :
    Vector.IsVector Vector.WrittenOutput.bytes [Sample.wide, Sample.scriptless] Sample.both ∧
    Vector.outputCount Sample.both = .ok 2 ∧
    Vector.outputAt Sample.both 0 = .ok Sample.wide.bytes ∧
    Vector.outputScript Sample.scriptless.bytes = .ok [] ∧
    Vector.outputAt Sample.both 2 = .error (.noSuchOutput 2 2) ∧
    ∃ fault, Vector.outputCount (0xff :: Word.littleEndian 8 (UInt64.size - 1)) = .error fault ∧
      fault.isShort = true := by
  have written : Vector.IsVector Vector.WrittenOutput.bytes [Sample.wide, Sample.scriptless]
      Sample.both := ⟨_, .long (by decide) (by decide), rfl⟩
  obtain ⟨counts, finds, -, -⟩ := Vector.outputs_read_as_written Sample.both
  obtain ⟨outputs, beyond⟩ := finds _ written
  have large := (Vector.outputs_read_as_written
    (0xff :: Word.littleEndian 8 (UInt64.size - 1))).2.2.2 ⟨UInt64.size - 1, 9⟩
  refine ⟨written, (counts 2).mpr ⟨_, rfl, written⟩, (outputs 0 _ rfl).1, (outputs 1 _ rfl).2.2,
    beyond 2 (Nat.le_refl 2), large ?_ ?_⟩
  · decide +kernel
  · decide +kernel

end Custody
