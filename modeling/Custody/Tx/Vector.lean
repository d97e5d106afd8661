/-
  Custody.Tx.Vector
  ────────────────────────────────
  **INPUT AND OUTPUT VECTORS AS BYTES.**

  An input vector is a compact-size count followed by inputs, each an
  outpoint of 36 bytes, a script behind its compact-size length, and a
  sequence number of four bytes.  An output vector is a count followed by
  outputs, each a value of eight bytes and a script behind its length.

  Vectors come from outside, so every read is checked against the bytes that
  are there.  A fault names the offset of the read that failed; the offset of
  a compact size that is cut short counts from the compact size itself.

  Main facts:
    * `compactSize_lt`  — a compact size is below 2^64;
    * `slice_eq_ok_iff` — a slice is read exactly when it lies in the bytes.
-/
import Custody.Category
import Custody.Octets
import Custody.Word

namespace Custody

/-! ## §1. Faults. -/

/-- Why a vector cannot be read. -/
inductive VectorFault where
  | emptyCompactSize
  | truncated (offset needed available : Nat)
  | noSuchOutput (index count : Nat)
  | unsupportedScript
  | trailing (bytes : Nat)
deriving DecidableEq, Repr

namespace VectorFault

/-- The wording of a fault. -/
def message : VectorFault → String
  | .emptyCompactSize => "empty compact-size integer"
  | .truncated offset needed available =>
    s!"truncated read at offset {offset}: need {needed} bytes, {available} available"
  | .noSuchOutput index count => s!"output index {index} out of range ({count} outputs)"
  | .unsupportedScript => "output script is neither P2WPKH nor P2PKH"
  | .trailing bytes => s!"vector has {bytes} trailing bytes after the last element"

/-- The code of a fault. -/
def code : VectorFault → String
  | .emptyCompactSize => "INVALID_VARINT"
  | .truncated .. => "TRUNCATED_VECTOR"
  | .noSuchOutput .. => "OUTPUT_INDEX_OUT_OF_RANGE"
  | .unsupportedScript => "UNSUPPORTED_OUTPUT_SCRIPT"
  | .trailing _ => "TRAILING_BYTES"

/-- Whatever is wrong with a vector, the input is malformed. -/
def category (_ : VectorFault) : Category := .malformed

end VectorFault

namespace Vector

/-! ## §2. Slices and compact sizes. -/

/-- The `needed` bytes from an offset on. -/
def slice (bytes : List UInt8) (offset needed : Nat) : Except VectorFault (List UInt8) :=
  if offset + needed ≤ bytes.length then .ok ((bytes.drop offset).take needed)
  else .error (.truncated offset needed (bytes.length - offset))

/-- A slice is read exactly if it lies in the bytes. -/
theorem slice_eq_ok_iff (bytes : List UInt8) (offset needed : Nat) (part : List UInt8) :
    slice bytes offset needed = .ok part ↔
      offset + needed ≤ bytes.length ∧ part = (bytes.drop offset).take needed := by
  unfold slice
  split
  case isTrue h => simp [h, eq_comm]
  case isFalse h => simp [h]

/-- How many bytes follow the first byte of a compact size. -/
def compactWidth (first : UInt8) : Nat :=
  if first = 0xfd then 2 else if first = 0xfe then 4 else if first = 0xff then 8 else 0

/-- A compact size: a number below 253 in its first byte, or a larger one in the two, four or
eight bytes after it. -/
structure CompactSize where
  value : Nat
  /-- How many bytes it takes. -/
  width : Nat
deriving DecidableEq, Repr

/-- Reads the compact size at the front of the bytes. -/
def compactSize : List UInt8 → Except VectorFault CompactSize
  | [] => .error .emptyCompactSize
  | first :: rest =>
    if first < 0xfd then .ok ⟨first.toNat, 1⟩
    else do
      let body ← slice (first :: rest) 1 (compactWidth first)
      return ⟨Word.fromLittleEndian body, 1 + compactWidth first⟩

/-- A compact size is a word of 64 bits. -/
theorem compactSize_lt {bytes : List UInt8} {size : CompactSize}
    (h : compactSize bytes = .ok size) : size.value < UInt64.size := by
  cases bytes with
  | nil => cases h
  | cons first rest =>
    simp only [compactSize] at h
    split at h
    case isTrue small =>
      cases h
      exact Nat.lt_trans (UInt8.lt_iff_toNat_lt.mp small) (by decide)
    case isFalse =>
      cases read : slice (first :: rest) 1 (compactWidth first) with
      | error fault => rw [read] at h; cases h
      | ok body =>
        rw [read] at h
        cases h
        obtain ⟨fits, rfl⟩ := (slice_eq_ok_iff ..).mp read
        have width : compactWidth first ≤ 8 := by
          unfold compactWidth
          split <;> (try split) <;> (try split) <;> decide
        refine Nat.lt_of_lt_of_le (Word.fromLittleEndian_lt _) ?_
        rw [← Word.span_eight]
        exact Word.span_le_span (by simp; omega)

/-- Reads the compact size at an offset. -/
def compactSizeAt (bytes : List UInt8) (offset : Nat) : Except VectorFault CompactSize :=
  if offset ≤ bytes.length then compactSize (bytes.drop offset)
  else .error (.truncated offset 1 0)

/-! ## §3. Inputs. -/

end Vector

/-- An output of a transaction, named by the transaction's hash and its place there. -/
structure Outpoint where
  txHash : TxHash
  index : UInt32
deriving DecidableEq, Repr

namespace Vector

/-- An input of a vector. -/
structure Input where
  /-- The output that it spends. -/
  spent : Outpoint
  /-- How many bytes it takes. -/
  length : Nat
deriving DecidableEq, Repr

/-- Reads the input at an offset.  Its length is an exact sum: words of 64 bits have the same sum as
long as the length that is declared of the script is below 2^64 - 49. -/
def inputAt (vector : List UInt8) (offset : Nat) : Except VectorFault Input := do
  let outpoint ← slice vector offset 36
  let script ← compactSizeAt vector (offset + 36)
  let length := 36 + script.width + script.value + 4
  -- What the input takes is checked as a whole, so a fault names its offset and not a part's.
  let _ ← slice vector offset length
  let index := UInt32.ofNat (Word.fromLittleEndian (outpoint.drop 32))
  return ⟨⟨Octets.take 32 outpoint, index⟩, length⟩

/-- The outpoints of `count` inputs from an offset on, with the offset after the last. -/
def inputsFrom (vector : List UInt8) : Nat → Nat → Except VectorFault (List Outpoint × Nat)
  | 0, offset => .ok ([], offset)
  | count + 1, offset => do
    let input ← inputAt vector offset
    let (rest, stop) ← inputsFrom vector count (offset + input.length)
    return (input.spent :: rest, stop)

/-! ## §4. Outputs. -/

/-- The length of the output at an offset.  It is an exact sum: words of 64 bits have the same sum
as long as the length that is declared of the script is below 2^64 - 17. -/
def outputLengthAt (vector : List UInt8) (offset : Nat) : Except VectorFault Nat := do
  let _ ← slice vector offset 8
  let script ← compactSizeAt vector (offset + 8)
  let length := 8 + script.width + script.value
  let _ ← slice vector offset length
  return length

/-- The offset after `count` outputs from an offset on. -/
def skipOutputs (vector : List UInt8) : Nat → Nat → Except VectorFault Nat
  | 0, offset => .ok offset
  | count + 1, offset => do
    -- Each output says how long it is, so none can be skipped without a look at it.
    let length ← outputLengthAt vector offset
    skipOutputs vector count (offset + length)

/-- The bytes of the output at an index. -/
def outputAt (vector : List UInt8) (index : Nat) : Except VectorFault (List UInt8) := do
  let count ← compactSize vector
  if count.value ≤ index then
    throw (.noSuchOutput index count.value)
  let offset ← skipOutputs vector index count.width
  let length ← outputLengthAt vector offset
  slice vector offset length

/-- The number of outputs of a vector that ends exactly after the last of them. -/
def outputCount (vector : List UInt8) : Except VectorFault Nat := do
  let count ← compactSize vector
  let stop ← skipOutputs vector count.value count.width
  if stop ≠ vector.length then
    throw (.trailing (vector.length - stop))
  return count.value

/-! ## §5. Inside an output. -/

/-- The value of an output in satoshis. -/
def outputValue (output : List UInt8) : Except VectorFault UInt64 := do
  let bytes ← slice output 0 8
  return UInt64.ofNat (Word.fromLittleEndian bytes)

/-- The script of an output. -/
def outputScript (output : List UInt8) : Except VectorFault (List UInt8) := do
  let length ← compactSizeAt output 8
  slice output (8 + length.width) length.value

/-- The key hash that a script pays: to a witness key hash, or to a key hash by the older
five-instruction script. -/
def scriptKeyHash? : List UInt8 → Option PubKeyHash
  | 0x00 :: 0x14 :: rest => Octets.ofList? 20 rest
  | 0x76 :: 0xa9 :: 0x14 :: rest =>
    if rest.drop 20 = [0x88, 0xac] then Octets.ofList? 20 (rest.take 20) else none
  | _ => none

/-- The key hash that an output pays. -/
def outputKeyHash (output : List UInt8) : Except VectorFault PubKeyHash := do
  let script ← outputScript output
  match scriptKeyHash? script with
  | some hash => return hash
  | none => throw .unsupportedScript

end Vector

end Custody
