/-
  Custody.Tx.Serialized
  ────────────────────────────────
  **TRANSACTIONS AS THEY TRAVEL ON THE NETWORK.**

  A serialized transaction either holds its inputs and outputs between version
  and locktime, or a zero byte and a one byte stand in front of them and the
  witnesses of the inputs behind them.  Sizes are written in their shortest
  form here, so each vector is taken over byte for byte.
-/
import Custody.Tx

namespace Custody.Tx

/-! ## §1. Readers. -/

/-- Takes a value off the front of the bytes, if one stands there. -/
abbrev Reader := StateT (List UInt8) Option

/-- Takes a number of bytes. -/
def takeBytes (n : Nat) : Reader (List UInt8) := fun bytes =>
  if n ≤ bytes.length then some (bytes.take n, bytes.drop n) else none

/-- The least value that needs a width. -/
def leastOfWidth : Nat → Nat
  | 3 => 0xfd
  | 5 => 0x10000
  | 9 => 0x100000000
  | _ => 0

/-- Takes a compact size in its shortest form. -/
def takeSize : Reader Nat := fun bytes =>
  match Vector.compactSize bytes with
  | .ok size =>
    if leastOfWidth size.width ≤ size.value then some (size.value, bytes.drop size.width) else none
  | .error _ => none

/-- Takes what a reader takes a number of times. -/
def repeated {α : Type} (item : Reader α) : Nat → Reader (List α)
  | 0 => pure []
  | n + 1 => do
    let first ← item
    let rest ← repeated item n
    return first :: rest

/-- Takes bytes behind their size. -/
def takeSized : Reader Unit := do
  let size ← takeSize
  let _ ← takeBytes size

/-- Takes an input. -/
def takeInput : Reader Unit := do
  let _ ← takeBytes 36
  takeSized
  let _ ← takeBytes 4

/-- Takes an output. -/
def takeOutput : Reader Unit := do
  let _ ← takeBytes 8
  takeSized

/-- Takes items behind their number; gives the number and all their bytes. -/
def takeVector (item : Reader Unit) : Reader (Nat × List UInt8) := fun bytes => do
  let ((count, _), rest) ← (do
    let count ← takeSize
    let items ← repeated item count
    return (count, items) : Reader (Nat × List Unit)) bytes
  return ((count, bytes.take (bytes.length - rest.length)), rest)

/-- Takes the witness of an input; tells whether it holds anything. -/
def takeWitness : Reader Bool := do
  let count ← takeSize
  let _ ← repeated takeSized count
  return count ≠ 0

/-- Takes an exact number of bytes as octets. -/
def takeOctets (n : Nat) : Reader (Octets n) := do
  let bytes ← takeBytes n
  match Octets.ofList? n bytes with
  | some octets => return octets
  | none => failure

/-! ## §2. Transactions. -/

/-- Takes a transaction. -/
def takeTx : Reader Tx := do
  let version ← takeOctets 4
  let (count, inputs) ← takeVector takeInput
  if count ≠ 0 then
    let (_, outputs) ← takeVector takeOutput
    return ⟨version, inputs, outputs, ← takeOctets 4⟩
  -- No inputs in front of a flag: the vector so far was the mark of a witness.
  let flag ← takeBytes 1
  if flag ≠ [1] then failure
  let (count, inputs) ← takeVector takeInput
  let (_, outputs) ← takeVector takeOutput
  let witnesses ← repeated takeWitness count
  -- A witness that holds nothing may not be written down.
  if count ≠ 0 && witnesses.all (!·) then failure
  return ⟨version, inputs, outputs, ← takeOctets 4⟩

/-- The transaction that the bytes are, witness left out. -/
def ofSerialized? (bytes : List UInt8) : Option Tx :=
  match takeTx.run bytes with
  | some (tx, []) => some tx
  | _ => none

end Custody.Tx
