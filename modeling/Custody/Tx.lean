/-
  Custody.Tx
  ────────────────────────────────
  **TRANSACTIONS IN FOUR PARTS.**

  A transaction is its version, its input vector, its output vector and its
  locktime; the witness is no part of it.  It is named by the double digest of
  the four parts in a row.  That name does not say where one vector ends and
  the next begins; what reads the vectors has to fix it.

  An outpoint is named by the key under which a deposit of it is kept.
-/
import Custody.Digest.Sha256
import Custody.Json.Record
import Custody.Tx.Vector

namespace Custody

/-! ## §1. Transactions. -/

/-- A transaction without its witness. -/
structure Tx where
  version : Octets 4
  inputVector : List UInt8
  outputVector : List UInt8
  locktime : Octets 4
deriving DecidableEq, Repr

namespace Tx

/-- The bytes that the hash is taken over. -/
def serialized (tx : Tx) : List UInt8 :=
  tx.version.bytes ++ tx.inputVector ++ tx.outputVector ++ tx.locktime.bytes

/-- The number of those bytes. -/
def serializedLength (tx : Tx) : Nat := 8 + tx.inputVector.length + tx.outputVector.length

/-- A transaction is as long as its serialized form. -/
theorem length_serialized (tx : Tx) : tx.serialized.length = tx.serializedLength := by
  have h1 := tx.version.length_eq
  have h2 := tx.locktime.length_eq
  simp only [serialized, serializedLength, List.length_append]
  omega

/-- The name of a transaction. -/
def hash (tx : Tx) : TxHash := doubleSha256 tx.serialized

instance : ToJson Tx where
  toJson tx := .object [
    ("version", toJson tx.version),
    ("input_vector", .ofBytes tx.inputVector),
    ("output_vector", .ofBytes tx.outputVector),
    ("locktime", toJson tx.locktime)]

instance : FromJson Tx where
  fromJson? j := do
    let r ← j.record? ["version", "input_vector", "output_vector", "locktime"] 0
    return {
      version := ← r.field "version"
      inputVector := ← r.bytes "input_vector"
      outputVector := ← r.bytes "output_vector"
      locktime := ← r.field "locktime" }

end Tx

/-! ## §2. Outpoints. -/

/-- The key that an outpoint is kept under. -/
def Outpoint.key (o : Outpoint) : DepositKey :=
  sha256 (o.txHash.bytes ++ Word.bigEndian 4 o.index.toNat)

/-- A hash as it is shown to people: from its last byte to its first. -/
def displayHash (hash : Digest) : String := hash.reverse.hex

end Custody
