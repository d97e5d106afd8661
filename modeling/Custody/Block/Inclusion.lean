/-
  Custody.Block.Inclusion
  ────────────────────────────────
  **PROOF THAT A TRANSACTION LIES IN A BLOCK.**

  The proof gives the siblings on the way from the transaction's leaf to the
  root of the block's Merkle tree; the place of the transaction says at each
  level on which side the sibling stands.  The block has to be deep enough
  under the tip.  A transaction of 64 bytes looks like an inner node of the
  tree and is never proven.

  Main fact: `validate_ok` — what an accepted proof has shown.
-/
import Custody.Block.Header

namespace Custody

/-! ## §1. Merkle paths. -/

namespace Merkle

/-- The parent of a node and its sibling, which stands on the left at odd places. -/
def parent (node sibling : Digest) (place : Nat) : Digest :=
  if place % 2 = 1 then doubleSha256Pair sibling node else doubleSha256Pair node sibling

/-- The root that a leaf has over its siblings, from the leaf upwards. -/
def root (leaf : Digest) : List Digest → Nat → Digest
  | [], _ => leaf
  | sibling :: rest, place => root (parent leaf sibling place) rest (place / 2)

end Merkle

/-- Where a transaction lies: its block, its place there, and its siblings up to the root. -/
structure InclusionProof where
  blockHash : Digest
  siblings : List Digest
  place : UInt32
deriving DecidableEq, Repr

instance : ToJson InclusionProof where
  toJson p := .object [
    ("block_hash", toJson p.blockHash),
    ("siblings", toJson p.siblings),
    ("tx_index", toJson p.place)]

instance : FromJson InclusionProof where
  fromJson? j := do
    let r ← j.record? ["block_hash", "siblings", "tx_index"] 0
    return {
      blockHash := ← r.field "block_hash"
      siblings := ← r.field "siblings"
      place := ← r.field "tx_index" }

/-! ## §2. Faults. -/

/-- Why a proof is not accepted. -/
inductive ProofFault where
  | merkleMismatch
  | tooFewConfirmations (got required : UInt32)
  | pathTooLong (levels : Nat)
  | ambiguousLength
  | relay (fault : RelayFault)
deriving DecidableEq, Repr

namespace ProofFault

/-- The wording of a fault. -/
def message : ProofFault → String
  | .merkleMismatch => "merkle path does not lead to the relayed merkle root"
  | .tooFewConfirmations got required => s!"insufficient confirmations: {got} < {required}"
  | .pathTooLong levels => s!"merkle path too long: {levels} levels"
  | .ambiguousLength => "64-byte transactions cannot be proven"
  | .relay fault => fault.message

/-- The code of a fault. -/
def code : ProofFault → String
  | .merkleMismatch | .pathTooLong _ | .ambiguousLength => "PROOF_INVALID"
  | .tooFewConfirmations .. => "PROOF_INSUFFICIENT_CONFIRMATIONS"
  | .relay fault => fault.code

/-- The category of a fault. -/
def category : ProofFault → Category
  | .merkleMismatch | .pathTooLong _ | .ambiguousLength => .malformed
  | .tooFewConfirmations .. => .precondition
  | .relay fault => fault.category

end ProofFault

/-! ## §3. Validation. -/

namespace InclusionProof

/-- The most levels that a path may have. -/
def maxLevels : Nat := 32

/-- The length at which a transaction looks like an inner node. -/
def nodeLength : Nat := 64

/-- The depth of a block under the tip, the tip itself included, held at the largest 32-bit
number; a block above the tip has none. -/
def confirmations (tip height : UInt64) : UInt32 :=
  if tip < height then 0
  else UInt32.ofNat (min (tip.toNat - height.toNat + 1) (UInt32.size - 1))

/-- What can be refused before any header is asked for. -/
def checkShape (tx : Tx) (proof : InclusionProof) : Except ProofFault Unit :=
  if maxLevels < proof.siblings.length then .error (.pathTooLong proof.siblings.length)
  else if tx.serializedLength = nodeLength then .error .ambiguousLength
  else .ok ()

/-- Checks a proof against the header of its block and the tip. -/
def checkAgainst (required : UInt32) (tx : Tx) (proof : InclusionProof) (header : Header)
    (tip : UInt64) : Except ProofFault TxHash :=
  let got := confirmations tip header.height
  if got < required then .error (.tooFewConfirmations got required)
  else if Merkle.root tx.hash proof.siblings proof.place.toNat = header.merkleRoot then .ok tx.hash
  else .error .merkleMismatch

/-- Checks a proof over a source of headers; gives the hash of the transaction. -/
def validate {m : Type → Type} [Monad m] (source : HeaderSource m) (required : UInt32) (tx : Tx)
    (proof : InclusionProof) : m (Except ProofFault TxHash) := do
  match checkShape tx proof with
  | .error fault => return .error fault
  | .ok () =>
    match ← source.header proof.blockHash with
    | .error fault => return .error (.relay fault)
    | .ok header =>
      match ← source.tip with
      | .error fault => return .error (.relay fault)
      | .ok tip => return checkAgainst required tx proof header tip

/-- An accepted proof names a transaction of another length than a node's, and its path leads
to the root of a header that is deep enough. -/
theorem validate_ok {source : HeaderSource Id} {required : UInt32} {tx : Tx}
    {proof : InclusionProof} {hash : TxHash}
    (h : validate source required tx proof = Except.ok hash) :
    hash = tx.hash ∧ tx.serializedLength ≠ nodeLength ∧ proof.siblings.length ≤ maxLevels ∧
      ∃ header tip, source.header proof.blockHash = Except.ok header ∧
        source.tip = Except.ok tip ∧ required ≤ confirmations tip header.height ∧
        Merkle.root tx.hash proof.siblings proof.place.toNat = header.merkleRoot := by
  simp only [validate, checkShape, bind, pure] at h
  split at h
  case h_1 => cases h
  case h_2 shape =>
    split at shape
    case isTrue => cases shape
    case isFalse levels =>
      split at shape
      case isTrue => cases shape
      case isFalse length =>
        split at h
        case h_1 => cases h
        case h_2 header found =>
          split at h
          case h_1 => cases h
          case h_2 tip top =>
            simp only [checkAgainst] at h
            split at h
            case isTrue => cases h
            case isFalse deep =>
              split at h
              case isTrue leads =>
                cases h
                exact ⟨rfl, length, Nat.le_of_not_lt levels, header, tip, found, top,
                  UInt32.not_lt.mp deep, leads⟩
              case isFalse => cases h

end InclusionProof

end Custody
