/-
  Custody.Block.Header
  ────────────────────────────────
  **BLOCK HEADERS AND WHERE THEY COME FROM.**

  A proof names its block and nothing else of it.  The Merkle root and the
  height come from a source of headers that the operator trusts, and so does
  the height of the best chain's tip.
-/
import Custody.Tx

namespace Custody

/-! ## §1. Faults of a source. -/

/-- Why a source gives no answer. -/
inductive RelayFault where
  | blockNotFound (block : String)
  | notInBestChain (block : String)
  | requestFailed (reason : String)
  | malformed (reason : String)
deriving DecidableEq, Repr

namespace RelayFault

/-- The wording of a fault. -/
def message : RelayFault → String
  | .blockNotFound block => s!"block not found: {block}"
  | .notInBestChain block => s!"block {block} is not on the best chain"
  | .requestFailed reason => s!"relay request failed: {reason}"
  | .malformed reason => s!"relay returned malformed data: {reason}"

/-- The code of a fault. -/
def code : RelayFault → String
  | .blockNotFound _ | .notInBestChain _ => "PROOF_UNKNOWN_BLOCK"
  | .requestFailed _ | .malformed _ => "PROOF_RELAY_UNAVAILABLE"

/-- A block may still be relayed later; a relay that fails is the operator's matter. -/
def category : RelayFault → Category
  | .blockNotFound _ | .notInBestChain _ => .precondition
  | .requestFailed _ | .malformed _ => .infrastructure

end RelayFault

/-! ## §2. Headers. -/

/-- What a proof is checked against. -/
structure Header where
  blockHash : Digest
  merkleRoot : Digest
  height : UInt64
deriving DecidableEq, Repr

namespace Header

/-- The length of a raw header. -/
def rawLength : Nat := 80

/-- Where the Merkle root stands in a raw header. -/
def rootOffset : Nat := 36

/-- The header of 80 raw bytes, found at a height. -/
def ofRaw (raw : List UInt8) (height : UInt64) : Except RelayFault Header :=
  if raw.length = rawLength then
    .ok ⟨doubleSha256 raw, Octets.take 32 (raw.drop rootOffset), height⟩
  else .error (.malformed s!"invalid header length: {raw.length} bytes")

end Header

/-! ## §3. Sources. -/

/-- A source of headers whose answers come with effects in `m`. -/
structure HeaderSource (m : Type → Type) where
  /-- The header of a block on the best chain. -/
  header : Digest → m (Except RelayFault Header)
  /-- The height of the best chain's tip. -/
  tip : m (Except RelayFault UInt64)

end Custody
