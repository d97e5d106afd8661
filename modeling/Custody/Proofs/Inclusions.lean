/-
  Custody.Proofs.Inclusions
  ────────────────────────────────
  **WHAT AN ACCEPTED PROOF SAYS ABOUT THE BLOCK.**

  A path may be longer or shorter than the tree over the block is high, and a
  tree shows neither where its leaves are nor how many there are.  Bytes that
  are both a transaction and two nodes side by side can be read either way.
  Read as nodes in place of a transaction, they would prove a node: no
  transaction of 64 bytes is proven, so this way is closed.  Read as a
  transaction of the block in place of nodes, they let the path go on below
  the leaves, and this way is open: whoever has such a transaction mined can
  prove a transaction that is in no block.

  Main facts:
    * `inclusion_or_node_read` — an accepted proof names a transaction of the
                                 block, or goes through one as through a node;
    * `listed_of_no_nodes`     — without such transactions it names one of them;
    * `inclusion_below_leaf`   — with one it need not.
-/
import Mathlib.Control.Monad.Basic
import Custody.Block.HeaderBook
import Custody.Proofs.MerkleTrees
import Custody.Tx.Serialized

namespace Custody

open Merkle

variable {block : List Tx} {tx : Tx} {proof : InclusionProof}

/-! ## §1. What is hashed. -/

namespace InclusionProof

/-- The couples that a proof of a transaction hashes. -/
def couples (proof : InclusionProof) (tx : Tx) : List Couple :=
  pathCouples tx.hash proof.siblings proof.place.toNat

/-- The byte strings that are hashed for a block and for a proof: the transactions, and the couples
of the tree and of the path. -/
def hashed (proof : InclusionProof) (block : List Tx) (tx : Tx) : List (List UInt8) :=
  (block ++ [tx]).map Tx.serialized
    ++ (treeCouples (block.map Tx.hash) ++ proof.couples tx).map Couple.bytes

end InclusionProof

/-- The transactions are among the byte strings that are hashed. -/
theorem serialized_mem_hashed {t : Tx} (h : t ∈ block ++ [tx]) :
    t.serialized ∈ proof.hashed block tx :=
  List.mem_append_left _ (List.mem_map_of_mem h)

theorem bytes_mem_hashed {c : Couple}
    (h : c ∈ treeCouples (block.map Tx.hash) ++ proof.couples tx) :
    c.bytes ∈ proof.hashed block tx :=
  List.mem_append_right _ (List.mem_map_of_mem h)

/-! ## §2. What an accepted proof says. -/

/-- A transaction that does not look like a node is no node of the tree. -/
theorem hash_ne_above {c : Couple} (free : CollisionFree (proof.hashed block tx))
    (length : tx.serializedLength ≠ InclusionProof.nodeLength)
    (inside : c ∈ treeCouples (block.map Tx.hash)) : tx.hash ≠ c.above := by
  intro same
  have bytes : tx.serialized = c.bytes :=
    free _ (serialized_mem_hashed (by simp)) _
      (bytes_mem_hashed (List.mem_append_left _ inside)) same
  exact length (by rw [← tx.length_serialized, bytes, c.length_bytes])

/-- A path that leads to the root of a block sets out from one of its transactions, or comes through
one as through a node. -/
theorem listed_or_node_read (some_tx : block ≠ []) (free : CollisionFree (proof.hashed block tx))
    (length : tx.serializedLength ≠ InclusionProof.nodeLength)
    (leads : Merkle.root tx.hash proof.siblings proof.place.toNat
      = treeRoot (block.map Tx.hash)) :
    (∃ t ∈ block, t.serialized = tx.serialized) ∨
      ∃ t ∈ block, ∃ c ∈ proof.couples tx, t.serialized = c.bytes := by
  have met := meets_level (by simpa using some_tx) (free.mono (List.subset_append_right ..)) leads
  rcases met with ⟨lower, upper, split, reached⟩ | ⟨c, inside, own⟩
  case inr => exact absurd own (hash_ne_above free length inside)
  obtain ⟨t, listed, at_leaf⟩ := List.mem_map.mp reached
  have known : t.serialized ∈ proof.hashed block tx :=
    serialized_mem_hashed (List.mem_append_left _ listed)
  rcases List.eq_nil_or_concat lower with rfl | ⟨below, sibling, rfl⟩
  · -- The path starts where the tree ends.
    exact .inl ⟨t, listed, free _ known _ (serialized_mem_hashed (by simp)) at_leaf⟩
  · -- The path has climbed to the leaf, so what it hashed last are the leaf's bytes.
    rw [List.concat_eq_append, List.append_assoc, List.singleton_append] at split
    obtain ⟨c, among, above, -⟩ := root_split tx.hash sibling below upper proof.place.toNat
    rw [← split] at among
    rw [List.concat_eq_append] at at_leaf
    exact .inr ⟨t, listed, c, among,
      free _ known _ (bytes_mem_hashed (List.mem_append_right _ among)) (at_leaf.trans above)⟩

section Accepted

variable {source : HeaderSource Id} {required : UInt32} {header : Header} {hash : TxHash}

/-- **An accepted proof names a transaction of the block, or its path goes through one of the
block's transactions as through a node.** -/
theorem inclusion_or_node_read (some_tx : block ≠ [])
    (relayed : source.header proof.blockHash = Except.ok header)
    (commits : header.merkleRoot = treeRoot (block.map Tx.hash))
    (free : CollisionFree (proof.hashed block tx))
    (accepted : proof.validate source required tx = Except.ok hash) :
    hash = tx.hash ∧ ((∃ t ∈ block, t.serialized = tx.serialized) ∨
      ∃ t ∈ block, ∃ c ∈ proof.couples tx, t.serialized = c.bytes) := by
  obtain ⟨named, length, -, found, -, asked, -, -, leads⟩ := InclusionProof.validate_ok accepted
  obtain rfl : header = found := Except.ok.inj (relayed.symm.trans asked)
  exact ⟨named, listed_or_node_read some_tx free length (leads.trans commits)⟩

/-- In a block without transactions that look like nodes an accepted proof names one of them. -/
theorem listed_of_no_nodes (some_tx : block ≠ [])
    (relayed : source.header proof.blockHash = Except.ok header)
    (commits : header.merkleRoot = treeRoot (block.map Tx.hash))
    (free : CollisionFree (proof.hashed block tx))
    (no_nodes : ∀ t ∈ block, t.serializedLength ≠ InclusionProof.nodeLength)
    (accepted : proof.validate source required tx = Except.ok hash) :
    ∃ t ∈ block, t.serialized = tx.serialized := by
  obtain ⟨-, length, -, found, -, asked, -, -, leads⟩ := InclusionProof.validate_ok accepted
  obtain rfl : header = found := Except.ok.inj (relayed.symm.trans asked)
  rcases listed_or_node_read some_tx free length (leads.trans commits) with
    listed | ⟨t, among, c, -, same⟩
  · exact listed
  · exact absurd (by rw [← t.length_serialized, same, c.length_bytes]) (no_nodes t among)

end Accepted

/-! ## §3. A path to a leaf, and a path below one. -/

namespace Sample

/-- The name of the block of the proofs. -/
def blockHash : Digest := Octets.replicate 32 0xb1

/-- A book that holds the header of a block of some transactions, six deep. -/
def bookOf (block : List Tx) : HeaderBook :=
  (HeaderBook.empty.enter ⟨blockHash, treeRoot (block.map Tx.hash), 100⟩).withTip 105

/-- A transaction with a locktime, and nothing in it. -/
def bare (locktime : UInt8) : Tx :=
  ⟨Octets.replicate 4 0, [], [], Octets.replicate 4 locktime⟩

/-- A block of two transactions. -/
def two : List Tx := [bare 0, bare 1]

/-- The path of the second one. -/
def secondOfTwo : InclusionProof := ⟨blockHash, [(bare 0).hash], 1⟩

/-- A transaction that is in no block. -/
def unmined : Tx where
  version := Octets.take 4 [1]
  inputVector := 1 :: List.replicate 32 0x22 ++ [0, 0, 0, 0, 0, 0xff, 0xff, 0xff, 0xff]
  outputVector := 1 :: Word.littleEndian 8 1999500 ++ [22, 0x00, 0x14] ++ List.replicate 20 0x11
  locktime := Octets.take 4 [67]

/-- What makes a transaction of the hash of `unmined`: the end of an outpoint, a sequence, and one
output of a thousand. -/
def complement : Digest := Octets.take 32
  (List.replicate 5 0x33 ++ [0, 0, 0, 0, 0, 0xff, 0xff, 0xff, 0xff, 1] ++ Word.littleEndian 8 1000
    ++ [4, 0x51, 0x51, 0x51, 0x51])

/-- The hash and its complement, read as a transaction with one input and one output. -/
def nodeLike : Tx :=
  let bytes := unmined.hash.bytes ++ complement.bytes
  ⟨Octets.take 4 bytes, (bytes.drop 4).take 42, (bytes.drop 46).take 14,
    Octets.take 4 (bytes.drop 60)⟩

/-- The path from `unmined` to the block of that transaction. -/
def belowLeaf : InclusionProof := ⟨blockHash, [complement], 0⟩

end Sample

/-- The second transaction of two is proven beside the first. -/
theorem inclusion_or_node_read_sample :
    CollisionFree (Sample.secondOfTwo.hashed Sample.two (Sample.bare 1)) ∧
    Sample.secondOfTwo.validate (Sample.bookOf Sample.two).source 6 (Sample.bare 1)
      = Except.ok (Sample.bare 1).hash ∧
    ((∃ t ∈ Sample.two, t.serialized = (Sample.bare 1).serialized) ∨
      ∃ t ∈ Sample.two, ∃ c ∈ Sample.secondOfTwo.couples (Sample.bare 1),
        t.serialized = c.bytes) := by
  have free : CollisionFree (Sample.secondOfTwo.hashed Sample.two (Sample.bare 1)) := by
    decide +kernel
  have accepted : Sample.secondOfTwo.validate (Sample.bookOf Sample.two).source 6 (Sample.bare 1)
      = Except.ok (Sample.bare 1).hash := by
    change @Eq (Except ProofFault TxHash) _ _
    decide +kernel
  exact ⟨free, accepted,
    (inclusion_or_node_read (by decide) rfl rfl free accepted).2⟩

/-- A transaction that is in no block is proven below the only leaf of a tree. -/
theorem inclusion_below_leaf :
    Tx.ofSerialized? Sample.nodeLike.serialized = some Sample.nodeLike ∧
    (Sample.bookOf [Sample.nodeLike]).header Sample.blockHash
      = .ok ⟨Sample.blockHash, treeRoot ([Sample.nodeLike].map Tx.hash), 100⟩ ∧
    CollisionFree (Sample.belowLeaf.hashed [Sample.nodeLike] Sample.unmined) ∧
    Sample.belowLeaf.validate (Sample.bookOf [Sample.nodeLike]).source 6 Sample.unmined
      = Except.ok Sample.unmined.hash ∧
    ¬ ∃ t ∈ [Sample.nodeLike], t.serialized = Sample.unmined.serialized := by
  refine ⟨by decide +kernel, rfl, ?_, ?_, ?_⟩
  · decide +kernel
  · change @Eq (Except ProofFault TxHash) _ _
    decide +kernel
  · decide +kernel

end Custody
