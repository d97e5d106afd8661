/-
  Custody.Proofs.MerklePaths
  ────────────────────────────────
  **PATHS THAT ARE READ OFF A TREE, AND WHAT ANY PATH BINDS.**

  An honest path names, level by level, what stands beside the node on its way
  up.  At the end of an odd level nothing stands beside it, and the node is
  coupled with itself.  Such a path leads to the root of its tree, from every
  place of every tree, and is short enough to be validated.

  A path binds its leaf: for the same turns, another leaf or other siblings lead
  to another root.  Only as many turns are taken as there are siblings, so what
  the place says beyond them is not read.

  Main facts:
    * `parent_siblingAt`     — beside its sibling a node leads to the level above;
    * `root_pathAt`          — the path read off a tree leads to its root;
    * `length_pathAt_le`     — it has no more levels than the tree;
    * `honest_path_accepted` — it is accepted under a header that commits to the tree;
    * `path_binds_leaf`      — paths with the same turns to one root are the same.
-/
import Mathlib.Algebra.Group.Nat.Defs
import Custody.Block.HeaderBook
import Custody.Proofs.Inclusions
import Custody.Proofs.MerkleTrees

namespace Custody

open Merkle

namespace Merkle

/-! ## §1. The path that is read off a tree. -/

/-- The place beside a place. -/
def beside (place : Nat) : Nat := if place % 2 = 1 then place - 1 else place + 1

/-- What stands beside a node of a level; the last node of an odd level stands beside itself. -/
def siblingAt (level : List Digest) (place : Nat) : Digest :=
  level.getD (beside place) (level.getD place default)

/-- The siblings on the way from a place up to the root, read off the tree over some nodes. -/
def pathAt : List Digest → Nat → List Digest
  | [], _ => []
  | [_], _ => []
  | left :: right :: rest, place =>
    siblingAt (left :: right :: rest) place
      :: pathAt (nextLevel (left :: right :: rest)) (place / 2)
termination_by level => level.length
decreasing_by
  rw [nextLevel, List.length_map, length_couples]
  simp only [List.length_cons]
  omega

/-! ## §2. It leads to the root. -/

/-- Two places on, what stands beside is two places on as well. -/
theorem beside_add_two (place : Nat) : beside (place + 2) = beside place + 2 := by
  unfold beside
  rw [Nat.add_mod_right]
  split
  case isTrue odd => omega
  case isFalse => omega

theorem siblingAt_add_two (left right : Digest) (rest : List Digest) (place : Nat) :
    siblingAt (left :: right :: rest) (place + 2) = siblingAt rest place := by
  unfold siblingAt
  rw [beside_add_two]
  rfl

theorem coupleAt_add_two (node sibling : Digest) (place : Nat) :
    coupleAt node sibling (place + 2) = coupleAt node sibling place := by
  unfold coupleAt
  rw [Nat.add_mod_right]

/-- The couple of a node is made of it and its sibling. -/
theorem couples_getElem? {level : List Digest} {place : Nat} {node : Digest}
    (seat : level[place]? = some node) :
    (couples level)[place / 2]? = some (coupleAt node (siblingAt level place) place) := by
  -- The first two places make the first couple, and every other place is two further on.
  fun_induction couples level generalizing place with
  | case1 => cases seat
  | case2 last =>
    cases place with
    | zero =>
      cases seat
      rfl
    | succ place => cases seat
  | case3 left right rest ih =>
    rcases place with _ | _ | place
    · cases seat
      rfl
    · cases seat
      rfl
    · have above : (place + 2) / 2 = place / 2 + 1 := by omega
      show (couples (left :: right :: rest))[(place + 2) / 2]? = _
      rw [above, siblingAt_add_two, coupleAt_add_two]
      exact ih seat

/-- **Beside its sibling a node leads to the node above it.** -/
theorem parent_siblingAt {level : List Digest} {place : Nat} {node : Digest}
    (seat : level[place]? = some node) :
    (nextLevel level)[place / 2]? = some (parent node (siblingAt level place) place) := by
  rw [nextLevel, List.getElem?_map, couples_getElem? seat, parent_eq]
  rfl

/-- **The path that is read off a tree leads to its root.** -/
theorem root_pathAt {nodes : List Digest} {place : Nat} {node : Digest}
    (seat : nodes[place]? = some node) :
    root node (pathAt nodes place) place = treeRoot nodes := by
  -- The induction is on the levels of the tree, from the lowest upwards.
  fun_induction treeRoot nodes generalizing place node with
  | case1 => cases seat
  | case2 only =>
    cases place with
    | zero =>
      cases seat
      rw [pathAt, root]
    | succ place => cases seat
  | case3 left right rest ih =>
    rw [pathAt, root]
    exact ih (parent_siblingAt seat)

/-- **It has no more levels than the tree has.** -/
theorem length_pathAt_le {nodes : List Digest} {levels : Nat} (few : nodes.length ≤ 2 ^ levels)
    (place : Nat) : (pathAt nodes place).length ≤ levels := by
  fun_induction pathAt nodes place generalizing levels with
  | case1 => exact Nat.zero_le _
  | case2 => exact Nat.zero_le _
  | case3 left right rest place ih =>
    cases levels with
    | zero =>
      simp only [List.length_cons] at few
      omega
    | succ levels =>
      -- A level has half as many nodes as the one below it.
      have half : (nextLevel (left :: right :: rest)).length ≤ 2 ^ levels := by
        rw [nextLevel, List.length_map, length_couples]
        rw [Nat.pow_succ] at few
        omega
      rw [List.length_cons]
      exact Nat.succ_le_succ (ih half)

end Merkle

/-! ## §3. It is accepted. -/

namespace InclusionProof

/-- A block is as deep as it lies under the tip, as far as confirmations are counted. -/
theorem le_confirmations {required : UInt32} {tip height : UInt64}
    (deep : required.toNat + height.toNat ≤ tip.toNat + 1) :
    required ≤ confirmations tip height := by
  have bound : required.toNat < UInt32.size := required.toNat_lt
  rw [UInt32.le_iff_toNat_le, confirmations]
  split
  case isTrue above =>
    -- Over the tip nothing is confirmed, and then nothing is required.
    have := UInt64.lt_iff_toNat_lt.mp above
    show required.toNat ≤ 0
    omega
  case isFalse under =>
    have := mt UInt64.lt_iff_toNat_lt.mpr under
    rw [UInt32.toNat_ofNat_of_lt' (by show _ < UInt32.size; omega)]
    omega

/-- What a proof has to show for being accepted. -/
theorem validate_of_root {source : HeaderSource Id} {required : UInt32} {tx : Tx}
    {proof : InclusionProof} {header : Header} {tip : UInt64}
    (short : proof.siblings.length ≤ maxLevels) (length : tx.serializedLength ≠ nodeLength)
    (relayed : source.header proof.blockHash = Except.ok header)
    (top : source.tip = Except.ok tip) (deep : required ≤ confirmations tip header.height)
    (leads : root tx.hash proof.siblings proof.place.toNat = header.merkleRoot) :
    validate source required tx proof = Except.ok tx.hash := by
  have shape : checkShape tx proof = .ok () := by
    rw [checkShape, if_neg (Nat.not_lt.mpr short), if_neg length]
  have against : checkAgainst required tx proof header tip = .ok tx.hash := by
    rw [checkAgainst, if_neg (UInt32.not_lt.mpr deep), if_pos leads]
  simp only [validate, shape, bind, pure, relayed, top]
  exact against

end InclusionProof

/-- **An honest path is accepted**: read off the tree over at most `2 ^ 32` hashes at any place, it
leads to the root and has at most 32 levels, and under a header of that root which is deep enough
every transaction of that hash is proven, unless it looks like a node. -/
theorem honest_path_accepted {nodes : List Digest} {place : Nat} {node : Digest}
    (few : nodes.length ≤ 2 ^ 32) (seat : nodes[place]? = some node) :
    root node (pathAt nodes place) place = treeRoot nodes ∧
    (pathAt nodes place).length ≤ 32 ∧
    ∀ (source : HeaderSource Id) (required : UInt32) (block : Digest) (header : Header)
      (tip : UInt64) (tx : Tx),
      source.header block = Except.ok header → header.merkleRoot = treeRoot nodes →
      source.tip = Except.ok tip → required.toNat + header.height.toNat ≤ tip.toNat + 1 →
      tx.hash = node → tx.serializedLength ≠ 64 →
      InclusionProof.validate source required tx ⟨block, pathAt nodes place, UInt32.ofNat place⟩
        = Except.ok node := by
  have leads := root_pathAt seat
  have short : (pathAt nodes place).length ≤ 32 := length_pathAt_le few place
  refine ⟨leads, short, ?_⟩
  intro source required block header tip tx relayed commits top deep own length
  have inside : place < nodes.length := (List.getElem?_eq_some_iff.mp seat).1
  have index : (UInt32.ofNat place).toNat = place :=
    UInt32.toNat_ofNat_of_lt' (Nat.lt_of_lt_of_le inside few)
  subst own
  refine InclusionProof.validate_of_root short length relayed top
    (InclusionProof.le_confirmations deep) ?_
  show root tx.hash (pathAt nodes place) (UInt32.ofNat place).toNat = _
  rw [index, leads, commits]

namespace Sample

/-- A block of three transactions. -/
def three : List Tx := [bare 0, bare 1, bare 2]

end Sample

/-- The last of three transactions is coupled with itself, and is proven. -/
theorem honest_path_accepted_sample :
    root (Sample.bare 2).hash (pathAt (Sample.three.map Tx.hash) 2) 2
      = treeRoot (Sample.three.map Tx.hash) ∧
    (pathAt (Sample.three.map Tx.hash) 2).length ≤ 32 ∧
    InclusionProof.validate (Sample.bookOf Sample.three).source 6 (Sample.bare 2)
        ⟨Sample.blockHash, pathAt (Sample.three.map Tx.hash) 2, 2⟩
      = Except.ok (Sample.bare 2).hash := by
  have seat : (Sample.three.map Tx.hash)[2]? = some (Sample.bare 2).hash := rfl
  obtain ⟨leads, short, accepts⟩ := honest_path_accepted (by decide) seat
  exact ⟨leads, short, accepts (Sample.bookOf Sample.three).source 6 Sample.blockHash _ _
    (Sample.bare 2) rfl rfl rfl (by decide) rfl (by decide)⟩

/-! ## §4. What a path binds. -/

namespace Merkle

/-- A couple tells node and sibling, if the turn is known. -/
theorem coupleAt_inj {node node' sibling sibling' : Digest} {place place' : Nat}
    (turn : place % 2 = place' % 2)
    (same : coupleAt node sibling place = coupleAt node' sibling' place') :
    node = node' ∧ sibling = sibling' := by
  unfold coupleAt at same
  rw [turn] at same
  split at same
  · cases same
    exact ⟨rfl, rfl⟩
  · cases same
    exact ⟨rfl, rfl⟩

/-- Places with the same turns take the same first turn, and the same turns after it. -/
theorem turns_of_mod {place place' levels : Nat}
    (turns : place % 2 ^ (levels + 1) = place' % 2 ^ (levels + 1)) :
    place % 2 = place' % 2 ∧ place / 2 % 2 ^ levels = place' / 2 % 2 ^ levels := by
  rw [Nat.pow_succ, Nat.mul_comm, Nat.mod_mul, Nat.mod_mul] at turns
  omega

/-- Only as many turns are taken as there are siblings. -/
theorem root_congr_place (leaf : Digest) (siblings : List Digest) {place place' : Nat}
    (turns : place % 2 ^ siblings.length = place' % 2 ^ siblings.length) :
    root leaf siblings place = root leaf siblings place' := by
  induction siblings generalizing leaf place place' with
  | nil => rfl
  | cons sibling rest ih =>
    obtain ⟨first, others⟩ := turns_of_mod turns
    have above : parent leaf sibling place = parent leaf sibling place' := by
      unfold parent
      rw [first]
    rw [root, root, above]
    exact ih _ others

/-- A path to a root binds leaf and siblings, as far as the digest tells apart what is hashed. -/
theorem root_inj {leaf leaf' : Digest} {siblings siblings' : List Digest} {place place' : Nat}
    (levels : siblings.length = siblings'.length)
    (turns : place % 2 ^ siblings.length = place' % 2 ^ siblings.length)
    (free : CollisionFree
      ((pathCouples leaf siblings place ++ pathCouples leaf' siblings' place').map Couple.bytes))
    (same : root leaf siblings place = root leaf' siblings' place') :
    leaf = leaf' ∧ siblings = siblings' := by
  -- What is above the first couples is the same, which is known from the root downwards.
  induction siblings generalizing leaf leaf' siblings' place place' with
  | nil =>
    cases siblings' with
    | nil => exact ⟨same, rfl⟩
    | cons => cases levels
  | cons sibling rest ih =>
    cases siblings' with
    | nil => cases levels
    | cons sibling' rest' =>
      obtain ⟨first, others⟩ := turns_of_mod turns
      have within : (pathCouples (parent leaf sibling place) rest (place / 2)
            ++ pathCouples (parent leaf' sibling' place') rest' (place' / 2)).map Couple.bytes
          ⊆ (pathCouples leaf (sibling :: rest) place
            ++ pathCouples leaf' (sibling' :: rest') place').map Couple.bytes := by
        refine List.map_subset _ (List.append_subset.mpr ⟨?_, ?_⟩)
        · exact List.subset_append_of_subset_left _ (List.subset_cons_self ..)
        · exact List.subset_append_of_subset_right _ (List.subset_cons_self ..)
      obtain ⟨above, rest_same⟩ := ih (Nat.succ.inj levels) others (free.mono within) same
      rw [parent_eq, parent_eq] at above
      have couple : coupleAt leaf sibling place = coupleAt leaf' sibling' place' := by
        refine Couple.bytes_inj (free _ ?_ _ ?_ above)
        · exact List.mem_map_of_mem (List.mem_append_left _ List.mem_cons_self)
        · exact List.mem_map_of_mem (List.mem_append_right _ List.mem_cons_self)
      obtain ⟨leaf_same, sibling_same⟩ := coupleAt_inj first couple
      exact ⟨leaf_same, by rw [sibling_same, rest_same]⟩

end Merkle

/-- **A path binds its leaf**: two paths of one length with the same turns that lead to one root are
the same path from the same leaf, as long as no two of the couples that they hash have the same
digest; and the place is read only as far as there are siblings. -/
theorem path_binds_leaf (levels : Nat) :
    (∀ (leaf leaf' : Digest) (siblings siblings' : List Digest) (place place' : Nat),
      siblings.length = levels → siblings'.length = levels →
      place % 2 ^ levels = place' % 2 ^ levels →
      CollisionFree
        ((pathCouples leaf siblings place ++ pathCouples leaf' siblings' place').map
          Couple.bytes) →
      root leaf siblings place = root leaf' siblings' place' →
      leaf = leaf' ∧ siblings = siblings') ∧
    ∀ (leaf : Digest) (siblings : List Digest) (place : Nat), siblings.length = levels →
      root leaf siblings place = root leaf siblings (place % 2 ^ levels) := by
  constructor
  · intro leaf leaf' siblings siblings' place place' length length' turns free same
    subst length
    exact root_inj length'.symm turns free same
  · intro leaf siblings place length
    subst length
    exact root_congr_place leaf siblings (Nat.mod_mod ..).symm

namespace Sample

/-- A leaf, and two siblings on its way up. -/
def leaf : Digest := Octets.replicate 32 1
def siblings : List Digest := [Octets.replicate 32 2, Octets.replicate 32 3]

end Sample

/-- At the places 1 and 5 two siblings are met by the same turns. -/
theorem path_binds_leaf_sample :
    1 % 2 ^ 2 = 5 % 2 ^ 2 ∧
    CollisionFree
      ((pathCouples Sample.leaf Sample.siblings 1 ++ pathCouples Sample.leaf Sample.siblings 5).map
        Couple.bytes) ∧
    root Sample.leaf Sample.siblings 1 = root Sample.leaf Sample.siblings 5 ∧
    (Sample.leaf = Sample.leaf ∧ Sample.siblings = Sample.siblings) ∧
    root Sample.leaf Sample.siblings 5 = root Sample.leaf Sample.siblings (5 % 2 ^ 2) := by
  have free : CollisionFree
      ((pathCouples Sample.leaf Sample.siblings 1 ++ pathCouples Sample.leaf Sample.siblings 5).map
        Couple.bytes) := by
    decide +kernel
  obtain ⟨binds, turns⟩ := path_binds_leaf 2
  have same := turns Sample.leaf Sample.siblings 5 rfl
  exact ⟨rfl, free, same.symm, binds _ _ _ _ 1 5 rfl rfl rfl free same.symm, same⟩

end Custody
