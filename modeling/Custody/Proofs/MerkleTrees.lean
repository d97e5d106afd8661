/-
  Custody.Proofs.MerkleTrees
  ────────────────────────────────
  **MERKLE TREES, AND WHERE A PATH MEETS THEM.**

  A block commits to its transactions by the root of a tree.  Each level of
  the tree is made of the couples of the level below, in which the last node
  of an odd level is coupled with itself.  A path climbs from a leaf of its
  own choice, with siblings and a place of its own choice, and may be longer
  or shorter than the tree is high.

  The digest is a function like any other here.  What is assumed of it is said
  of the byte strings that are hashed, and of no others.

  Main facts:
    * `root_split`  — a path is climbed up to any of its siblings first;
    * `meets_level` — a path that leads to the root of a tree comes through its
                      lowest level, or sets out from inside the tree.
-/
import Custody.Block.Inclusion

namespace Custody

/-! ## §1. Digests that tell byte strings apart. -/

/-- No two of some byte strings have the same double digest. -/
def CollisionFree (strings : List (List UInt8)) : Prop :=
  ∀ a ∈ strings, ∀ b ∈ strings, doubleSha256 a = doubleSha256 b → a = b

instance (strings : List (List UInt8)) : Decidable (CollisionFree strings) :=
  inferInstanceAs
    (Decidable (∀ a ∈ strings, ∀ b ∈ strings, doubleSha256 a = doubleSha256 b → a = b))

/-- Of fewer strings there are no more collisions. -/
theorem CollisionFree.mono {few many : List (List UInt8)} (free : CollisionFree many)
    (within : few ⊆ many) : CollisionFree few :=
  fun a ha b hb => free a (within ha) b (within hb)

namespace Merkle

/-! ## §2. Couples of nodes. -/

/-- Two nodes side by side, as they are hashed. -/
abbrev Couple := Digest × Digest

namespace Couple

/-- The bytes of a couple. -/
def bytes (c : Couple) : List UInt8 := c.1.bytes ++ c.2.bytes

/-- The node above a couple. -/
def above (c : Couple) : Digest := doubleSha256 c.bytes

theorem length_bytes (c : Couple) : c.bytes.length = InclusionProof.nodeLength := by
  rw [bytes, List.length_append, c.1.length_eq, c.2.length_eq]
  rfl

theorem bytes_inj {a b : Couple} (h : a.bytes = b.bytes) : a = b := by
  obtain ⟨left, right⟩ := List.append_inj h (by rw [a.1.length_eq, b.1.length_eq])
  exact Prod.ext (Octets.ext left) (Octets.ext right)

end Couple

/-- A node and its sibling in their order: at odd places the sibling stands on the left. -/
def coupleAt (node sibling : Digest) (place : Nat) : Couple :=
  if place % 2 = 1 then (sibling, node) else (node, sibling)

/-- The parent of a node is the node above its couple. -/
theorem parent_eq (node sibling : Digest) (place : Nat) :
    parent node sibling place = (coupleAt node sibling place).above := by
  unfold parent coupleAt
  split <;> rfl

/-- A node is on one of the two sides of its couple. -/
theorem of_coupleAt {node sibling left right : Digest} {place : Nat}
    (h : coupleAt node sibling place = (left, right)) : node = left ∨ node = right := by
  unfold coupleAt at h
  split at h
  · cases h
    exact .inr rfl
  · cases h
    exact .inl rfl

/-! ## §3. Trees. -/

/-- The couples of a level; a last node without a neighbour is coupled with itself. -/
def couples : List Digest → List Couple
  | [] => []
  | [last] => [(last, last)]
  | left :: right :: rest => (left, right) :: couples rest

/-- Couples are made of nodes of the level. -/
theorem mem_of_mem_couples {level : List Digest} {c : Couple} (h : c ∈ couples level) :
    c.1 ∈ level ∧ c.2 ∈ level := by
  fun_induction couples level with
  | case1 => cases h
  | case2 last =>
    cases List.mem_singleton.mp h
    simp
  | case3 left right rest ih =>
    rcases List.mem_cons.mp h with rfl | h
    · simp
    · obtain ⟨first, second⟩ := ih h
      simp [first, second]

/-- There are half as many couples as nodes, rounded up. -/
theorem length_couples (level : List Digest) : (couples level).length = (level.length + 1) / 2 := by
  fun_induction couples level with
  | case1 => rfl
  | case2 last => simp
  | case3 left right rest ih =>
    simp only [List.length_cons, ih]
    omega

/-- The next level up. -/
def nextLevel (level : List Digest) : List Digest := (couples level).map Couple.above

/-- The root of the tree over some nodes: they themselves if there is one, and else the root of
the next level up. -/
def treeRoot : List Digest → Digest
  | [] => default
  | [root] => root
  | left :: right :: rest => treeRoot (nextLevel (left :: right :: rest))
termination_by level => level.length
decreasing_by
  rw [nextLevel, List.length_map, length_couples]
  simp only [List.length_cons]
  omega

/-- The couples of all levels of the tree over some nodes. -/
def treeCouples : List Digest → List Couple
  | [] => []
  | [_] => []
  | left :: right :: rest =>
    couples (left :: right :: rest) ++ treeCouples (nextLevel (left :: right :: rest))
termination_by level => level.length
decreasing_by
  rw [nextLevel, List.length_map, length_couples]
  simp only [List.length_cons]
  omega

/-! ## §4. Paths. -/

/-- The couples that a path hashes, from the leaf upwards. -/
def pathCouples (leaf : Digest) : List Digest → Nat → List Couple
  | [], _ => []
  | sibling :: rest, place =>
    coupleAt leaf sibling place :: pathCouples (parent leaf sibling place) rest (place / 2)

/-- A path is climbed up to any of its siblings first, and the couple there is one that it
hashes. -/
theorem root_split (leaf sibling : Digest) (lower upper : List Digest) (place : Nat) :
    ∃ c ∈ pathCouples leaf (lower ++ sibling :: upper) place,
      root leaf (lower ++ [sibling]) place = c.above ∧
        ∃ spot, c = coupleAt (root leaf lower place) sibling spot := by
  induction lower generalizing leaf place with
  | nil => exact ⟨_, List.mem_cons_self, parent_eq .., place, rfl⟩
  | cons first rest ih =>
    obtain ⟨c, among, above, spot, own⟩ := ih (parent leaf first place) (place / 2)
    exact ⟨c, List.mem_cons_of_mem _ among, above, spot, own⟩

/-- **A path that leads to the root of a tree comes through its lowest level, or sets out from
inside the tree**, as long as the digest tells the couples of both apart. -/
theorem meets_level {leaf : Digest} {siblings nodes : List Digest} {place : Nat}
    (some_node : nodes ≠ [])
    (free : CollisionFree ((treeCouples nodes ++ pathCouples leaf siblings place).map Couple.bytes))
    (leads : root leaf siblings place = treeRoot nodes) :
    (∃ lower upper, siblings = lower ++ upper ∧ root leaf lower place ∈ nodes) ∨
      ∃ c ∈ treeCouples nodes, leaf = c.above := by
  -- The induction is on the levels of the tree, from the highest downwards.
  fun_induction treeRoot nodes with
  | case1 => exact absurd rfl some_node
  | case2 node => exact .inl ⟨siblings, [], by simp, by simp [leads]⟩
  | case3 left right rest ih =>
    have level : nextLevel (left :: right :: rest) ≠ [] := by
      cases rest <;> simp [nextLevel, couples]
    have within : ((treeCouples (nextLevel (left :: right :: rest))
        ++ pathCouples leaf siblings place).map Couple.bytes)
        ⊆ (treeCouples (left :: right :: rest) ++ pathCouples leaf siblings place).map
          Couple.bytes := by
      rw [treeCouples, List.append_assoc]
      exact List.map_subset _ (List.subset_append_right ..)
    rw [treeCouples]
    rcases ih level (free.mono within) leads with ⟨lower, upper, rfl, reached⟩ | ⟨c, inside, own⟩
    case inr => exact .inr ⟨c, List.mem_append_right _ inside, own⟩
    obtain ⟨c, among, above⟩ := List.mem_map.mp reached
    -- One level up the path is at the node above a couple of this level.
    rcases List.eq_nil_or_concat lower with rfl | ⟨below, sibling, rfl⟩
    · exact .inr ⟨c, List.mem_append_left _ among, above.symm⟩
    · obtain ⟨own, hashed, climbed, spot, split⟩ := root_split leaf sibling below upper place
      rw [List.concat_eq_append] at *
      have same : own = c := by
        refine Couple.bytes_inj (free _ ?_ _ ?_ ?_)
        · refine List.mem_map_of_mem (List.mem_append_right _ ?_)
          simpa using hashed
        · rw [treeCouples]
          exact List.mem_map_of_mem (List.mem_append_left _ (List.mem_append_left _ among))
        · exact climbed.symm.trans above.symm
      have member : root leaf below place = c.1 ∨ root leaf below place = c.2 :=
        of_coupleAt (split.symm.trans same)
      obtain ⟨first, second⟩ := mem_of_mem_couples among
      refine .inl ⟨below, sibling :: upper, by simp, ?_⟩
      rcases member with same | same
      · rw [same]
        exact first
      · rw [same]
        exact second

end Merkle

end Custody
