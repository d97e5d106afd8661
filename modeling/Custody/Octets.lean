/-
  Custody.Octets
  ────────────────────────────────
  **BYTE STRINGS OF A FIXED LENGTH.**

  Digests, keys, wallet names, versions and locktimes are byte strings whose
  length is part of what they are.  `Octets n` carries the length in the type,
  so no reader of a key ever meets a short one.

  Main facts:
    * `Octets.ext`          — two of them are equal when their bytes are;
    * `Octets.ofList?_eq`   — a byte list of the right length is accepted, any
                              other refused;
    * the order is the order of the byte lists, total and lawful, so octets
      can key an ordered table.
-/

namespace Custody

/-! ## §1. The type. -/

/-- A byte string of exactly `n` bytes. -/
structure Octets (n : Nat) where
  bytes : List UInt8
  length_eq : bytes.length = n
deriving DecidableEq

namespace Octets

variable {n : Nat}

theorem ext {a b : Octets n} (h : a.bytes = b.bytes) : a = b := by
  cases a; cases b; cases h; rfl

instance : Repr (Octets n) where
  reprPrec a _ := repr a.bytes

/-- The bytes as a string of `n` bytes, if there are exactly `n`. -/
def ofList? (n : Nat) (bytes : List UInt8) : Option (Octets n) :=
  if h : bytes.length = n then some ⟨bytes, h⟩ else none

theorem ofList?_eq (a : Octets n) : ofList? n a.bytes = some a := by
  simp [ofList?, a.length_eq]

/-- `n` copies of one byte. -/
def replicate (n : Nat) (byte : UInt8) : Octets n :=
  ⟨List.replicate n byte, by simp⟩

/-- The first `n` bytes of a list, filled up with zeros if it is shorter. -/
def take (n : Nat) (bytes : List UInt8) : Octets n :=
  ⟨(bytes ++ List.replicate n 0).take n, by simp⟩

/-- A string is taken off the front of its bytes, whatever follows them. -/
theorem take_bytes (a : Octets n) (rest : List UInt8) : take n (a.bytes ++ rest) = a := by
  apply ext
  simp [take, a.length_eq]

/-- The same bytes from last to first. -/
def reverse (a : Octets n) : Octets n :=
  ⟨a.bytes.reverse, by simp [a.length_eq]⟩

instance : Inhabited (Octets n) := ⟨replicate n 0⟩

/-! ## §2. The order. -/

/-- Octets are ordered as byte lists are, first difference first. -/
instance : Ord (Octets n) where
  compare a b := compare a.bytes b.bytes

instance : Std.TransOrd (Octets n) where
  eq_swap {a b} := Std.OrientedOrd.eq_swap (a := a.bytes) (b := b.bytes)
  isLE_trans {a b c} := Std.TransOrd.isLE_trans (a := a.bytes) (b := b.bytes) (c := c.bytes)

instance : Std.LawfulEqOrd (Octets n) where
  compare_self {a} := Std.ReflOrd.compare_self (a := a.bytes)
  eq_of_compare {_ _} h := ext (Std.LawfulEqOrd.eq_of_compare h)

end Octets

/-! ## §3. The lengths that have names. -/

/-- A 32-byte digest. -/
abbrev Digest := Octets 32

/-- Hash of a transaction, in the byte order it is computed in. -/
abbrev TxHash := Digest

/-- Name of a funding outpoint, under which its deposit and its reservation are kept. -/
abbrev DepositKey := Digest

/-- Hash of the public key that a custodial wallet is known by. -/
abbrev PubKeyHash := Octets 20

instance : Std.TransOrd Digest := inferInstanceAs (Std.TransOrd (Octets 32))
instance : Std.LawfulEqOrd Digest := inferInstanceAs (Std.LawfulEqOrd (Octets 32))
instance : Std.TransOrd PubKeyHash := inferInstanceAs (Std.TransOrd (Octets 20))
instance : Std.LawfulEqOrd PubKeyHash := inferInstanceAs (Std.LawfulEqOrd (Octets 20))

/-- A 32-byte mark that a depositor may attach to a deposit. -/
abbrev ExtraData := Digest

/-- The mark of a deposit that backs a reservation: every bit set. -/
def reservationTag : ExtraData := Octets.replicate 32 0xff

end Custody
