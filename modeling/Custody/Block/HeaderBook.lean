/-
  Custody.Block.HeaderBook
  ────────────────────────────────
  **HEADERS KEPT BY THEIR OWNER.**

  A book of headers that were entered one by one.  Entering a header raises
  the tip to its height; taking one out leaves the tip where it is.

  Main fact: `le_tip_enter` — the tip is never below a header just entered.
-/
import Custody.Block.Header
import Custody.Table

namespace Custody

/-- Headers by block hash, with the height of the tip. -/
structure HeaderBook where
  headers : Table Digest Header
  tip : UInt64
deriving DecidableEq

namespace HeaderBook

/-- The book without headers. -/
def empty : HeaderBook := ⟨Table.empty, 0⟩

/-- Enters a header; the tip never moves below it. -/
def enter (book : HeaderBook) (header : Header) : HeaderBook :=
  ⟨book.headers.insert header.blockHash header, max book.tip header.height⟩

/-- Takes a header out, as after a reorganization. -/
def remove (book : HeaderBook) (block : Digest) : HeaderBook :=
  { book with headers := book.headers.erase block }

/-- Puts the tip at a height. -/
def withTip (book : HeaderBook) (height : UInt64) : HeaderBook :=
  { book with tip := height }

/-- The header of a block. -/
def header (book : HeaderBook) (block : Digest) : Except RelayFault Header :=
  match book.headers.get? block with
  | some header => .ok header
  | none => .error (.blockNotFound (displayHash block))

/-- The book as a source of headers. -/
def source (book : HeaderBook) : HeaderSource Id where
  header block := book.header block
  tip := Except.ok book.tip

/-- The tip is never below a header that was just entered. -/
theorem le_tip_enter (book : HeaderBook) (header : Header) :
    header.height ≤ (book.enter header).tip := by
  simp only [enter, UInt64.le_iff_toNat_le]
  show header.height.toNat ≤ (max book.tip header.height).toNat
  rw [show max book.tip header.height = if book.tip ≤ header.height then header.height else book.tip
    from rfl]
  split
  case isTrue => exact Nat.le_refl _
  case isFalse h =>
    have := mt UInt64.le_iff_toNat_le.mpr h
    omega

end HeaderBook

end Custody
