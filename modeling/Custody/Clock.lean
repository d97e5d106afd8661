/-
  Custody.Clock
  ────────────────────────────────
  **A CLOCK THAT IS MOVED BY HAND.**

  Seconds since the epoch, as a 64-bit word.  A clock that is advanced past
  the end of its range starts over.
-/

namespace Custody

/-- The reading of a clock. -/
structure Clock where
  now : UInt64
deriving DecidableEq, Repr

namespace Clock

/-- Puts the clock at a time. -/
def set (_ : Clock) (now : UInt64) : Clock := ⟨now⟩

/-- Moves the clock on. -/
def advance (clock : Clock) (seconds : UInt64) : Clock := ⟨clock.now + seconds⟩

end Clock

end Custody
