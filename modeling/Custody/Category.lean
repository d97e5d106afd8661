/-
  Custody.Category
  ────────────────────────────────
  **WHAT KIND OF FAILURE A FAULT IS.**

  Each fault of each part falls into one of six categories.  The category is
  what a client acts on: whether to mend the request, to wait, or to give up.
-/
import Custody.Json.Record

namespace Custody

/-- The kinds of failure. -/
inductive Category where
  /-- The input cannot be read or has the wrong structure. -/
  | malformed
  /-- A record that is named does not exist. -/
  | notFound
  /-- A precondition fails; the same command may succeed later. -/
  | precondition
  /-- A sweep spends something that is neither a deposit nor the main output. -/
  | unknownInput
  /-- Going on would break the accounts. -/
  | invariant
  /-- The store, the configuration or a relay fails. -/
  | infrastructure
deriving DecidableEq, Repr, Inhabited

/-- The name of a category. -/
def Category.name : Category → String
  | .malformed => "malformed"
  | .notFound => "not_found"
  | .precondition => "precondition"
  | .unknownInput => "unknown_input"
  | .invariant => "invariant"
  | .infrastructure => "infrastructure"

instance : ToJson Category := ⟨fun c => .text c.name⟩

end Custody
