/-
  Custody.Fault
  ────────────────────────────────
  **WHATEVER CAN GO WRONG, AS ONE TYPE.**

  Each part has faults of its own; here they come together.  A fault has a
  wording, a stable code and a category, and a client sees all three.
-/
import Custody.Command.Close
import Custody.Command.Setup
import Custody.Command.Sweep
import Custody.Config
import Custody.Store

namespace Custody

/-- A fault of any part. -/
inductive Fault where
  | config (fault : ConfigFault)
  | vector (fault : VectorFault)
  | proof (fault : ProofFault)
  | wallet (fault : WalletFault)
  | reveal (fault : RevealFault)
  | sweep (fault : SweepFault)
  | reservation (fault : ReservationFault)
  | ledger (fault : LedgerFault)
  | store (fault : StoreFault)
deriving DecidableEq, Repr

namespace Fault

/-- The wording of a fault; those of configuration, ledger and store name where they arose. -/
def message : Fault → String
  | config fault => s!"configuration error: {fault.message}"
  | vector fault => fault.message
  | proof fault => fault.message
  | wallet fault => fault.message
  | reveal fault => fault.message
  | sweep fault => fault.message
  | reservation fault => fault.message
  | ledger fault => s!"ledger error: {fault.message}"
  | store fault => s!"storage error: {fault.message}"

/-- The code of a fault. -/
def code : Fault → String
  | config fault => fault.code
  | vector fault => fault.code
  | proof fault => fault.code
  | wallet fault => fault.code
  | reveal fault => fault.code
  | sweep fault => fault.code
  | reservation fault => fault.code
  | ledger fault => fault.code
  | store fault => fault.code

/-- The category of a fault. -/
def category : Fault → Category
  | config _ => .infrastructure
  | vector fault => fault.category
  | proof fault => fault.category
  | wallet fault => fault.category
  | reveal fault => fault.category
  | sweep fault => fault.category
  | reservation fault => fault.category
  | ledger fault => fault.category
  | store _ => .infrastructure

end Fault

end Custody
