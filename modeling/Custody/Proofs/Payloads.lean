/-
  Custody.Proofs.Payloads
  ────────────────────────────────
  **EVENTS ARE READ BACK FROM THEIR TEXT.**

  The payload of an event is printed from its JSON.  All of an event can be
  printed and told apart again, so what is read from the text is the JSON, and
  from that the event.

  Main fact: `read?_print` — an event is read back from the text of its payload.
-/
import Custody.Proofs.Printed
import Custody.Proofs.RoundTrips

namespace Custody

namespace Json.Printable

variable {depth : Nat}

/-- A word of 64 bits can be printed. -/
theorem word64 (n : UInt64) : Printable depth (toJson n) := .word n.toNat_lt

theorem word32 (n : UInt32) : Printable depth (toJson n) :=
  .word (Nat.lt_trans n.toNat_lt (by decide))

theorem octets {n : Nat} (a : Octets n) : Printable depth (toJson a) := .text _

theorem name (a : Identity) : Printable depth (toJson a) := .text _

theorem name? (a : Option Identity) : Printable depth (toJson a) := by
  cases a with
  | none => exact .null
  | some a => exact .text _

theorem flag (b : Bool) : Printable depth (toJson b) := .bool b

theorem stage (state : WalletState) : Printable depth (toJson state) := .text _

/-- A main output can be printed. -/
theorem output (o : MainOutput) : Printable (depth + 1) (toJson o) := by
  refine .object ?_
  simp [word64, word32, octets]

/-- An event can be printed. -/
theorem event (e : Event) : Printable (depth + 2) (toJson e) := by
  refine .object ?_
  cases e <;>
    simp [Event.fields, text, word64, word32, octets, name, name?, flag, stage, output]

end Json.Printable

/-- **An event is read back from the text of its payload.** -/
theorem Event.read?_print (e : Event) : Json.read? (toJson e).print = some e := by
  have parsed : Json.parse? .whole (toJson e).print = some (toJson e) :=
    (Json.Printable.event e).parse?_print Json.Manner.full_whole
  show (Json.parse? .whole (toJson e).print).bind fromJson? = some e
  rw [parsed, Option.bind_some]
  exact RoundTrips.plain e

end Custody
