/-
  Custody.Store
  ────────────────────────────────
  **WHAT A STORE HAS TO DO.**

  A store keeps the state, the log of events and the balances of the ledger.
  A commit brings a change of the state, the events that tell of it and the
  balances that it leaves, and it lands whole or not at all.  A load need not
  be as whole: it is made of queries, each of them at a moment of its own.
-/
import Custody.Event.Log
import Custody.State

namespace Custody

/-- Why a store does not do what it is asked. -/
inductive StoreFault where
  | duplicate (what : String)
  | database (reason : String)
  | invalidData (reason : String)
  | connection (reason : String)
deriving DecidableEq, Repr

namespace StoreFault

/-- The wording of a fault. -/
def message : StoreFault → String
  | .duplicate what => s!"Duplicate record: {what}"
  | .database reason => s!"Database error: {reason}"
  | .invalidData reason => s!"Invalid data: {reason}"
  | .connection reason => s!"Connection error: {reason}"

/-- The code of a fault. -/
def code : StoreFault → String
  | .duplicate _ => "STORAGE_DUPLICATE"
  | .database _ => "STORAGE_DATABASE"
  | .invalidData _ => "STORAGE_INVALID_DATA"
  | .connection _ => "STORAGE_CONNECTION"

/-- The fault of an event whose number is taken. -/
def takenNumber (seq : UInt64) : StoreFault := .duplicate s!"event seq {seq}"

end StoreFault

/-- The operations of a store with contents in `σ`. -/
class Store (σ : Type) where
  /-- Brings a change, its events and the balances that it leaves. -/
  commit : σ → Delta → List LoggedEvent → List (Identity × UInt64) → Except StoreFault σ
  /-- The whole state and all events. -/
  load : σ → Except StoreFault (State × List LoggedEvent)
  /-- All balances, in the order of the accounts. -/
  loadBalances : σ → Except StoreFault (List (Identity × UInt64))
  /-- The deposit under a key. -/
  deposit? : σ → DepositKey → Except StoreFault (Option Deposit)
  /-- The reservation under a key. -/
  reservation? : σ → DepositKey → Except StoreFault (Option Reservation)
  /-- The reservations of a depositor, in the order of their creation. -/
  reservationsOf : σ → Identity → Except StoreFault (List Reservation)
  /-- The events after a number. -/
  eventsSince : σ → UInt64 → Except StoreFault (List LoggedEvent)

/-- A query of a load: it adds what it finds in the store to what was read before. -/
abbrev Query (σ : Type) :=
  σ → State × List LoggedEvent → Except StoreFault (State × List LoggedEvent)

/-- What comes of queries that are made one right after the other. -/
def Query.all {σ : Type} (store : σ) (queries : List (Query σ))
    (read : State × List LoggedEvent) : Except StoreFault (State × List LoggedEvent) :=
  queries.foldlM (fun read query => query store read) read

/-- A store that is loaded by queries.  Each sees the store as it is at one moment; between one and
the next others may commit. -/
class QueriedStore (σ : Type) [Store σ] where
  /-- The query that a load begins with. -/
  first : Query σ
  /-- The queries that follow it, in their order. -/
  rest : List (Query σ)
  /-- The queries of a load that nobody interrupts read the store. -/
  load_eq (store : σ) : Store.load store = Query.all store (first :: rest) (State.empty, [])

end Custody
