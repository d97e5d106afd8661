/-
  Custody.Store.Volatile
  ────────────────────────────────
  **A STORE THAT FORGETS.**

  The contents are the state, the events and the balances themselves.  A
  commit is refused if its first event has a number that has been passed.

  Main facts:
    * `commit_eq_ok_iff` — which commits land, and what they leave.
-/
import Custody.Store

namespace Custody

/-- Contents that live as long as the process. -/
structure Volatile where
  state : State
  events : List LoggedEvent
  balances : Balances
deriving DecidableEq

namespace Volatile

/-- The store without contents. -/
def empty : Volatile := ⟨State.empty, [], Table.empty⟩

/-- Whether the first of some events has a number that has been passed. -/
def isPassed (store : Volatile) (events : List LoggedEvent) : Option LoggedEvent :=
  events.head?.filter fun first => first.seq < EventLog.nextAfter store.events

/-- Puts a commit over the contents. -/
def put (store : Volatile) (delta : Delta) (events : List LoggedEvent)
    (balances : List (Identity × UInt64)) : Volatile where
  state := delta.applyTo store.state
  events := store.events ++ events
  balances := store.balances.insertAll balances

/-- Brings a commit. -/
def commit (store : Volatile) (delta : Delta) (events : List LoggedEvent)
    (balances : List (Identity × UInt64)) : Except StoreFault Volatile :=
  match store.isPassed events with
  | some first => .error (.takenNumber first.seq)
  | none => .ok (store.put delta events balances)

/-- A commit is taken exactly if its first number has not been passed, and then it is whole. -/
theorem commit_eq_ok_iff (store next : Volatile) (delta : Delta) (events : List LoggedEvent)
    (balances : List (Identity × UInt64)) :
    store.commit delta events balances = .ok next ↔
      store.isPassed events = none ∧ next = store.put delta events balances := by
  unfold commit
  cases store.isPassed events with
  | some first => simp
  | none => simp [eq_comm]

instance : Store Volatile where
  commit := commit
  load store := .ok (store.state, store.events)
  loadBalances store := .ok store.balances.rows
  deposit? store key := .ok (store.state.deposits.get? key)
  reservation? store key := .ok (store.state.reservations.get? key)
  reservationsOf store depositor := .ok (store.state.reservationsOf depositor)
  eventsSince store after := .ok (store.events.filter fun e => after < e.seq)

/-- State and events are taken at one moment. -/
instance : QueriedStore Volatile where
  first store _ := .ok (store.state, store.events)
  rest := []
  load_eq _ := rfl

end Volatile

end Custody
