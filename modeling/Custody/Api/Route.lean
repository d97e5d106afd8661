/-
  Custody.Api.Route
  ────────────────────────────────
  **WHERE REQUESTS GO.**

  A path leads to a query, which tells something and changes nothing, or to a
  command.  Queries are asked by GET, commands are given by POST.  Paths are
  compared by their parts between slashes, letter by letter, so a doubled or a
  trailing slash leads elsewhere.  One part of a path may be a parameter,
  which is kept as it was written; it may be empty, but not at the end.

  Main fact: `ofParts?_eq_some_iff` — each route has one path, and no other
  path leads to it.
-/

namespace Custody.Api

/-! ## §1. Routes. -/

/-- What a client may ask.  Parameters are as written in the path. -/
inductive Query where
  /-- Whether the service answers, and how many events it has recorded. -/
  | health
  /-- The events after a number. -/
  | events
  /-- A deposit. -/
  | deposit (key : String)
  /-- A reservation. -/
  | reservation (key : String)
  /-- The reservations of a depositor. -/
  | reservationsOf (depositor : String)
  /-- The redemption that is owed for a reservation. -/
  | redemption (key : String)
  /-- A wallet and the redemptions that it owes. -/
  | wallet (name : String)
  /-- The balance of an account. -/
  | balance (account : String)
deriving DecidableEq, Repr

/-- What a client may order.  Parameters are as written in the path. -/
inductive Command where
  | reveal
  | settleSweep
  | reserve
  | redeem (key : String)
  | liquidate (key : String)
  | registerWallet
  | setWalletState (name : String)
  | setVaultStatus
deriving DecidableEq, Repr

/-- Where a path leads. -/
inductive Route where
  | query (query : Query)
  | command (command : Command)
deriving DecidableEq, Repr

namespace Route

/-- The method that a route is taken by. -/
def method : Route → String
  | .query _ => "GET"
  | .command _ => "POST"

/-! ## §2. Paths. -/

/-- A route whose path ends with a parameter. -/
def ending (parameter : String) (route : Route) : Option Route :=
  if parameter = "" then none else some route

/-- The route of the parts of a path. -/
def ofParts? : List String → Option Route
  | ["", "api", "health"] => some (.query .health)
  | ["", "api", "events"] => some (.query .events)
  | ["", "api", "deposits"] => some (.command .reveal)
  | ["", "api", "deposits", key] => ending key (.query (.deposit key))
  | ["", "api", "sweeps"] => some (.command .settleSweep)
  | ["", "api", "reservations"] => some (.command .reserve)
  | ["", "api", "reservations", key] => ending key (.query (.reservation key))
  | ["", "api", "reservations", key, "redeem"] => some (.command (.redeem key))
  | ["", "api", "reservations", key, "liquidate"] => some (.command (.liquidate key))
  | ["", "api", "depositors", depositor, "reservations"] =>
    some (.query (.reservationsOf depositor))
  | ["", "api", "priority-redemptions", key] => ending key (.query (.redemption key))
  | ["", "api", "wallets"] => some (.command .registerWallet)
  | ["", "api", "wallets", name] => ending name (.query (.wallet name))
  | ["", "api", "wallets", name, "state"] => some (.command (.setWalletState name))
  | ["", "api", "vaults"] => some (.command .setVaultStatus)
  | ["", "api", "balances", account] => ending account (.query (.balance account))
  | _ => none

/-- The route of a path. -/
def ofPath? (path : String) : Option Route := ofParts? (path.splitOn "/")

/-- The parts of the path that leads to a route. -/
def parts : Route → List String
  | .query .health => ["", "api", "health"]
  | .query .events => ["", "api", "events"]
  | .query (.deposit key) => ["", "api", "deposits", key]
  | .query (.reservation key) => ["", "api", "reservations", key]
  | .query (.reservationsOf depositor) => ["", "api", "depositors", depositor, "reservations"]
  | .query (.redemption key) => ["", "api", "priority-redemptions", key]
  | .query (.wallet name) => ["", "api", "wallets", name]
  | .query (.balance account) => ["", "api", "balances", account]
  | .command .reveal => ["", "api", "deposits"]
  | .command .settleSweep => ["", "api", "sweeps"]
  | .command .reserve => ["", "api", "reservations"]
  | .command (.redeem key) => ["", "api", "reservations", key, "redeem"]
  | .command (.liquidate key) => ["", "api", "reservations", key, "liquidate"]
  | .command .registerWallet => ["", "api", "wallets"]
  | .command (.setWalletState name) => ["", "api", "wallets", name, "state"]
  | .command .setVaultStatus => ["", "api", "vaults"]

/-- The parameter that stands at the end of a path, if one does. -/
def lastParameter? : Route → Option String
  | .query (.deposit text) | .query (.reservation text) | .query (.redemption text)
  | .query (.wallet text) | .query (.balance text) => some text
  | _ => none

/-- The parts of a path lead to the route that they are the parts of, and to no other. -/
theorem ofParts?_eq_some_iff (path : List String) (route : Route) :
    ofParts? path = some route ↔ path = route.parts ∧ route.lastParameter? ≠ some "" := by
  constructor
  · intro h
    unfold ofParts? at h
    split at h <;> grind [ending, parts, lastParameter?]
  · rintro ⟨rfl, ne⟩
    rcases route with (_ | _ | _ | _ | _ | _ | _ | _) | (_ | _ | _ | _ | _ | _ | _ | _) <;>
      simp_all [parts, lastParameter?, ofParts?, ending]

end Route

end Custody.Api
