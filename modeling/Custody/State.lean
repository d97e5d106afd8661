/-
  Custody.State
  ────────────────────────────────
  **THE STATE OF CUSTODY AND ITS CHANGES.**

  The state is six tables: deposits, reservations, wallets, each depositor's
  reservations in the order of their creation, the redemptions that wallets
  owe, and which vaults are trusted.  Rows are put in or replaced and never
  taken out, so what a command changes is a list of rows for each table.

  A command takes a state and proposes the next, with the events it reports
  and the ledger operations that go with it; whoever calls it decides whether
  the proposal is committed.
-/
import Custody.Deposit
import Custody.Event
import Custody.Ledger
import Custody.Reservation

namespace Custody

/-! ## §1. The state. -/

/-- What the service knows. -/
structure State where
  deposits : Table DepositKey Deposit
  reservations : Table DepositKey Reservation
  wallets : Table PubKeyHash Wallet
  /-- The keys of each depositor's reservations, in the order of their creation. -/
  index : Table Identity (List DepositKey)
  redemptions : Table DepositKey PriorityRedemption
  /-- Which vaults are trusted; a vault without a row is not. -/
  vaults : Table Identity Bool
deriving DecidableEq, Repr

namespace State

/-- The state without rows. -/
def empty : State :=
  ⟨Table.empty, Table.empty, Table.empty, Table.empty, Table.empty, Table.empty⟩

instance : Inhabited State := ⟨empty⟩

/-- The stage of a wallet; a wallet that is not registered is unknown. -/
def walletState (s : State) (wallet : PubKeyHash) : WalletState :=
  match s.wallets.get? wallet with
  | some row => row.state
  | none => .unknown

/-- Whether a vault is trusted. -/
def trusts (s : State) (vault : Identity) : Bool := (s.vaults.get? vault).getD false

/-- The reservations of a depositor, in the order of their creation. -/
def reservationsOf (s : State) (depositor : Identity) : List Reservation :=
  ((s.index.get? depositor).getD []).filterMap s.reservations.get?

/-- The redemptions that a wallet owes. -/
def redemptionsOwedBy (s : State) (wallet : PubKeyHash) : List PriorityRedemption :=
  s.redemptions.values.filter fun redemption => redemption.walletKeyHash == wallet

end State

/-! ## §2. Changes. -/

/-- Rows to be put over those of a state. -/
structure Delta where
  deposits : List Deposit := []
  reservations : List Reservation := []
  wallets : List Wallet := []
  index : List (Identity × List DepositKey) := []
  redemptions : List PriorityRedemption := []
  vaults : List (Identity × Bool) := []
deriving DecidableEq, Repr

namespace Delta

/-- Whether nothing is to be put in. -/
def isEmpty (d : Delta) : Bool :=
  d.deposits.isEmpty && d.reservations.isEmpty && d.wallets.isEmpty && d.index.isEmpty
    && d.redemptions.isEmpty && d.vaults.isEmpty

/-- Puts the rows over those of a state, each under the key that it carries. -/
def applyTo (d : Delta) (s : State) : State where
  deposits := s.deposits.insertAll (d.deposits.map fun row => (row.key, row))
  reservations := s.reservations.insertAll (d.reservations.map fun row => (row.key, row))
  wallets := s.wallets.insertAll (d.wallets.map fun row => (row.keyHash, row))
  index := s.index.insertAll d.index
  redemptions := s.redemptions.insertAll (d.redemptions.map fun row => (row.key, row))
  vaults := s.vaults.insertAll d.vaults

end Delta

namespace State

/-- The rows of the next state that are no rows of this one. -/
def diff (before after : State) : Delta where
  deposits := (before.deposits.changed after.deposits).map (·.2)
  reservations := (before.reservations.changed after.reservations).map (·.2)
  wallets := (before.wallets.changed after.wallets).map (·.2)
  index := before.index.changed after.index
  redemptions := (before.redemptions.changed after.redemptions).map (·.2)
  vaults := before.vaults.changed after.vaults

end State

/-! ## §3. Proposals. -/

/-- What a command proposes: the next state, the events it reports, the ledger operations that
go with it, and what the caller is told. -/
structure Transition (α : Type) where
  state : State
  events : List Event
  ledgerOps : List LedgerOp
  output : α

end Custody
