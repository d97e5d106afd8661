/-
  Custody.Ledger
  ────────────────────────────────
  **THE TOKEN LEDGER.**

  The ledger keeps a balance for each account.  What commands do to it is a
  batch of operations, and each operation comes down to moves: a credit, a
  debit, or a refusal.  Moves are made one after the other and stop at the
  first that fails; a batch takes effect only if all of its moves are made.

  Operations that name no source act on the bridge account.

  Main facts:
    * `runMoves_append`     — a run goes on where another ended;
    * `preview_eq_ok_iff`   — a batch that can be previewed can be applied, and
                              the preview holds what it changes.
-/
import Custody.Category
import Custody.Table
import Custody.Word

namespace Custody

/-! ## §1. Operations. -/

/-- One operation on balances. -/
inductive LedgerOp where
  /-- Mints for one account. -/
  | increaseBalance (recipient : Identity) (amount : UInt64)
  /-- Mints for several accounts. -/
  | increaseBalances (recipients : List Identity) (amounts : List UInt64)
  /-- Burns from the bridge account. -/
  | decreaseBalance (amount : UInt64)
  /-- Pays from the bridge account. -/
  | transferBalance (recipient : Identity) (amount : UInt64)
  /-- Moves from one account to another. -/
  | transferBalanceFrom (sender recipient : Identity) (amount : UInt64)
deriving DecidableEq, Repr

namespace LedgerOp

/-- The kind of an operation, which is the name that it is written under. -/
def kind : LedgerOp → String
  | increaseBalance .. => "increase_balance"
  | increaseBalances .. => "increase_balances"
  | decreaseBalance .. => "decrease_balance"
  | transferBalance .. => "transfer_balance"
  | transferBalanceFrom .. => "transfer_balance_from"

/-- The fields of an operation, without its kind. -/
def fields : LedgerOp → List (String × Json)
  | increaseBalance recipient amount => [
      ("recipient", toJson recipient), ("amount", toJson amount)]
  | increaseBalances recipients amounts => [
      ("recipients", toJson recipients), ("amounts", toJson amounts)]
  | decreaseBalance amount => [("amount", toJson amount)]
  | transferBalance recipient amount => [("to", toJson recipient), ("amount", toJson amount)]
  | transferBalanceFrom sender recipient amount => [
      ("from", toJson sender), ("to", toJson recipient), ("amount", toJson amount)]

/-- The member that the kind of an operation is written as. -/
def tag : String := "op"

instance : ToJson LedgerOp where
  toJson op := .object ((tag, .text op.kind) :: op.fields)

/-- Reads the operation of a kind from its fields. -/
def ofFields (kind : String) (j : Json) : Option LedgerOp :=
  match kind with
  | "increase_balance" => do
    let r ← j.record? ["recipient", "amount"] 0
    return .increaseBalance (← r.field "recipient") (← r.field "amount")
  | "increase_balances" => do
    let r ← j.record? ["recipients", "amounts"] 0
    return .increaseBalances (← r.field "recipients") (← r.field "amounts")
  | "decrease_balance" => do
    let r ← j.record? ["amount"] 0
    return .decreaseBalance (← r.field "amount")
  | "transfer_balance" => do
    let r ← j.record? ["to", "amount"] 0
    return .transferBalance (← r.field "to") (← r.field "amount")
  | "transfer_balance_from" => do
    let r ← j.record? ["from", "to", "amount"] 0
    return .transferBalanceFrom (← r.field "from") (← r.field "to") (← r.field "amount")
  | _ => none

instance : FromJson LedgerOp where
  fromJson? j := do
    let (kind, rest) ← j.variant? tag
    ofFields kind rest
  whole := true

end LedgerOp

/-! ## §2. Faults. -/

/-- Why a move is refused. -/
inductive LedgerFault where
  | insufficient (account : Identity) (balance required : UInt64)
  | overflow (account : Identity)
  | lengthMismatch (recipients amounts : Nat)
deriving DecidableEq, Repr

namespace LedgerFault

/-- The wording of a fault. -/
def message : LedgerFault → String
  | .insufficient account balance required =>
    s!"insufficient balance for {account}: has {balance}, needs {required}"
  | .overflow account => s!"balance overflow for {account}"
  | .lengthMismatch recipients amounts =>
    s!"recipient/amount length mismatch: {recipients} recipients, {amounts} amounts"

/-- The code of a fault. -/
def code : LedgerFault → String
  | .insufficient .. => "INSUFFICIENT_BALANCE"
  | .overflow _ => "BALANCE_OVERFLOW"
  | .lengthMismatch .. => "LEDGER_LENGTH_MISMATCH"

/-- An account may be filled later; the other faults break the accounts. -/
def category : LedgerFault → Category
  | .insufficient .. => .precondition
  | .overflow _ | .lengthMismatch .. => .invariant

end LedgerFault

/-! ## §3. Moves. -/

/-- The balance of each account that has an entry. -/
abbrev Balances := Table Identity UInt64

/-- The balance of an account; an account without an entry has none. -/
def Balances.of (balances : Balances) (account : Identity) : UInt64 :=
  (balances.get? account).getD 0

/-- One step of an operation. -/
inductive Move where
  | credit (account : Identity) (amount : UInt64)
  | debit (account : Identity) (amount : UInt64)
  | refuse (fault : LedgerFault)
deriving DecidableEq, Repr

/-- Makes one move.  A credit of nothing enters the account too. -/
def Move.make (balances : Balances) : Move → Except LedgerFault Balances
  | .credit account amount =>
    match Word.add? (balances.of account) amount with
    | some balance => .ok (balances.insert account balance)
    | none => .error (.overflow account)
  | .debit account amount =>
    match Word.sub? (balances.of account) amount with
    | some balance => .ok (balances.insert account balance)
    | none => .error (.insufficient account (balances.of account) amount)
  | .refuse fault => .error fault

/-- Makes moves up to the first that fails; gives the balances then, and the fault if any. -/
def runMoves (balances : Balances) : List Move → Balances × Option LedgerFault
  | [] => (balances, none)
  | move :: rest =>
    match move.make balances with
    | .ok next => runMoves next rest
    | .error fault => (balances, some fault)

/-- Moves are run one part after the other, and the second only if the first went through. -/
theorem runMoves_append (balances : Balances) (first second : List Move) :
    runMoves balances (first ++ second)
      = match runMoves balances first with
        | (next, none) => runMoves next second
        | failed => failed := by
  induction first generalizing balances with
  | nil => rfl
  | cons move rest ih =>
    simp only [List.cons_append, runMoves]
    cases move.make balances with
    | ok next => exact ih next
    | error fault => rfl

/-! ## §4. Ledgers. -/

/-- A ledger: its bridge account and its balances. -/
structure Ledger where
  bridge : Identity
  balances : Balances
deriving DecidableEq, Repr

namespace Ledger

/-- The ledger without balances. -/
def opened (bridge : Identity) : Ledger := ⟨bridge, Table.empty⟩

/-- The balance of an account. -/
def balanceOf (ledger : Ledger) (account : Identity) : UInt64 := ledger.balances.of account

/-- The sum of all balances. -/
def totalSupply (ledger : Ledger) : Nat :=
  ledger.balances.values.foldr (fun balance rest => balance.toNat + rest) 0

/-- The moves of an operation under a bridge account. -/
def moves (bridge : Identity) : LedgerOp → List Move
  | .increaseBalance recipient amount => [.credit recipient amount]
  | .increaseBalances recipients amounts =>
    if recipients.length = amounts.length then List.zipWith Move.credit recipients amounts
    else [.refuse (.lengthMismatch recipients.length amounts.length)]
  | .decreaseBalance amount => [.debit bridge amount]
  | .transferBalance recipient amount => [.debit bridge amount, .credit recipient amount]
  | .transferBalanceFrom sender recipient amount => [.debit sender amount, .credit recipient amount]

/-- Carries one operation out; what was done before a fault stays done. -/
def perform (ledger : Ledger) (op : LedgerOp) : Ledger × Option LedgerFault :=
  let (balances, fault) := runMoves ledger.balances (moves ledger.bridge op)
  ({ ledger with balances }, fault)

/-- The balances after a whole batch. -/
def settle (ledger : Ledger) (ops : List LedgerOp) : Except LedgerFault Balances :=
  -- All moves run on a copy, which a fault throws away.
  match runMoves ledger.balances (ops.flatMap (moves ledger.bridge)) with
  | (balances, none) => .ok balances
  | (_, some fault) => .error fault

/-- Carries a batch out, all of it or nothing. -/
def applyBatch (ledger : Ledger) (ops : List LedgerOp) : Except LedgerFault Ledger :=
  (ledger.settle ops).map fun balances => { ledger with balances }

/-- What a batch would change: each account whose entry differs, with its balance then. -/
def preview (ledger : Ledger) (ops : List LedgerOp) :
    Except LedgerFault (List (Identity × UInt64)) :=
  (ledger.settle ops).map fun balances => ledger.balances.changed balances

/-- Puts balances over those that are there. -/
def restore (ledger : Ledger) (balances : List (Identity × UInt64)) : Ledger :=
  { ledger with balances := ledger.balances.insertAll balances }

/-- A preview foretells exactly what the batch then changes. -/
theorem preview_eq_ok_iff (ledger : Ledger) (ops : List LedgerOp)
    (changes : List (Identity × UInt64)) :
    ledger.preview ops = .ok changes ↔
      ∃ next, ledger.applyBatch ops = .ok next ∧
        changes = ledger.balances.changed next.balances := by
  unfold preview applyBatch
  cases ledger.settle ops with
  | error fault => simp [Except.map]
  | ok balances => simp [Except.map, eq_comm]

end Ledger

end Custody
