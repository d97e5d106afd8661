/-
  Custody.Api.Complaint
  ────────────────────────────────
  **WHAT A CLIENT IS TOLD WHEN A REQUEST FAILS.**

  A request fails at the request itself, at a record that does not exist, or
  at the service.  The client is told the wording, the code and the category,
  and the category alone decides the status.

  Main fact: `statusOf_isError` — no failure has the status of a success.
-/
import Custody.Fault
import Custody.Http.Message

namespace Custody.Api

/-! ## §1. Complaints. -/

/-- The header that names the caller. -/
def callerHeader : String := "x-caller-id"

/-- Why a request fails. -/
inductive Complaint where
  /-- No caller is named. -/
  | missingCaller
  /-- A part of the path is no key of a deposit. -/
  | invalidKey (text : String)
  /-- A part of the path is no name of a wallet. -/
  | invalidWallet (text : String)
  /-- The body is not what the request needs. -/
  | invalidBody
  | noDeposit (key : DepositKey)
  | noReservation (key : DepositKey)
  | noRedemption (key : DepositKey)
  | noWallet (wallet : PubKeyHash)
  /-- The service refuses. -/
  | refused (fault : Fault)
deriving DecidableEq, Repr

/-- The status of a failure of a category. -/
def statusOf : Category → Nat
  | .malformed => 400
  | .notFound => 404
  | .precondition => 409
  | .unknownInput => 422
  | .invariant | .infrastructure => 500

/-- Every category of failure has the status of an error. -/
theorem statusOf_isError (category : Category) :
    400 ≤ statusOf category ∧ statusOf category < 600 := by
  cases category <;> decide

namespace Complaint

/-- The wording of a complaint. -/
def message : Complaint → String
  | .missingCaller => s!"{callerHeader} header required"
  | .invalidKey text => s!"not a 32-byte hex key: {text}"
  | .invalidWallet text => s!"not a 20-byte hex pubkey hash: {text}"
  | .invalidBody => "the body is not the JSON that is required"
  | .noDeposit key => s!"deposit {key} not found"
  | .noReservation key => s!"reservation {key} not found"
  | .noRedemption key => s!"no priority redemption for {key}"
  | .noWallet wallet => s!"wallet {wallet} not registered"
  | .refused fault => fault.message

/-- The code of a complaint. -/
def code : Complaint → String
  | .missingCaller => "MISSING_CALLER"
  | .invalidKey _ => "INVALID_KEY"
  | .invalidWallet _ => "INVALID_WALLET"
  | .invalidBody => "INVALID_BODY"
  | .noDeposit _ => "DEPOSIT_NOT_FOUND"
  | .noReservation _ => "RESERVATION_NOT_FOUND"
  | .noRedemption _ => "PRIORITY_REDEMPTION_NOT_FOUND"
  | .noWallet _ => "UNKNOWN_WALLET"
  | .refused fault => fault.code

/-- The category of a complaint. -/
def category : Complaint → Category
  | .missingCaller | .invalidKey _ | .invalidWallet _ | .invalidBody => .malformed
  | .noDeposit _ | .noReservation _ | .noRedemption _ | .noWallet _ => .notFound
  | .refused fault => fault.category

/-- The response to a request that fails. -/
def response (complaint : Complaint) : Http.Response :=
  .json (statusOf complaint.category) (.object [
    ("error", .text complaint.message),
    ("code", .text complaint.code),
    ("category", toJson complaint.category)])

end Complaint

end Custody.Api
