/-
  Custody.Api.Exchange
  ────────────────────────────────
  **REQUESTS ANSWERED.**

  A request is read in a fixed order: caller, then path, then body; the first
  that cannot be read is what the client is told.  A query tells something of
  the service as it is.  A command is handed to the service, and the response
  tells what came of it.  Each request and its response stand in the journal
  around whatever the service wrote there.

  A request to learn the options of a path is answered before all that, and
  one for the head of a response gets the response without its body.

  Main fact: `respond_unchanged` — only a request by POST changes service or
  store.
-/
import Custody.Api.Complaint
import Custody.Api.Route
import Custody.Http.Encoding
import Custody.Json.Parser
import Custody.Service

namespace Custody.Api

/-! ## §1. Reading a request. -/

/-- What is read of a request, or the response to one that cannot be read. -/
abbrev Reading (α : Type) := Except Http.Response α

/-- The reading of a request that fails. -/
def complain {α : Type} (complaint : Complaint) : Reading α := .error complaint.response

/-- The reading of a target that cannot be made out. -/
def unreadable {α : Type} : Reading α := .error (.bare 400)

/-- The caller that a request names. -/
def caller (request : Http.Request) : Reading Identity :=
  let value := (request.header? callerHeader).getD ""
  let name := Text.trim value
  if Http.isVisible value ∧ name ≠ "" then .ok ⟨name⟩ else complain .missingCaller

/-- What a parameter of a path says. -/
def parameter (raw : String) : Reading String :=
  match Http.pathText? raw with
  | some text => .ok text
  | none => unreadable

/-- The key that a parameter of a path is. -/
def readKey (raw : String) : Reading DepositKey := do
  let text ← parameter raw
  match Hex.decodeExact 32 text with
  | .ok key => return key
  | .error _ => complain (.invalidKey text)

/-- The wallet that a parameter of a path names. -/
def readWallet (raw : String) : Reading PubKeyHash := do
  let text ← parameter raw
  match Hex.decodeExact 20 text with
  | .ok wallet => return wallet
  | .error _ => complain (.invalidWallet text)

/-- The most bytes that a body may have. -/
def longestBody : Nat := 2 * 1024 * 1024

/-- What the body of a request says; what follows its first value does not count. -/
def readBody {α : Type} [FromJson α] (request : Http.Request) : Reading α :=
  if request.declaresJson ∧ request.body.utf8ByteSize ≤ longestBody then
    match Json.readFirst? request.body with
    | some value => .ok value
    | none => complain .invalidBody
  else complain .invalidBody

/-- The number after which a client wants events: zero unless it says so once. -/
def readAfter (request : Http.Request) : Reading UInt64 :=
  match Http.queryValues (request.target.query.getD "") "after" with
  | [] => .ok 0
  | [some text] =>
    match Text.readUInt64 text with
    | .ok after => .ok after
    | .error _ => unreadable
  | _ => unreadable

/-! ## §2. Queries. -/

/-- What a record that may not exist is shown as. -/
def found {α : Type} (record : Option α) (missing : Complaint) : Reading α :=
  match record with
  | some value => .ok value
  | none => complain missing

/-- What a query is told. -/
def Query.answer (service : Service) (request : Http.Request) : Query → Reading Json
  | .health => return .object [
      ("status", .text "ok"),
      ("service", .text "btc-settlement"),
      ("version", .text "0.1.0"),
      ("events", .ofNat service.log.events.length)]
  | .events => do
    let after ← readAfter request
    return .object [("after", toJson after), ("events", toJson (service.log.since after))]
  | .deposit raw => do
    let key ← readKey raw
    return (← found (service.state.deposits.get? key) (.noDeposit key)).view
  | .reservation raw => do
    let key ← readKey raw
    return (← found (service.state.reservations.get? key) (.noReservation key)).view
  | .reservationsOf raw => do
    let depositor : Identity := ⟨← parameter raw⟩
    return .object [
      ("depositor", toJson depositor),
      ("reservations", .list ((service.state.reservationsOf depositor).map Reservation.view))]
  | .redemption raw => do
    let key ← readKey raw
    return toJson (← found (service.state.redemptions.get? key) (.noRedemption key))
  | .wallet raw => do
    let name ← readWallet raw
    let wallet ← found (service.state.wallets.get? name) (.noWallet name)
    return .object [
      ("wallet", toJson wallet),
      ("pending_priority_redemptions", toJson (service.state.redemptionsOwedBy name))]
  | .balance raw => do
    let account : Identity := ⟨← parameter raw⟩
    let balance := service.ledger.balanceOf account
    return .object [
      ("account", toJson account),
      ("balance", toJson balance),
      ("balance_btc", .text (Text.coins balance))]

/-! ## §3. Commands. -/

/-- A wallet to be registered. -/
structure Registration where
  wallet : PubKeyHash
  state : WalletState
deriving DecidableEq, Repr

instance : FromJson Registration where
  fromJson? j := do
    let r ← j.record? ["wallet_pubkey_hash", "state"] 0
    return { wallet := ← r.field "wallet_pubkey_hash", state := ← r.field "state" }

/-- The state that a wallet is to move to. -/
structure Move where
  state : WalletState
deriving DecidableEq, Repr

instance : FromJson Move where
  fromJson? j := do
    let r ← j.record? ["state"] 0
    return { state := ← r.field "state" }

/-- Whether a vault is to be trusted. -/
structure Trust where
  vault : Identity
  trusted : Bool
deriving DecidableEq, Repr

instance : FromJson Trust where
  fromJson? j := do
    let r ← j.record? ["vault", "trusted"] 0
    return { vault := ← r.field "vault", trusted := ← r.field "trusted" }

/-- What comes of a request: the response, the service and the store after it, and what was put
into the journal. -/
structure Exchange (σ : Type) where
  response : Http.Response
  service : Service
  store : σ
  journal : List Journal.Entry

variable {σ : Type}

/-- The exchange that leaves everything as it was. -/
def Exchange.idle (service : Service) (store : σ) (response : Http.Response) : Exchange σ :=
  ⟨response, service, store, []⟩

/-- The exchange that tells the outcome of a command, which is shown beside the service after it. -/
def Exchange.ofOutcome {α : Type} (out : Outcome σ α) (present : Service → α → Http.Response) :
    Exchange σ where
  response :=
    match out.result with
    | .ok value => present out.service value
    | .error fault => (Complaint.refused fault).response
  service := out.service
  store := out.store
  journal := out.journal

/-- The response that shows a wallet. -/
def showWallet (status : Nat) (wallet : PubKeyHash) (service : Service) : Http.Response :=
  .json status (toJson (service.state.wallets.get? wallet))

/-- Hands a command to the service. -/
def Command.carryOut [Store σ] (service : Service) (store : σ) (env : Circumstances)
    (request : Http.Request) : Command → Reading (Exchange σ)
  | .reveal => do
    let depositor ← caller request
    let body : RevealRequest ← readBody request
    return .ofOutcome (service.reveal store env depositor body) fun service key =>
      match service.state.deposits.get? key with
      | some deposit => .json 201 deposit.view
      | none => (Complaint.noDeposit key).response
  | .settleSweep => do
    let relayer ← caller request
    let body : SweepRequest ← readBody request
    return .ofOutcome (service.settleSweep store env relayer body) fun _ outcome =>
      .json 200 (toJson outcome)
  | .reserve => do
    let depositor ← caller request
    let body : ReserveRequest ← readBody request
    return .ofOutcome (service.reserve store env depositor body) fun _ reservation =>
      .json 201 reservation.view
  | .redeem raw => do
    let redeemer ← caller request
    let key ← readKey raw
    return .ofOutcome (service.redeem store env redeemer key) fun _ redemption =>
      .json 200 (toJson redemption)
  | .liquidate raw => do
    let liquidator ← caller request
    let key ← readKey raw
    return .ofOutcome (service.liquidate store env liquidator key) fun _ bonus =>
      .json 200 (.object [
        ("utxo_hash", toJson key),
        ("liquidator", toJson liquidator),
        ("liquidation_bonus", toJson bonus)])
  | .registerWallet => do
    let body : Registration ← readBody request
    return .ofOutcome (service.registerWallet store env body.wallet body.state) fun service _ =>
      showWallet 201 body.wallet service
  | .setWalletState raw => do
    let wallet ← readWallet raw
    let body : Move ← readBody request
    return .ofOutcome (service.setWalletState store env wallet body.state) fun service _ =>
      showWallet 200 wallet service
  | .setVaultStatus => do
    let body : Trust ← readBody request
    return .ofOutcome (service.setVaultStatus store env body.vault body.trusted) fun _ _ =>
      .json 200 (.object [("vault", toJson body.vault), ("trusted", toJson body.trusted)])

/-! ## §4. Exchanges. -/

/-- The response to a query. -/
def Query.respond (service : Service) (request : Http.Request) (query : Query) : Http.Response :=
  match query.answer service request with
  | .ok body => .json 200 body
  | .error response => response

/-- Answers a request by a method, which may differ from its own. -/
def route [Store σ] (service : Service) (store : σ) (env : Circumstances) (method : String)
    (request : Http.Request) : Exchange σ :=
  match Route.ofPath? request.target.path with
  | none => .idle service store (.bare 404)
  | some (.query query) =>
    if method = "GET" then .idle service store (query.respond service request)
    else .idle service store (.bare 405)
  | some (.command command) =>
    if method = "POST" then
      match command.carryOut service store env request with
      | .ok exchange => exchange
      | .error response => .idle service store response
    else .idle service store (.bare 405)

/-- Answers a request under an identifier, by which the journal ties it to its response. -/
def respond [Store σ] (service : Service) (store : σ) (env : Circumstances) (id : String)
    (request : Http.Request) : Exchange σ :=
  if request.method = "OPTIONS" then .idle service store (.bare 200)
  else
    -- The journal keeps the method that was asked for, also where another one answers.
    let head := request.method = "HEAD"
    let exchange := route service store env (if head then "GET" else request.method) request
    let path := request.target.path
    { exchange with
      response := if head then .bare exchange.response.status else exchange.response
      journal := Journal.requested request.method path id :: exchange.journal
        ++ [Journal.answered request.method path exchange.response.status id] }

/-- Only a request by POST changes service or store. -/
theorem respond_unchanged [Store σ] (service : Service) (store : σ) (env : Circumstances)
    (id : String) {request : Http.Request} (h : request.method ≠ "POST") :
    (respond service store env id request).service = service ∧
      (respond service store env id request).store = store := by
  have idle : ∀ method ≠ "POST", (route service store env method request).service = service ∧
      (route service store env method request).store = store := by
    intro method hm
    unfold route
    split
    · exact ⟨rfl, rfl⟩
    · split <;> exact ⟨rfl, rfl⟩
    · simp [hm, Exchange.idle]
  unfold respond
  split
  · exact ⟨rfl, rfl⟩
  · apply idle
    split
    · decide
    · exact h

end Custody.Api
