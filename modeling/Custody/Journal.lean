/-
  Custody.Journal
  ────────────────────────────────
  **LOG RECORDS.**

  Whatever the service does for a client leaves records in its journal: one
  for each event, each rejected command, each ledger batch, each request and
  each answer.  A record has a level, a category and a message, and may carry
  an identifier that ties it to others, data, a duration and an error.  The
  time of a record is put in by whoever writes it down.
-/
import Custody.Json.Printer
import Custody.Json.Record

namespace Custody.Journal

/-! ## §1. Levels and categories. -/

/-- How much a record matters. -/
inductive Level where
  | trace
  | debug
  | info
  | warn
  | error
deriving DecidableEq, Repr

namespace Level

/-- The level of a name in any case; any other text means `info`. -/
def ofText (text : String) : Level :=
  match text.map Char.toLower with
  | "trace" => .trace
  | "debug" => .debug
  | "warn" | "warning" => .warn
  | "error" => .error
  | _ => .info

/-- How grave a level is. -/
def rank : Level → Nat
  | .trace => 0
  | .debug => 1
  | .info => 2
  | .warn => 3
  | .error => 4

/-- The name of a level as a word. -/
def title : Level → String
  | .trace => "Trace"
  | .debug => "Debug"
  | .info => "Info"
  | .warn => "Warn"
  | .error => "Error"

/-- The name of a level in a record. -/
def name (level : Level) : String := level.title.map Char.toUpper

end Level

/-- What a record is about. -/
inductive Topic where
  | api
  | deposit
  | sweep
  | reservation
  | ledger
  | setup
  | rejection
  | system
deriving DecidableEq, Repr

namespace Topic

/-- The name of a topic. -/
def name : Topic → String
  | .api => "api"
  | .deposit => "deposit"
  | .sweep => "sweep"
  | .reservation => "reservation"
  | .ledger => "ledger"
  | .setup => "setup"
  | .rejection => "rejection"
  | .system => "system"

/-- Where records of a topic are sent. -/
def target (topic : Topic) : String := "settlement::" ++ topic.name

/-- The topic of events of a kind. -/
def ofEventKind (kind : String) : Topic :=
  match kind with
  | "deposit_revealed" => .deposit
  | "deposit_settled" | "deposits_swept" | "main_utxo_updated" => .sweep
  | "wallet_registered" | "wallet_state_changed" | "vault_status_updated" => .setup
  | _ => .reservation

end Topic

/-! ## §2. Records. -/

/-- A structured record. -/
structure Record where
  level : Level
  topic : Topic
  message : String
  correlation : Option String := none
  data : Option Json := none
  duration : Option UInt64 := none
  /-- Code and wording of an error. -/
  error : Option (String × String) := none

/-- A record as JSON; what it does not carry is left out. -/
instance : ToJson Record where
  toJson r := .object (
    [ ("level", .text r.level.name),
      ("category", .text r.topic.name),
      ("message", .text r.message) ]
    ++ (r.correlation.map fun id => ("correlation_id", Json.text id)).toList
    ++ (r.data.map fun data => ("data", data)).toList
    ++ (r.duration.map fun millis => ("duration_ms", toJson millis)).toList
    ++ (r.error.map fun (code, message) =>
        ("error", Json.object [("code", .text code), ("message", .text message)])).toList)

/-- A line of the journal: a record, or a plain note. -/
inductive Entry where
  | record (r : Record)
  | note (level : Level) (target text : String)

namespace Entry

/-- Where an entry is sent. -/
def target : Entry → String
  | .record r => r.topic.target
  | .note _ target _ => target

/-- The level of an entry. -/
def level : Entry → Level
  | .record r => r.level
  | .note level _ _ => level

/-- What an entry says. -/
def content : Entry → Json
  | .record r => toJson r
  | .note _ _ text => .text text

end Entry

/-! ## §3. The records that are kept. -/

/-- The place of the service's own notes. -/
def serviceTarget : String := "settlement::service"

/-- An event that was committed under a number. -/
def committed (kind : String) (seq : UInt64) (event : Json) : Entry :=
  .record {
    level := .info
    topic := Topic.ofEventKind kind
    message := kind
    correlation := some (toString seq)
    data := some event }

/-- A command that was rejected. -/
def rejected (command : String) (caller : Option Identity) (code message : String) : Entry :=
  .record {
    level := .warn
    topic := .rejection
    message := command
    data := some (.object [("command", .text command), ("caller", toJson caller)])
    error := some (code, message) }

/-- A batch of ledger operations that was applied, with the number of its first event. -/
def batchApplied (command : String) (operations : Nat) (first : Option UInt64) : Entry :=
  .record {
    level := .debug
    topic := .ledger
    message := "ledger batch applied"
    correlation := first.map toString
    data := some (.object [("command", .text command), ("ops", .ofNat operations)]) }

/-- A request, under the identifier that its answer shares. -/
def requested (method path id : String) : Entry :=
  .record {
    level := .info
    topic := .api
    message := s!"{method} {path}"
    correlation := some id
    data := some (.object [("method", .text method), ("path", .text path)]) }

/-- The level of an answer with a status. -/
def answerLevel (status : Nat) : Level :=
  if 500 ≤ status then .error else if 400 ≤ status then .warn else .info

/-- An answer to a request. -/
def answered (method path : String) (status : Nat) (id : String) : Entry :=
  .record {
    level := answerLevel status
    topic := .api
    message := s!"{method} {path} -> {status}"
    correlation := some id
    data := some (.object [
      ("method", .text method), ("path", .text path), ("status", .ofNat status)]) }

/-- Something that happened to the process itself. -/
def system (message : String) (data : Json) : Entry :=
  .record { level := .info, topic := .system, message, data := some data }

end Custody.Journal
