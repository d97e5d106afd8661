/-
  Custody.CommandLine
  ────────────────────────────────
  **WHAT AN OPERATOR TYPES.**

  Without arguments the program shows how it is used, whatever the variables
  say.  With arguments the configuration is read first, and a fault in it ends
  the run.  Then the first argument chooses: to serve requests, to show the
  configuration, or, for anything else, the usage again.  The TCP port
  may be named once more on the command line; the last one counts, and
  arguments that are not known are passed over.

  Main fact: `withPorts_params` — the command line changes nothing but the TCP
  port.
-/
import Custody.Fault

namespace Custody.CommandLine

/-! ## §1. Texts. -/

/-- How the program is used. -/
def usage : List String := [
  "BTC Settlement - Sweep Settlement & Reserved Deposits",
  "",
  "Usage:",
  "  settlement api [--port <port>]   Start REST API server (default: 3001)",
  "  settlement config                Print loaded configuration",
  "",
  "Environment Variables:",
  "  SETTLEMENT_NETWORK        mainnet | testnet | regtest (default: regtest)",
  "  SETTLEMENT_API_PORT       REST API port (default: 3001)",
  "  SETTLEMENT_DB_PATH        SQLite database (default: data/settlement.db)",
  "  SETTLEMENT_TREASURY       Treasury account (required on mainnet)",
  "  SETTLEMENT_LOG_LEVEL      trace | debug | info | warn | error"]

/-- The address that requests are taken at. -/
def address (tcpPort : UInt16) : String := s!"0.0.0.0:{tcpPort}"

/-- What is shown when requests are about to be served. -/
def announcement (tcpPort : UInt16) : List String := [
  "=== BTC Settlement API ===",
  s!"Listening on http://{address tcpPort}",
  "",
  "Endpoints:",
  "  POST /api/deposits                       - Reveal a deposit",
  "  GET  /api/deposits/:key                  - Deposit status",
  "  POST /api/sweeps                         - Settle a proven sweep",
  "  POST /api/reservations                   - Reserve a funding UTXO",
  "  GET  /api/reservations/:hash             - Reservation status",
  "  POST /api/reservations/:hash/redeem      - Redeem before expiry",
  "  POST /api/reservations/:hash/liquidate   - Liquidate after expiry",
  "  GET  /api/depositors/:id/reservations    - Reservations of a depositor",
  "  GET  /api/balances/:id                   - Ledger balance",
  "  GET  /api/events?after=N                 - Event log",
  "  GET  /api/health                         - Health check",
  ""]

/-! ## §2. Tasks. -/

/-- What a run is to do. -/
inductive Task where
  | showUsage
  | showConfig (config : Config)
  | serve (config : Config)
deriving DecidableEq, Repr

/-- Why a run fails. -/
inductive Failure where
  /-- The configuration cannot be read. -/
  | config (fault : ConfigFault)
  /-- An argument is no TCP port. -/
  | badPort (text : String)
  /-- The service cannot be loaded. -/
  | load (fault : Fault)
  /-- Requests cannot be taken. -/
  | listen (reason : String)
deriving DecidableEq, Repr

/-- The wording of a failure. -/
def Failure.message : Failure → String
  | .config fault => s!"Configuration error: {fault.message}"
  | .badPort text => s!"Invalid port: {text}"
  | .load fault => s!"Failed to start settlement service: {fault.message}"
  | .listen reason => s!"API server error: {reason}"

/-- The configuration with the last TCP port that the arguments name. -/
def withPorts (config : Config) : List String → Except Failure Config
  | "--port" :: text :: rest =>
    match Text.readUInt16 text with
    | .ok tcpPort => withPorts { config with apiPort := tcpPort } rest
    | .error _ => .error (.badPort text)
  | _ :: rest => withPorts config rest
  | [] => .ok config

/-- The task that arguments and variables name. -/
def Task.ofArguments (vars : Variables) : List String → Except Failure Task
  | [] => .ok .showUsage
  | word :: rest => do
    let config ← (Config.ofVariables vars).mapError .config
    match word with
    | "api" => return .serve (← withPorts config rest)
    | "config" => return .showConfig config
    | _ => return .showUsage

/-- The arguments change nothing of a configuration but its TCP port. -/
theorem withPorts_params {config after : Config} {arguments : List String}
    (h : withPorts config arguments = .ok after) :
    after = { config with apiPort := after.apiPort } := by
  fun_induction withPorts config arguments with
  | case1 config text rest _ _ ih => simpa using ih h
  | case2 => cases h
  | case3 config _ rest _ ih => exact ih h
  | case4 config => cases h; rfl

/-! ## §3. Reports. -/

/-- What a run leaves behind: its exit code and the lines of its two channels. -/
structure Report where
  exit : UInt32
  output : List String
  errors : List String
deriving DecidableEq, Repr

/-- The report of a run that fails after it has shown some lines. -/
def Report.failed (shown : List String) (failure : Failure) : Report :=
  ⟨1, shown, [failure.message]⟩

/-- The report of a run that ends well. -/
def Report.done (shown : List String) : Report := ⟨0, shown, []⟩

/-- The report of a run in which a service ends as `serving` says: by a failure, or well. -/
def report (serving : Config → Option Failure) : Except Failure Task → Report
  | .error failure => .failed [] failure
  | .ok .showUsage => .done usage
  | .ok (.showConfig config) => .done config.summary
  | .ok (.serve config) =>
    match serving config with
    | some (.load fault) => .failed [] (.load fault)
    | some failure => .failed (announcement config.apiPort) failure
    | none => .done (announcement config.apiPort)

end Custody.CommandLine
