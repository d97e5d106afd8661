/-
  Custody.Config
  ────────────────────────────────
  **CONFIGURATION FROM NAMED VARIABLES.**

  Every setting has a variable and a default, except that the treasury account
  of the main network has to be named.  Variables are read in a fixed order
  and the first that cannot be read is the fault; the limits that tie several
  of them together are checked where the last of them has been read.
-/
import Custody.Params
import Custody.Text.Amount

namespace Custody

/-! ## §1. Networks. -/

/-- The networks that the service runs on. -/
inductive Network where
  | mainnet
  | testnet
  | regtest
deriving DecidableEq, Repr

/-- Why a configuration is refused. -/
inductive ConfigFault where
  | missing (name : String)
  | invalid (name reason : String)
deriving DecidableEq, Repr

namespace ConfigFault

/-- The wording of a fault. -/
def message : ConfigFault → String
  | .missing name => s!"missing required environment variable: {name}"
  | .invalid name reason => s!"invalid value for {name}: {reason}"

/-- Every fault of the configuration has one code. -/
def code (_ : ConfigFault) : String := "CONFIG_ERROR"

end ConfigFault

namespace Network

/-- The variable that the network is named by. -/
def setting : String := "SETTLEMENT_NETWORK"

/-- The network of a name in any case. -/
def ofText (text : String) : Except ConfigFault Network :=
  match text.map Char.toLower with
  | "mainnet" | "main" => .ok .mainnet
  | "testnet" | "test" => .ok .testnet
  | "regtest" | "dev" => .ok .regtest
  | _ => .error (.invalid setting s!"unknown network: {text}")

/-- The name of a network in a summary. -/
def title : Network → String
  | .mainnet => "Mainnet"
  | .testnet => "Testnet"
  | .regtest => "Regtest"

/-- The name that the chain of a network goes by. -/
def chain : Network → String
  | .mainnet => "bitcoin"
  | .testnet => "testnet"
  | .regtest => "regtest"

/-- The block explorer that serves the headers of a network unless another is configured. -/
def explorerAddress : Network → String
  | .mainnet => "https://blockstream.info/api"
  | .testnet => "https://blockstream.info/testnet/api"
  | .regtest => "http://127.0.0.1:3002"

end Network

/-! ## §2. Variables. -/

/-- The value of a variable, if it is set. -/
abbrev Variables := String → Option String

/-- A numeric variable, or the default if it is not set; blanks around it do not count. -/
def Variables.number {α : Type} (vars : Variables)
    (read : String → Except Text.NumeralFault α) (name : String) (default : α) :
    Except ConfigFault α :=
  match vars name with
  | none => .ok default
  | some raw =>
    match read (Text.trim raw) with
    | .ok value => .ok value
    | .error _ => .error (.invalid name s!"cannot parse {Text.quote raw}")

/-- A variable in satoshis, or the default if it is not set. -/
def Variables.amount (vars : Variables) (name : String) (default : UInt64) :
    Except ConfigFault UInt64 :=
  match vars name with
  | none => .ok default
  | some raw =>
    match Text.readAmount? raw with
    | some value => .ok value
    | none => .error (.invalid name s!"not a satoshi amount: {Text.quote raw}")

/-! ## §3. The configuration. -/

/-- All settings of the service. -/
structure Config where
  network : Network
  logLevel : String
  apiPort : UInt16
  databasePath : String
  params : Params
  /-- Confirmations that a sweep needs. -/
  confirmations : UInt32
  /-- The block explorer that serves the headers. -/
  explorerAddress : String
deriving DecidableEq, Repr

namespace Config

/-- The parameters of deposits. -/
def depositParams (vars : Variables) : Except ConfigFault DepositParams := do
  let default : DepositParams := {}
  return {
    dustThreshold := ← vars.amount "SETTLEMENT_DUST_THRESHOLD_SATS" default.dustThreshold
    treasuryFeeDivisor := ←
      vars.number Text.readUInt64 "SETTLEMENT_TREASURY_FEE_DIVISOR" default.treasuryFeeDivisor
    maxFeeShare := ← vars.amount "SETTLEMENT_TX_MAX_FEE_SATS" default.maxFeeShare }

/-- The parameters of reservations, within their limits. -/
def reservationParams (vars : Variables) : Except ConfigFault ReservationParams := do
  let default : ReservationParams := {}
  let params : ReservationParams := {
    storageFeeBps := ←
      vars.number Text.readUInt64 "SETTLEMENT_STORAGE_FEE_BPS" default.storageFeeBps
    minStorageFee := ← vars.amount "SETTLEMENT_MIN_STORAGE_FEE_SATS" default.minStorageFee
    liquidationBonusBps := ←
      vars.number Text.readUInt64 "SETTLEMENT_LIQUIDATION_BONUS_BPS" default.liquidationBonusBps
    minAmount := ← vars.amount "SETTLEMENT_MIN_RESERVATION_SATS" default.minAmount
    maxDays := ← vars.number Text.readUInt32 "SETTLEMENT_MAX_RESERVATION_DAYS" default.maxDays }
  if params.maxDays = 0 ∨ longestReservation < params.maxDays then
    throw (.invalid "SETTLEMENT_MAX_RESERVATION_DAYS" s!"must be in 1..={longestReservation}")
  if 10000 < params.liquidationBonusBps then
    throw (.invalid "SETTLEMENT_LIQUIDATION_BONUS_BPS" "cannot exceed 10000")
  return params

/-- The treasury account, which the main network has to name. -/
def treasuryAccount (vars : Variables) (network : Network) : Except ConfigFault Identity :=
  match vars "SETTLEMENT_TREASURY", network with
  | some name, _ => .ok ⟨name⟩
  | none, .mainnet => .error (.missing "SETTLEMENT_TREASURY")
  | none, _ => .ok ({} : Params).treasury

/-- The configuration that the variables give. -/
def ofVariables (vars : Variables) : Except ConfigFault Config := do
  let network ← Network.ofText ((vars Network.setting).getD "regtest")
  let apiPort ← vars.number Text.readUInt16 "SETTLEMENT_API_PORT" 3001
  let treasury ← treasuryAccount vars network
  let bridge := ((vars "SETTLEMENT_BRIDGE").map Identity.mk).getD ({} : Params).bridge
  if treasury = bridge then
    throw (.invalid "SETTLEMENT_TREASURY" "treasury and bridge must be different accounts")
  let deposit ← depositParams vars
  let reservation ← reservationParams vars
  let confirmations ← vars.number Text.readUInt32 "SETTLEMENT_PROOF_CONFIRMATIONS" 6
  return {
    network
    logLevel := (vars "SETTLEMENT_LOG_LEVEL").getD "info"
    apiPort
    databasePath := (vars "SETTLEMENT_DB_PATH").getD "data/settlement.db"
    params := { deposit, reservation, treasury, bridge }
    confirmations
    explorerAddress := (vars "SETTLEMENT_ESPLORA_URL").getD network.explorerAddress }

/-- The names of the variables that are read. -/
def settings : List String := [
  Network.setting, "SETTLEMENT_API_PORT", "SETTLEMENT_TREASURY", "SETTLEMENT_BRIDGE",
  "SETTLEMENT_DUST_THRESHOLD_SATS", "SETTLEMENT_TREASURY_FEE_DIVISOR",
  "SETTLEMENT_TX_MAX_FEE_SATS", "SETTLEMENT_STORAGE_FEE_BPS", "SETTLEMENT_MIN_STORAGE_FEE_SATS",
  "SETTLEMENT_LIQUIDATION_BONUS_BPS", "SETTLEMENT_MIN_RESERVATION_SATS",
  "SETTLEMENT_MAX_RESERVATION_DAYS", "SETTLEMENT_PROOF_CONFIRMATIONS", "SETTLEMENT_LOG_LEVEL",
  "SETTLEMENT_DB_PATH", "SETTLEMENT_ESPLORA_URL"]

/-- The lines of a summary of the configuration. -/
def summary (c : Config) : List String :=
  let d := c.params.deposit
  let r := c.params.reservation
  let divisor := if d.treasuryFeeDivisor = 0 then "disabled" else toString d.treasuryFeeDivisor
  [ "=== Settlement Configuration ===",
    s!"Network: {c.network.title} ({c.network.chain})",
    s!"API Port: {c.apiPort}",
    s!"Database: {c.databasePath}",
    s!"Treasury: {c.params.treasury}",
    s!"Bridge: {c.params.bridge}",
    s!"Dust Threshold: {Text.displayAmount d.dustThreshold}",
    s!"Treasury Fee Divisor: {divisor}",
    s!"Max Sweep Fee Share: {Text.displayAmount d.maxFeeShare}",
    s!"Proof Confirmations: {c.confirmations}",
    s!"Header Relay: {c.explorerAddress}",
    s!"Storage Fee: {r.storageFeeBps} bps/year",
    s!"Min Storage Fee: {Text.displayAmount r.minStorageFee}",
    s!"Liquidation Bonus: {r.liquidationBonusBps} bps",
    s!"Min Reservation: {Text.displayAmount r.minAmount}",
    s!"Max Reservation Days: {r.maxDays}",
    s!"Log Level: {c.logLevel}",
    "================================" ]

end Config

end Custody
