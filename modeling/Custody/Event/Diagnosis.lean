/-
  Custody.Event.Diagnosis
  ────────────────────────────────
  **WHY A TEXT IS NO EVENT.**

  The kind of an event is looked at where it stands, so a kind that there is
  not is noticed before what follows it in the text.  The fields are looked at
  after the whole event was read; what is wrong with them has no place.

  Main fact: `fieldsOf_kind` — there are fields for every kind of event.
-/
import Custody.Event
import Custody.Json.Diagnosis

namespace Custody.Event

/-! ## §1. The fields of each kind. -/

/-- A field that a key or the hash of a transaction stands in. -/
def digestField (name : String) : Json.Field := { name, check := Json.checkOctets 32 }

/-- A field that a wallet stands in. -/
def walletField (name : String) : Json.Field := { name, check := Json.checkOctets 20 }

/-- A field that an account stands in. -/
def nameField (name : String) : Json.Field := { name, check := Json.checkText }

/-- A field that an amount or a time stands in. -/
def wordField (name : String) : Json.Field := { name, check := Json.checkNat "u64" UInt64.size }

/-- A field that the index of an output stands in. -/
def indexField (name : String) : Json.Field := { name, check := Json.checkNat "u32" UInt32.size }

/-- A field that a number of things stands in. -/
def countField (name : String) : Json.Field := { name, check := Json.checkNat "usize" UInt64.size }

/-- A field that yes or no stands in. -/
def flagField (name : String) : Json.Field := { name, check := Json.checkBool }

/-- A field that the stage of a wallet stands in. -/
def stageField (name : String) : Json.Field :=
  { name, check := Json.checkSymbol (WalletState.all.map WalletState.name) }

/-- The field that a main output stands in. -/
def mainOutputField (name : String) : Json.Field where
  name
  check := Json.checkRecord "struct MainUtxo"
    [digestField "tx_hash", indexField "output_index", wordField "value"]

/-- The fields of an event of a kind. -/
def fieldsOf (kind : String) : Option (List Json.Field) :=
  match kind with
  | "deposit_revealed" => some [
      digestField "key", digestField "funding_tx_hash", indexField "funding_output_index",
      nameField "depositor", walletField "wallet_pubkey_hash", wordField "amount",
      { name := "vault", check := Json.checkOption Json.checkText, spare := true },
      wordField "treasury_fee", flagField "reserved"]
  | "deposit_settled" => some [
      digestField "key", nameField "depositor", digestField "sweep_tx_hash",
      wordField "credited", wordField "fee_share", wordField "treasury_fee"]
  | "deposits_swept" => some [
      walletField "wallet_pubkey_hash", digestField "sweep_tx_hash", countField "deposit_count",
      wordField "total_fee"]
  | "main_utxo_updated" => some [
      walletField "wallet_pubkey_hash", mainOutputField "main_utxo"]
  | "reservation_created" => some [
      digestField "utxo_hash", nameField "depositor", wordField "btc_amount",
      wordField "tbtc_minted", wordField "treasury_fee", wordField "liquidation_bonus",
      wordField "expiry_timestamp"]
  | "reservation_activated" => some [
      digestField "utxo_hash", wordField "sweep_fee", wordField "tbtc_minted"]
  | "reservation_redeemed" => some [
      digestField "utxo_hash", nameField "redeemer", wordField "tbtc_burned",
      wordField "liquidation_bonus"]
  | "reservation_liquidated" => some [
      digestField "utxo_hash", nameField "liquidator", wordField "liquidation_bonus"]
  | "priority_redemption_requested" => some [
      digestField "utxo_hash", walletField "wallet_pubkey_hash", wordField "requested_amount",
      wordField "fee_allowance"]
  | "wallet_registered" => some [walletField "wallet_pubkey_hash", stageField "state"]
  | "wallet_state_changed" => some [
      walletField "wallet_pubkey_hash", stageField "from", stageField "to"]
  | "vault_status_updated" => some [nameField "vault", flagField "trusted"]
  | _ => none

/-- For every kind of event the fields are known that it has to have. -/
theorem fieldsOf_kind (e : Event) : (fieldsOf e.kind).isSome := by
  cases e <;> rfl

/-- A kind with each of its words capitalized. -/
def title (kind : String) : String :=
  let capitals := (kind.splitOn "_").map fun word =>
    match word.toList with
    | [] => []
    | c :: rest => c.toUpper :: rest
  s!"struct variant SettlementEvent::{String.ofList capitals.flatten}"

/-- Says what is wrong with the fields of an event. -/
def checkFields (kind : String) (rest : Json) : Option String :=
  (fieldsOf kind).bind fun fields => Json.checkRecord (title kind) fields rest

/-! ## §2. The text. -/

/-- What an event is said to be where it is missing. -/
def wanted : String := "internally tagged enum SettlementEvent"

/-- Refuses what stands in front of `rest`. -/
def refuse {α : Type} (wording : String) (rest : List Char) : Except Json.Refusal α :=
  .error ⟨wording, some rest.length⟩

/-- Takes off a kind. -/
def scanKind : Json.Scan String := fun cs =>
  match Json.skipSpace cs with
  | '"' :: rest => do
    let (kind, rest) ← Json.scanQuoted rest
    if kind ∈ kinds then return (kind, rest)
    else refuse (Json.unknownVariant kind kinds) rest
  | '[' :: rest => refuse (Json.wrongKind (.list []) "variant identifier") ('[' :: rest)
  | '\x7b' :: rest => refuse (Json.wrongKind (.object []) "variant identifier") ('\x7b' :: rest)
  | cs => do
    let (value, rest) ← Json.scanScalar cs
    refuse (value.wrongKind "variant identifier") rest

/-- Takes off what stands behind a name in an event; `kind` is its kind, once that was there. -/
def scanMember (kind : Option String) (name : String) : Json.Scan (Option String) := fun cs => do
  if name = tag then
    if kind.isSome then
      -- The brace that closes the event is still taken off before the place is noted.
      match Json.skipSpace cs with
      | '\x7d' :: rest => refuse s!"duplicate field `{tag}`" rest
      | rest => refuse s!"duplicate field `{tag}`" rest
    else
      let (kind, rest) ← scanKind (← Json.scanColon cs)
      return (some kind, rest)
  else return (kind, ← Json.scanValue (Json.deepest - 1) (← Json.scanColon cs))

/-- Takes off an event. -/
def scan : Json.Scan String := fun cs =>
  match Json.skipSpace cs with
  | '\x7b' :: rest => do
    match ← Json.scanMembers scanMember (rest.length + 1) true none rest with
    | (some kind, rest) => return (kind, rest)
    | (none, rest) => refuse s!"missing field `{tag}`" rest
  | '[' :: rest =>
    match Json.skipSpace rest with
    | [] => Json.stop .endInList []
    | ']' :: rest => refuse s!"missing field `{tag}`" rest
    | rest => do
      let (kind, rest) ← scanKind rest
      let item := Json.scanValue (Json.deepest - 1)
      return (kind, ← Json.scanItems item (rest.length + 1) false rest)
  | cs => do
    let (value, rest) ← Json.scanScalar cs
    refuse (value.wrongKind wanted) rest

/-- Goes over the text of an event. -/
def examine (text : String) : Except Json.Refusal Unit := do
  let (_, rest) ← scan (Json.octets text)
  match (Json.parseFirst? .whole text).bind fun j => j.variant? tag with
  | some (kind, fields) =>
    match checkFields kind fields with
    | some wording => .error ⟨wording, none⟩
    | none => Json.scanEnd rest
  | none => Json.scanEnd rest

/-- Why a text is no event. -/
def diagnose (text : String) : String :=
  match examine text with
  | .error refusal => refusal.describe text
  | .ok _ => "no event"

end Custody.Event
