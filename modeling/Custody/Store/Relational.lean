/-
  Custody.Store.Relational
  ────────────────────────────────
  **A STORE OF RELATIONS.**

  Each table of the state, the balances and the events are a relation.  Hashes
  and names are kept as text, words by their bit pattern, events as JSON under
  their number.  A depositor's reservations are one row each with their place.
  A commit whose events take a number twice leaves nothing behind.

  What was written can be read again; what has been tampered with is refused
  with the reason that the first unreadable cell gives.

  Main facts:
    * `deposit_of_row`, `reservation_of_row`, `wallet_of_row`,
      `redemption_of_row` — rows are read back as the records they were
      written from.
-/
import Custody.Event.Diagnosis
import Custody.Json.Printer
import Custody.Store
import Custody.Store.Relation

namespace Custody

open Store (Cell Column Schema Row Relation RowView)

namespace Relational

/-! ## §1. Schemas. -/

/-- The relation of deposits. -/
def depositSchema : Schema := ⟨[
  .text "key", .text "funding_tx_hash", .integer "funding_output_index", .text "depositor",
  .text "wallet_pubkey_hash", .integer "amount", .integer "revealed_at", .integer "swept_at",
  .text "vault", .integer "treasury_fee", .text "extra_data"], 1⟩

/-- The relation of reservations. -/
def reservationSchema : Schema := ⟨[
  .text "utxo_hash", .text "depositor", .integer "btc_amount", .integer "tbtc_minted",
  .integer "treasury_fee", .integer "liquidation_bonus", .integer "sweep_fee",
  .integer "deposit_timestamp", .integer "expiry_timestamp", .text "btc_redemption_address",
  .text "wallet_pubkey_hash", .text "funding_tx_hash", .integer "funding_output_index",
  .text "status"], 1⟩

/-- The relation of wallets. -/
def walletSchema : Schema := ⟨[.text "pubkey_hash", .text "state", .text "main_utxo_hash"], 1⟩

/-- The relation of the depositors' reservations. -/
def indexSchema : Schema := ⟨[.text "depositor", .text "utxo_hash", .integer "position"], 2⟩

/-- The relation of redemptions. -/
def redemptionSchema : Schema := ⟨[
  .text "utxo_hash", .text "wallet_pubkey_hash", .text "redeemer", .text "redemption_address",
  .text "output_script", .integer "requested_amount", .integer "fee_allowance",
  .integer "requested_at"], 1⟩

/-- The relation of vaults. -/
def vaultSchema : Schema := ⟨[.text "vault", .integer "trusted"], 1⟩

/-- The relation of balances. -/
def balanceSchema : Schema := ⟨[.text "account", .integer "balance"], 1⟩

/-- The relation of events. -/
def eventSchema : Schema := ⟨[.integer "seq", .integer "at", .text "kind", .text "payload"], 1⟩

/-! ## §2. Rows. -/

/-- The cell of octets. -/
def cellOf {n : Nat} (a : Octets n) : Cell := .text a.hex

/-- The cell of a 32-bit word. -/
def cellOf32 (n : UInt32) : Cell := .ofWord n.toUInt64

/-- The cell of an identity. -/
def cellOfName (a : Identity) : Cell := .text a.name

/-- The row of a deposit. -/
def depositRow (d : Deposit) : Row := [
  cellOf d.key, cellOf d.fundingTxHash, cellOf32 d.fundingOutputIndex, cellOfName d.depositor,
  cellOf d.walletKeyHash, .ofWord d.amount, .ofWord d.revealedAt, .ofWord d.sweptAt,
  .ofText? (d.vault.map Identity.name), .ofWord d.treasuryFee,
  .ofText? (d.extraData.map Octets.hex)]

/-- The row of a reservation. -/
def reservationRow (r : Reservation) : Row := [
  cellOf r.key, cellOfName r.depositor, .ofWord r.amount, .ofWord r.minted,
  .ofWord r.treasuryFee, .ofWord r.liquidationBonus, .ofWord r.sweepFee, .ofWord r.reservedAt,
  .ofWord r.expiry, .text r.address.hex, cellOf r.walletKeyHash, cellOf r.fundingTxHash,
  cellOf32 r.fundingOutputIndex, .text r.status.name]

/-- The row of a wallet. -/
def walletRow (w : Wallet) : Row := [
  cellOf w.keyHash, .text w.state.name, .ofText? (w.mainOutputHash.map Octets.hex)]

/-- The row of one reservation of a depositor, at its place. -/
def indexRow (depositor : Identity) (place : Nat) (key : DepositKey) : Row := [
  cellOfName depositor, cellOf key, .ofWord (UInt64.ofNat place)]

/-- The row of a redemption. -/
def redemptionRow (p : PriorityRedemption) : Row := [
  cellOf p.key, cellOf p.walletKeyHash, cellOfName p.redeemer, .text p.address.hex,
  .text p.outputScript, .ofWord p.requestedAmount, .ofWord p.feeAllowance,
  .ofWord p.requestedAt]

/-- The row of a vault. -/
def vaultRow (vault : Identity × Bool) : Row :=
  [cellOfName vault.1, .ofWord (if vault.2 then 1 else 0)]

/-- The row of a balance. -/
def balanceRow (balance : Identity × UInt64) : Row := [cellOfName balance.1, .ofWord balance.2]

/-- The row of an event. -/
def eventRow (e : LoggedEvent) : Row := [
  .ofWord e.seq, .ofWord e.time, .text e.event.kind, .text (toJson e.event).print]

/-! ## §3. Records of rows. -/

/-- The stage that a text names, or the reason why it names none. -/
def walletStateOf (text : String) : Except String WalletState :=
  match WalletState.ofName? text with
  | some state => .ok state
  | none => .error (WalletState.unknownName text)

/-- The status that a text names, or the reason why it names none. -/
def statusOf (text : String) : Except String ReservationStatus :=
  match ReservationStatus.ofName? text with
  | some status => .ok status
  | none => .error (ReservationStatus.unknownName text)

/-- The deposit of a row. -/
def depositOf (cells : Row) : Except String Deposit := do
  let row : RowView := ⟨depositSchema, cells⟩
  return {
    key := ← row.octets 32 "key"
    fundingTxHash := ← row.octets 32 "funding_tx_hash"
    fundingOutputIndex := ← row.word32 "funding_output_index"
    depositor := ⟨← row.text "depositor"⟩
    walletKeyHash := ← row.octets 20 "wallet_pubkey_hash"
    amount := ← row.word "amount"
    revealedAt := ← row.word "revealed_at"
    sweptAt := ← row.word "swept_at"
    vault := (← row.text? "vault").map Identity.mk
    treasuryFee := ← row.word "treasury_fee"
    extraData := ← row.octets? 32 "extra_data" }

/-- The reservation of a row; its address is read before everything else. -/
def reservationOf (cells : Row) : Except String Reservation := do
  let row : RowView := ⟨reservationSchema, cells⟩
  let address ← RowView.parse RedemptionAddress.ofHex (← row.text "btc_redemption_address")
  return {
    key := ← row.octets 32 "utxo_hash"
    depositor := ⟨← row.text "depositor"⟩
    amount := ← row.word "btc_amount"
    minted := ← row.word "tbtc_minted"
    treasuryFee := ← row.word "treasury_fee"
    liquidationBonus := ← row.word "liquidation_bonus"
    sweepFee := ← row.word "sweep_fee"
    reservedAt := ← row.word "deposit_timestamp"
    expiry := ← row.word "expiry_timestamp"
    address
    walletKeyHash := ← row.octets 20 "wallet_pubkey_hash"
    fundingTxHash := ← row.octets 32 "funding_tx_hash"
    fundingOutputIndex := ← row.word32 "funding_output_index"
    status := ← RowView.parse statusOf (← row.text "status") }

/-- The wallet of a row; the digest of its main output is read before everything else. -/
def walletOf (cells : Row) : Except String Wallet := do
  let row : RowView := ⟨walletSchema, cells⟩
  let mainOutputHash ← row.octets? 32 "main_utxo_hash"
  return {
    keyHash := ← row.octets 20 "pubkey_hash"
    state := ← RowView.parse walletStateOf (← row.text "state")
    mainOutputHash }

/-- The redemption of a row; its address is read before everything else. -/
def redemptionOf (cells : Row) : Except String PriorityRedemption := do
  let row : RowView := ⟨redemptionSchema, cells⟩
  let address ← RowView.parse RedemptionAddress.ofHex (← row.text "redemption_address")
  return {
    key := ← row.octets 32 "utxo_hash"
    walletKeyHash := ← row.octets 20 "wallet_pubkey_hash"
    redeemer := ⟨← row.text "redeemer"⟩
    address
    outputScript := ← row.text "output_script"
    requestedAmount := ← row.word "requested_amount"
    feeAllowance := ← row.word "fee_allowance"
    requestedAt := ← row.word "requested_at" }

/-- The depositor and the key of a row of the index. -/
def indexEntryOf (cells : Row) : Except String (Identity × DepositKey) := do
  let row : RowView := ⟨indexSchema, cells⟩
  return (⟨← row.text "depositor"⟩, ← row.octets 32 "utxo_hash")

/-- The vault of a row; every number but zero means trust. -/
def vaultOf (cells : Row) : Except String (Identity × Bool) := do
  let row : RowView := ⟨vaultSchema, cells⟩
  return (⟨← row.text "vault"⟩, (← row.word "trusted") != 0)

/-- The balance of a row. -/
def balanceOf (cells : Row) : Except String (Identity × UInt64) := do
  let row : RowView := ⟨balanceSchema, cells⟩
  return (⟨← row.text "account"⟩, ← row.word "balance")

/-- The event of a text. -/
def payloadOf (text : String) : Except String Event :=
  match Json.read? text with
  | some event => .ok event
  | none => .error (Event.diagnose text)

/-- The event of a row; its kind is not read again. -/
def eventOf (cells : Row) : Except String LoggedEvent := do
  let row : RowView := ⟨eventSchema, cells⟩
  let event ← RowView.parse payloadOf (← row.text "payload")
  return { seq := ← row.word "seq", time := ← row.word "at", event }

end Relational

/-! ## §4. Contents. -/

/-- The relations of a store. -/
structure Relational where
  deposits : Relation := []
  reservations : Relation := []
  wallets : Relation := []
  index : Relation := []
  redemptions : Relation := []
  vaults : Relation := []
  balances : Relation := []
  events : Relation := []
deriving DecidableEq

namespace Relational

/-- The store without rows. -/
def empty : Relational := {}

/-- The rows of a depositor's reservations, in order. -/
def indexRows (entry : Identity × List DepositKey) : List Row :=
  entry.2.mapIdx fun place key => indexRow entry.1 place key

/-- Puts rows in, one after the other. -/
def upsertAll (schema : Schema) (rows : Relation) (added : List Row) : Relation :=
  added.foldl (Relation.upsert schema) rows

/-- Puts the rows of a change in. -/
def write (db : Relational) (delta : Delta) : Relational :=
  { db with
    deposits := upsertAll depositSchema db.deposits (delta.deposits.map depositRow)
    reservations :=
      upsertAll reservationSchema db.reservations (delta.reservations.map reservationRow)
    wallets := upsertAll walletSchema db.wallets (delta.wallets.map walletRow)
    index := upsertAll indexSchema db.index (delta.index.flatMap indexRows)
    redemptions := upsertAll redemptionSchema db.redemptions (delta.redemptions.map redemptionRow)
    vaults := upsertAll vaultSchema db.vaults (delta.vaults.map vaultRow) }

/-- Adds events, each of which needs a number of its own. -/
def addEvents (rows : Relation) : List LoggedEvent → Except StoreFault Relation
  | [] => .ok rows
  | event :: rest =>
    if rows.hasKeyOf eventSchema (eventRow event) then .error (.takenNumber event.seq)
    else addEvents (rows ++ [eventRow event]) rest

/-- Brings a commit. -/
def commit (db : Relational) (delta : Delta) (events : List LoggedEvent)
    (balances : List (Identity × UInt64)) : Except StoreFault Relational := do
  let db := db.write delta
  let balances := upsertAll balanceSchema db.balances (balances.map balanceRow)
  let events ← addEvents db.events events
  return { db with balances, events }

/-! ## §5. Reading. -/

/-- Reads rows in order up to the first that cannot be read. -/
def readAll {α : Type} (fault : String → StoreFault) (read : Row → Except String α)
    (rows : List Row) : Except StoreFault (List α) :=
  (rows.mapM read).mapError fault

/-- The index of entries in the order of their places. -/
def indexOf (entries : List (Identity × DepositKey)) : Table Identity (List DepositKey) :=
  entries.foldl
    (fun index (depositor, key) =>
      index.insert depositor ((index.get? depositor).getD [] ++ [key]))
    Table.empty

/-- The index rows of each depositor in the order of their places, and of their keys where places
are alike. -/
def sortedIndex (rows : Relation) : List Row :=
  rows.sortedBy indexSchema ["depositor", "position", "utxo_hash"]

/-- The event rows in the order of their numbers. -/
def sortedEvents (rows : Relation) : List Row := rows.sortedBy eventSchema ["seq"]

/-- Reads the whole state and all events. -/
def load (db : Relational) : Except StoreFault (State × List LoggedEvent) := do
  let deposits ← readAll .invalidData depositOf db.deposits
  let reservations ← readAll .invalidData reservationOf db.reservations
  let wallets ← readAll .invalidData walletOf db.wallets
  let redemptions ← readAll .invalidData redemptionOf db.redemptions
  let index ← readAll .invalidData indexEntryOf (sortedIndex db.index)
  let vaults ← readAll .invalidData vaultOf db.vaults
  let events ← readAll .invalidData eventOf (sortedEvents db.events)
  return ({
    deposits := Table.ofValues Deposit.key deposits
    reservations := Table.ofValues Reservation.key reservations
    wallets := Table.ofValues Wallet.keyHash wallets
    index := indexOf index
    redemptions := Table.ofValues PriorityRedemption.key redemptions
    vaults := Table.ofList vaults }, events)

/-- Reads all balances in the order of the accounts. -/
def loadBalances (db : Relational) : Except StoreFault (List (Identity × UInt64)) :=
  readAll .invalidData balanceOf (db.balances.sortedBy balanceSchema ["account"])

/-- Reads the row under a key, if there is one. -/
def readKey {α : Type} (schema : Schema) (read : Row → Except String α) (rows : Relation)
    (key : Cell) : Except StoreFault (Option α) :=
  match rows.find? fun row => schema.key row == [key] with
  | none => .ok none
  | some row => ((read row).mapError .database).map some

/-- Reads the reservations of a depositor in the order of their places, as far as they exist. -/
def reservationsOf (db : Relational) (depositor : Identity) :
    Except StoreFault (List Reservation) :=
  -- A key of the index without a reservation is passed over.
  let own := (sortedIndex db.index).filter fun row => row[0]? == some (cellOfName depositor)
  let joined := own.filterMap fun entry =>
    db.reservations.find? fun row => row[0]? == entry[1]?
  readAll .database reservationOf joined

/-- Reads the events after a number; numbers compare as the signed integers they are kept as. -/
def eventsSince (db : Relational) (after : UInt64) : Except StoreFault (List LoggedEvent) :=
  let later := (sortedEvents db.events).filter fun (row : Row) =>
    match row[0]? with
    | some (Cell.integer seq) => decide (after.toInt64 < seq)
    | _ => false
  readAll .database eventOf later

instance : Store Relational where
  commit := commit
  load := load
  loadBalances := loadBalances
  deposit? db key := readKey depositSchema depositOf db.deposits (cellOf key)
  reservation? db key := readKey reservationSchema reservationOf db.reservations (cellOf key)
  reservationsOf := reservationsOf
  eventsSince := eventsSince

/-! ## §6. Queries. -/

/-- The query of a relation: its rows, read as records, find their place in what was read. -/
def query {α : Type} (read : Row → Except String α) (rows : Relational → List Row)
    (put : List α → State × List LoggedEvent → State × List LoggedEvent) : Query Relational :=
  fun db before => do
    let records ← readAll .invalidData read (rows db)
    return put records before

/-- The queries of a load that come after that of the deposits; that of the events is the last. -/
def furtherQueries : List (Query Relational) := [
  query reservationOf (·.reservations) fun records (state, events) =>
    ({ state with reservations := Table.ofValues Reservation.key records }, events),
  query walletOf (·.wallets) fun records (state, events) =>
    ({ state with wallets := Table.ofValues Wallet.keyHash records }, events),
  query redemptionOf (·.redemptions) fun records (state, events) =>
    ({ state with redemptions := Table.ofValues PriorityRedemption.key records }, events),
  query indexEntryOf (fun db => sortedIndex db.index) fun entries (state, events) =>
    ({ state with index := indexOf entries }, events),
  query vaultOf (·.vaults) fun vaults (state, events) =>
    ({ state with vaults := Table.ofList vaults }, events),
  query eventOf (fun db => sortedEvents db.events) fun events (state, _) => (state, events)]

/-- Every relation is read by a query of its own, in no transaction. -/
instance : QueriedStore Relational where
  first := query depositOf (·.deposits) fun records (state, events) =>
    ({ state with deposits := Table.ofValues Deposit.key records }, events)
  rest := furtherQueries
  load_eq db := by
    show load db = _
    simp only [load, Query.all, furtherQueries, query, List.foldlM_cons, List.foldlM_nil,
      bind_assoc, pure_bind, State.empty]

/-! ## §7. Rows are read back. -/

theorem parse_readOctets {n : Nat} (a : Octets n) :
    RowView.parse (RowView.readOctets n) a.hex = .ok a := by
  simp only [RowView.parse, RowView.readOctets, Octets.hex, Hex.decodeExact_encode]
  rfl

theorem parse_address (a : RedemptionAddress) :
    RowView.parse RedemptionAddress.ofHex a.hex = .ok a := by
  rw [RowView.parse, RedemptionAddress.ofHex_hex]
  rfl

theorem parse_status (status : ReservationStatus) :
    RowView.parse statusOf status.name = .ok status := by
  rw [RowView.parse, statusOf, ReservationStatus.ofName?_name]
  rfl

theorem parse_state (state : WalletState) :
    RowView.parse walletStateOf state.name = .ok state := by
  rw [RowView.parse, walletStateOf, WalletState.ofName?_name]
  rfl

/-- A deposit is read back from its row. -/
theorem deposit_of_row (d : Deposit) : depositOf (depositRow d) = .ok d := by
  obtain ⟨key, txHash, index, depositor, wallet, amount, revealed, swept, vault, fee, extra⟩ := d
  cases vault <;> cases extra <;>
    simp [depositOf, depositRow, RowView.octets, RowView.octets?, RowView.text, RowView.text?,
      RowView.word, RowView.word32, RowView.integer, RowView.cell, Schema.place, depositSchema,
      Column.text, Column.integer, List.findIdx, List.findIdx.go, cellOf, cellOf32, cellOfName,
      Cell.ofWord, Cell.ofText?, parse_readOctets, bind, Except.bind, pure, Except.pure,
      Except.map]

theorem reservation_of_row (r : Reservation) : reservationOf (reservationRow r) = .ok r := by
  simp [reservationOf, reservationRow, RowView.octets, RowView.text, RowView.word,
    RowView.word32, RowView.integer, RowView.cell, Schema.place, reservationSchema, Column.text,
    Column.integer, List.findIdx, List.findIdx.go, cellOf, cellOf32, cellOfName, Cell.ofWord,
    parse_readOctets, parse_address, parse_status, bind, Except.bind, pure, Except.pure,
    Except.map]

theorem wallet_of_row (w : Wallet) : walletOf (walletRow w) = .ok w := by
  obtain ⟨keyHash, state, mainOutputHash⟩ := w
  cases mainOutputHash <;>
    simp [walletOf, walletRow, RowView.octets, RowView.octets?, RowView.text, RowView.text?,
      RowView.cell, Schema.place, walletSchema, Column.text, List.findIdx, List.findIdx.go,
      cellOf, Cell.ofText?, parse_readOctets, parse_state, bind, Except.bind, pure, Except.pure]

theorem redemption_of_row (p : PriorityRedemption) : redemptionOf (redemptionRow p) = .ok p := by
  simp [redemptionOf, redemptionRow, RowView.octets, RowView.text, RowView.word,
    RowView.integer, RowView.cell, Schema.place, redemptionSchema, Column.text, Column.integer,
    List.findIdx, List.findIdx.go, cellOf, cellOfName, Cell.ofWord, parse_readOctets,
    parse_address, bind, Except.bind, pure, Except.pure, Except.map]

end Relational

end Custody
