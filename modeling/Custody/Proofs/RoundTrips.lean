/-
  Custody.Proofs.RoundTrips
  ────────────────────────────────
  **WHAT TRAVELS IS READ BACK.**

  Transactions, proofs, records, parameters, events, ledger operations and
  requests are read back from their JSON, and from what their forms allow
  besides.  A record says of every member whether it may be left out; bytes
  are marked by their types.  In a union the kind stands among the fields, and
  a logged event or a request has the fields of two records in one object.

  Main facts:
    * `Event.ofFields_of_holds`  — an event is read wherever its fields are found;
    * `Funding.ofRecord_of_holds` — so is a funding output among those of a request;
    * `forms_round_trip`          — all that travels is read back.
-/
import Custody.Command.Sweep
import Custody.Event
import Custody.Ledger
import Custody.Proofs.Parts

namespace Custody

/-! ## §1. Records. -/

section Records

instance : HasForm WalletState := ⟨fun state => .fixed (toJson state)⟩
instance : RoundTrips WalletState := .of_fixed (fun _ => rfl) WalletState.ofName?_name

instance : HasForm ReservationStatus := ⟨fun status => .fixed (toJson status)⟩
instance : RoundTrips ReservationStatus := .of_fixed (fun _ => rfl) ReservationStatus.ofName?_name

instance : HasParts Tx where
  parts tx := [
    .of "version" tx.version,
    .bytes "input_vector" tx.inputVector,
    .bytes "output_vector" tx.outputVector,
    .of "locktime" tx.locktime]

instance : RoundTrips Tx := by
  refine .of_record (fun _ => rfl) (fun _ => rfl) (by decide) (fun _ => rfl) fun tx r gives => ?_
  simp only [parts, List.forall_mem_cons, Part.gives_of, Part.gives_bytes] at gives
  simp [gives]

instance : HasParts InclusionProof where
  parts p := [
    .of "block_hash" p.blockHash,
    .of "siblings" p.siblings,
    .of "tx_index" p.place]

instance : RoundTrips InclusionProof := by
  refine .of_record (fun _ => rfl) (fun _ => rfl) (by decide) (fun _ => rfl) fun p r gives => ?_
  simp only [parts, List.forall_mem_cons, Part.gives_of] at gives
  simp [gives]

instance : HasParts MainOutput where
  parts o := [
    .of "tx_hash" o.txHash,
    .of "output_index" o.index,
    .of "value" o.value]

instance : RoundTrips MainOutput := by
  refine .of_record (fun _ => rfl) (fun _ => rfl) (by decide) (fun _ => rfl) fun o r gives => ?_
  simp only [parts, List.forall_mem_cons, Part.gives_of] at gives
  simp [gives]

instance : RoundTrips (Option MainOutput) := .option rfl

/-- The digest of the main output may be null, but it has to be there. -/
instance : HasParts Wallet where
  parts w := [
    .of "pubkey_hash" w.keyHash,
    .of "state" w.state,
    .of "main_utxo_hash" w.mainOutputHash]

instance : RoundTrips Wallet := by
  refine .of_record (fun _ => rfl) (fun _ => rfl) (by decide) (fun _ => rfl) fun w r gives => ?_
  simp only [parts, List.forall_mem_cons, Part.gives_of] at gives
  simp [gives]

/-- A wallet is not read without that member. -/
theorem Wallet.fromJson?_of_missing {members : List (String × Json)}
    (missing : Json.lookup "main_utxo_hash" members = none) :
    fromJson? (α := Wallet) (.object members) = none := by
  show (Json.record? _ 0 (.object members)).bind _ = none
  rw [Option.bind_eq_none_iff]
  intro r found
  obtain ⟨-, same⟩ := Option.ite_none_right_eq_some.mp found
  cases same
  have absent : Json.Record.field (α := Option Digest) ⟨members⟩ "main_utxo_hash" = none := by
    rw [Json.Record.field, missing, Option.bind_none]
  simp [absent]

instance : HasParts Deposit where
  parts d := [
    .of "key" d.key,
    .of "funding_tx_hash" d.fundingTxHash,
    .of "funding_output_index" d.fundingOutputIndex,
    .of "depositor" d.depositor,
    .of "wallet_pubkey_hash" d.walletKeyHash,
    .of "amount" d.amount,
    .of "revealed_at" d.revealedAt,
    .of "swept_at" d.sweptAt,
    .spare "vault" d.vault,
    .of "treasury_fee" d.treasuryFee,
    .spare "extra_data" d.extraData]

instance : RoundTrips Deposit := by
  refine .of_record (fun _ => rfl) (fun _ => rfl) (by decide) (fun _ => rfl) fun d r gives => ?_
  simp only [parts, List.forall_mem_cons, Part.gives_of, Part.gives_spare] at gives
  simp [gives]

instance : HasParts Reservation where
  parts x := [
    .of "utxo_hash" x.key,
    .of "depositor" x.depositor,
    .of "btc_amount" x.amount,
    .of "tbtc_minted" x.minted,
    .of "treasury_fee" x.treasuryFee,
    .of "liquidation_bonus" x.liquidationBonus,
    .of "sweep_fee" x.sweepFee,
    .of "deposit_timestamp" x.reservedAt,
    .of "expiry_timestamp" x.expiry,
    .of "btc_redemption_address" x.address,
    .of "wallet_pubkey_hash" x.walletKeyHash,
    .of "funding_tx_hash" x.fundingTxHash,
    .of "funding_output_index" x.fundingOutputIndex,
    .of "status" x.status]

instance : RoundTrips Reservation := by
  refine .of_record (fun _ => rfl) (fun _ => rfl) (by decide) (fun _ => rfl) fun x r gives => ?_
  simp only [parts, List.forall_mem_cons, Part.gives_of] at gives
  simp [gives]

instance : HasParts PriorityRedemption where
  parts p := [
    .of "utxo_hash" p.key,
    .of "wallet_pubkey_hash" p.walletKeyHash,
    .of "redeemer" p.redeemer,
    .of "redemption_address" p.address,
    .of "output_script" p.outputScript,
    .of "requested_amount" p.requestedAmount,
    .of "fee_allowance" p.feeAllowance,
    .of "requested_at" p.requestedAt]

instance : RoundTrips PriorityRedemption := by
  refine .of_record (fun _ => rfl) (fun _ => rfl) (by decide) (fun _ => rfl) fun p r gives => ?_
  simp only [parts, List.forall_mem_cons, Part.gives_of] at gives
  simp [gives]

instance : HasParts DepositParams where
  parts p := [
    .of "dust_threshold" p.dustThreshold,
    .of "treasury_fee_divisor" p.treasuryFeeDivisor,
    .of "tx_max_fee" p.maxFeeShare]

instance : RoundTrips DepositParams := by
  refine .of_record (fun _ => rfl) (fun _ => rfl) (by decide) (fun _ => rfl) fun p r gives => ?_
  simp only [parts, List.forall_mem_cons, Part.gives_of] at gives
  simp [gives]

instance : HasParts ReservationParams where
  parts p := [
    .of "storage_fee_bps" p.storageFeeBps,
    .of "min_storage_fee" p.minStorageFee,
    .of "liquidation_bonus_bps" p.liquidationBonusBps,
    .of "min_amount" p.minAmount,
    .of "max_days" p.maxDays]

instance : RoundTrips ReservationParams := by
  refine .of_record (fun _ => rfl) (fun _ => rfl) (by decide) (fun _ => rfl) fun p r gives => ?_
  simp only [parts, List.forall_mem_cons, Part.gives_of] at gives
  simp [gives]

instance : HasParts Params where
  parts p := [
    .of "deposit" p.deposit,
    .of "reservation" p.reservation,
    .of "treasury" p.treasury,
    .of "bridge" p.bridge]

instance : RoundTrips Params := by
  refine .of_record (fun _ => rfl) (fun _ => rfl) (by decide) (fun _ => rfl) fun p r gives => ?_
  simp only [parts, List.forall_mem_cons, Part.gives_of] at gives
  simp [gives]

instance : HasParts SweepRequest where
  parts x := [
    .of "wallet_pubkey_hash" x.walletKeyHash,
    .of "sweep_tx" x.tx,
    .of "proof" x.proof,
    .spare "main_utxo" x.mainOutput,
    .spare "vault" x.vault]

instance : RoundTrips SweepRequest := by
  refine .of_record (fun _ => rfl) (fun _ => rfl) (by decide) (fun _ => rfl) fun x r gives => ?_
  simp only [parts, List.forall_mem_cons, Part.gives_of, Part.gives_spare] at gives
  simp [gives]

end Records

/-! ## §2. Two records in one object. -/

namespace Funding

/-- The parts of a funding output, which stand among those of a request. -/
def fieldParts (f : Funding) : List Part := [
  .of "funding_tx" f.tx,
  .of "funding_output_index" f.outputIndex,
  .of "wallet_pubkey_hash" f.walletKeyHash,
  .spare "vault" f.vault]

/-- **A funding output is read wherever its fields are found.** -/
theorem ofRecord_of_holds {f : Funding} {r : Json.Record} (holds : r.Holds f.fieldParts) :
    ofRecord r = some f := by
  have gives := holds.gives
  simp only [fieldParts, List.forall_mem_cons, Part.gives_of, Part.gives_spare] at gives
  simp [ofRecord, gives]

end Funding

instance : HasParts RevealRequest where
  parts x := x.funding.fieldParts ++ [.spare "extra_data" x.extraData]

instance : RoundTrips RevealRequest := by
  refine .of_parts (fun _ => rfl) (fun _ => ?_) fun x r holds => ?_
  · show (Funding.fieldNames ++ ["extra_data"]).Nodup
    decide
  · have found : Json.object? (Funding.fieldNames ++ ["extra_data"]) (.object r.members) = some r :=
      holds.object? (List.Subset.refl _)
    have funding := Funding.ofRecord_of_holds (holds.mono (List.subset_append_left _ _))
    have own := fun p mem => holds.gives p (List.mem_append_right _ mem)
    simp only [List.forall_mem_cons, Part.gives_spare] at own
    show (Json.object? _ (.object r.members)).bind _ = some x
    rw [found, Option.bind_some]
    simp [funding, own]

instance : HasParts ReserveRequest where
  parts x := x.funding.fieldParts ++ [
    .of "reservation_days" x.days,
    .of "btc_redemption_address" x.address]

instance : RoundTrips ReserveRequest := by
  refine .of_parts (fun _ => rfl) (fun _ => ?_) fun x r holds => ?_
  · show (Funding.fieldNames ++ ["reservation_days", "btc_redemption_address"]).Nodup
    decide
  · have found : Json.object? (Funding.fieldNames ++ ["reservation_days", "btc_redemption_address"])
        (.object r.members) = some r := holds.object? (List.Subset.refl _)
    have funding := Funding.ofRecord_of_holds (holds.mono (List.subset_append_left _ _))
    have own := fun p mem => holds.gives p (List.mem_append_right _ mem)
    simp only [List.forall_mem_cons, Part.gives_of] at own
    show (Json.object? _ (.object r.members)).bind _ = some x
    rw [found, Option.bind_some]
    simp [funding, own]

/-! ## §3. Unions. -/

namespace LedgerOp

/-- The parts of an operation behind its kind. -/
def fieldParts : LedgerOp → List Part
  | increaseBalance recipient amount => [.of "recipient" recipient, .of "amount" amount]
  | increaseBalances recipients amounts => [.of "recipients" recipients, .of "amounts" amounts]
  | decreaseBalance amount => [.of "amount" amount]
  | transferBalance recipient amount => [.of "to" recipient, .of "amount" amount]
  | transferBalanceFrom sender recipient amount =>
    [.of "from" sender, .of "to" recipient, .of "amount" amount]

instance : HasParts LedgerOp where
  parts op := .of tag op.kind :: op.fieldParts

/-- An operation is read back from a record that holds its parts. -/
theorem ofFields_of_holds {op : LedgerOp} {r : Json.Record} (holds : r.Holds op.fieldParts) :
    ofFields op.kind (.object r.members) = some op := by
  have found := holds.record? (List.Subset.refl _) 0
  have gives := holds.gives
  cases op <;>
    simp only [fieldParts, List.map_cons, List.map_nil, List.forall_mem_cons, Part.name_of,
      Part.gives_of] at found gives <;>
    simp [ofFields, kind, found, gives]

/-- The tag and the parts of an operation have names of their own. -/
theorem nodup_fieldParts (op : LedgerOp) : (tag :: op.fieldParts.map (·.name)).Nodup := by
  cases op <;> simp only [fieldParts, List.map_cons, List.map_nil, Part.name_of] <;> decide

instance : RoundTrips LedgerOp :=
  .of_union (fun op => by cases op <;> rfl) (fun _ => rfl) nodup_fieldParts (fun _ => rfl)
    fun _ _ => ofFields_of_holds

end LedgerOp

namespace Event

/-- The parts of an event behind its kind. -/
def fieldParts : Event → List Part
  | depositRevealed key txHash index depositor wallet amount vault fee reserved => [
      .of "key" key,
      .of "funding_tx_hash" txHash,
      .of "funding_output_index" index,
      .of "depositor" depositor,
      .of "wallet_pubkey_hash" wallet,
      .of "amount" amount,
      .spare "vault" vault,
      .of "treasury_fee" fee,
      .of "reserved" reserved]
  | depositSettled key depositor txHash credited share fee => [
      .of "key" key,
      .of "depositor" depositor,
      .of "sweep_tx_hash" txHash,
      .of "credited" credited,
      .of "fee_share" share,
      .of "treasury_fee" fee]
  | depositsSwept wallet txHash count fee => [
      .of "wallet_pubkey_hash" wallet,
      .of "sweep_tx_hash" txHash,
      .of "deposit_count" count,
      .of "total_fee" fee]
  | mainOutputUpdated wallet output => [
      .of "wallet_pubkey_hash" wallet,
      .of "main_utxo" output]
  | reservationCreated key depositor amount minted fee bonus expiry => [
      .of "utxo_hash" key,
      .of "depositor" depositor,
      .of "btc_amount" amount,
      .of "tbtc_minted" minted,
      .of "treasury_fee" fee,
      .of "liquidation_bonus" bonus,
      .of "expiry_timestamp" expiry]
  | reservationActivated key fee minted => [
      .of "utxo_hash" key,
      .of "sweep_fee" fee,
      .of "tbtc_minted" minted]
  | reservationRedeemed key redeemer burned bonus => [
      .of "utxo_hash" key,
      .of "redeemer" redeemer,
      .of "tbtc_burned" burned,
      .of "liquidation_bonus" bonus]
  | reservationLiquidated key liquidator bonus => [
      .of "utxo_hash" key,
      .of "liquidator" liquidator,
      .of "liquidation_bonus" bonus]
  | priorityRedemptionRequested key wallet amount allowance => [
      .of "utxo_hash" key,
      .of "wallet_pubkey_hash" wallet,
      .of "requested_amount" amount,
      .of "fee_allowance" allowance]
  | walletRegistered wallet state => [
      .of "wallet_pubkey_hash" wallet,
      .symbol "state" state.name state.ofName?_name]
  | walletStateChanged wallet before after => [
      .of "wallet_pubkey_hash" wallet,
      .symbol "from" before.name before.ofName?_name,
      .symbol "to" after.name after.ofName?_name]
  | vaultStatusUpdated vault trusted => [
      .of "vault" vault,
      .of "trusted" trusted]

instance : HasParts Event where
  parts e := .of tag e.kind :: e.fieldParts

/-- **An event is read wherever its fields are found.** -/
theorem ofFields_of_holds {e : Event} {r : Json.Record} (holds : r.Holds e.fieldParts) :
    ofFields e.kind (.object r.members) = some e := by
  have found := holds.record? (List.Subset.refl _) 0
  have gives := holds.gives
  cases e <;>
    simp only [fieldParts, List.map_cons, List.map_nil, List.forall_mem_cons, Part.name_of,
      Part.name_spare, Part.name_symbol, Part.gives_of, Part.gives_spare, Part.gives_symbol]
      at found gives <;>
    simp [ofFields, kind, found, gives]

/-- The fields of an event are written part by part. -/
theorem fields_eq_map (e : Event) : e.fields = e.fieldParts.map fun p => (p.name, p.json) := by
  cases e <;> rfl

/-- No field has the name of another, or one of those that stand in front of them. -/
theorem nodup_fieldParts (e : Event) :
    ("seq" :: "at" :: tag :: e.fieldParts.map (·.name)).Nodup := by
  cases e <;>
    simp only [fieldParts, List.map_cons, List.map_nil, Part.name_of, Part.name_spare,
      Part.name_symbol] <;>
    decide

instance : RoundTrips Event := by
  refine .of_union (fun e => ?_) (fun _ => rfl) (fun e => ?_) (fun _ => rfl)
    fun _ _ => ofFields_of_holds
  · show Json.object ((tag, .text e.tagName) :: e.fields) = _
    rw [tagName_eq_kind, fields_eq_map]
    rfl
  · exact e.nodup_fieldParts.of_cons.of_cons

end Event

namespace LoggedEvent

instance : HasParts LoggedEvent where
  parts e := [.of "seq" e.seq, .of "at" e.time, .of Event.tag e.event.kind] ++ e.event.fieldParts

instance : RoundTrips LoggedEvent := by
  refine .of_parts (fun e => ?_) (fun e => e.event.nodup_fieldParts) fun e r holds => ?_
  · show Json.object (("seq", toJson e.seq) :: ("at", toJson e.time)
      :: (Event.tag, .text e.event.tagName) :: e.event.fields) = _
    rw [Event.tagName_eq_kind, Event.fields_eq_map]
    rfl
  · have found : Json.object? ["seq", "at", Event.tag] (.object r.members) = some r :=
      holds.object? (List.subset_append_left _ _)
    have event := Event.ofFields_of_holds (holds.mono (List.subset_append_right _ _))
    have own := fun p mem => holds.gives p (List.mem_append_left _ mem)
    simp only [List.forall_mem_cons, Part.gives_of] at own
    have kind := Json.Record.lookup_of_field own.2.2.1
    show (Json.object? _ (.object r.members)).bind _ = some e
    rw [found, Option.bind_some, kind]
    simp [kindOfTag?, event, own]

end LoggedEvent

/-! ## §4. All that travels. -/

/-- **All that travels is read back** from its JSON, and from that with members of other names added
to its records, the digits of its bytes in either case, and null members left out that may be; and
an event is tagged with its kind. -/
theorem forms_round_trip :
    (RoundTrips Tx ∧ RoundTrips InclusionProof ∧ RoundTrips MainOutput ∧ RoundTrips Wallet ∧
      RoundTrips RedemptionAddress ∧ RoundTrips Deposit ∧ RoundTrips Reservation ∧
      RoundTrips PriorityRedemption ∧ RoundTrips Params ∧ RoundTrips Event ∧
      RoundTrips LoggedEvent ∧ RoundTrips LedgerOp ∧ RoundTrips RevealRequest ∧
      RoundTrips ReserveRequest ∧ RoundTrips SweepRequest) ∧
      ∀ e : Event, (toJson e).member? Event.tag = some (.text e.kind) := by
  refine ⟨?_, Event.toJson_kind⟩
  repeat' apply And.intro
  all_goals infer_instance

namespace Sample

/-- A logged event without a vault. -/
def logged : LoggedEvent where
  seq := 7
  time := 3
  event := .depositRevealed (Octets.replicate 32 0xab) (Octets.replicate 32 0xcd) 1 ⟨"alice"⟩
    (Octets.replicate 20 0xef) 2000000 none 1000 false

/-- Its members in front of the vault, with the key in capitals. -/
def front : List (String × Json) := [
  ("seq", toJson logged.seq),
  ("at", toJson logged.time),
  ("type", .text "deposit_revealed"),
  ("key", .text (Hex.encode (List.replicate 32 0xab)).toUpper),
  ("funding_tx_hash", toJson (Octets.replicate 32 0xcd)),
  ("funding_output_index", toJson (1 : UInt32)),
  ("depositor", .text "alice"),
  ("wallet_pubkey_hash", toJson (Octets.replicate 20 0xef)),
  ("amount", toJson (2000000 : UInt64))]

/-- Its members behind the vault. -/
def back : List (String × Json) := [
  ("treasury_fee", toJson (1000 : UInt64)),
  ("reserved", .bool false)]

/-- The null that stands for the vault is left out, and a note is put in front. -/
theorem allows_rewritten :
    (form logged).Allows (.object (("note", .list [.null]) :: (front ++ back))) := by
  have written : (form logged).Allows (.object (front ++ ("vault", .null) :: back)) := by
    refine .record ?_
    exact .kept .fixed (.kept .fixed (.kept .fixed (.kept (Form.allows_capitals _)
      (.kept (Form.allows_json _) (.kept .fixed (.kept .fixed (.kept (Form.allows_json _)
        (.kept .fixed (.kept .fixed (.kept .fixed (.kept .fixed .nil)))))))))))
  have distinct := logged.event.nodup_fieldParts
  refine (written.drop front back distinct ?_).add [] (front ++ back) ?_ (.list [.null])
  · simp [parts, Event.fieldParts, logged, Part.of, Part.spare, form]
  · decide

end Sample

/-- The logged event is read back from its JSON in capitals, with a member added and without the
vault. -/
theorem forms_round_trip_sample :
    (form Sample.logged).Allows
        (.object (("note", .list [.null]) :: (Sample.front ++ Sample.back))) ∧
      fromJson? (.object (("note", .list [.null]) :: (Sample.front ++ Sample.back)))
        = some Sample.logged := by
  obtain ⟨⟨-, -, -, -, -, -, -, -, -, -, logged, -⟩, -⟩ := forms_round_trip
  exact ⟨Sample.allows_rewritten, logged.allowed Sample.allows_rewritten⟩

end Custody
