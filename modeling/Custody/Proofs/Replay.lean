/-
  Custody.Proofs.Replay
  ────────────────────────────────
  **THE LOG EXPLAINS THE LEDGER.**

  Whoever reads the log from its beginning, and keeps in mind which vaults are
  trusted, where each deposit was routed and which bonus each reservation
  promised, can tell from every event what it has moved.  The ledger is moved
  by other code, which adds up a whole sweep before it credits anybody; the
  two agree on every account, also where accounts coincide.

  The reader's memory is that of the state, and the settlement of a deposit
  leaves it as it was, so one memory serves for all deposits of a sweep.

  Main facts:
    * `Settles.told`      — what the events of one settlement are read as;
    * `Accepted.recalled` — after a command the memory is that of the state;
    * `Accepted.replayed` — the events move what the ledger operations move;
    * `balances_replayed` — after any run every balance is the replayed one.
-/
import Custody.Proofs.Durability

namespace Custody

/-! ## §1. Reading the log. -/

/-- What a reader of the log keeps in mind. -/
structure Memory where
  trusted : Identity → Bool
  vault : DepositKey → Option Identity
  bonus : DepositKey → UInt64
  /-- The key that the last event has activated, if it has activated one. -/
  activated : Option DepositKey

/-- What an account gets of an amount that goes to a payee. -/
def due (account payee : Identity) (amount : UInt64) : Nat :=
  if payee == account then amount.toNat else 0

/-- Who is credited for a deposit: its vault, if it has one that is trusted, else its depositor. -/
def route (trusted : Identity → Bool) (vault : Option Identity) (depositor : Identity) :
    Identity :=
  match vault with
  | some vault => if trusted vault then vault else depositor
  | none => depositor

namespace Memory

/-- The memory of a reader who has read nothing. -/
def blank : Memory := ⟨fun _ => false, fun _ => none, fun _ => 0, none⟩

/-- The memory after one more event. -/
def after (m : Memory) : Event → Memory
  | .vaultStatusUpdated vault trusted =>
    { m with
      trusted := fun other => if other = vault then trusted else m.trusted other
      activated := none }
  | .depositRevealed key _ _ _ _ _ vault _ _ =>
    { m with
      vault := fun other => if other = key then vault else m.vault other
      activated := none }
  | .reservationCreated key _ _ _ _ bonus _ =>
    { m with
      bonus := fun other => if other = key then bonus else m.bonus other
      activated := none }
  | .reservationActivated key _ _ => { m with activated := some key }
  | _ => { m with activated := none }

/-- The memory after events. -/
def reading (m : Memory) (events : List Event) : Memory := events.foldl after m

section Flow

variable (params : Params) (account : Identity)

/-- What an event moves into an account, less what it moves out of it. -/
def flow (m : Memory) : Event → Int
  | .depositSettled key depositor _ credited _ fee =>
    due account (route m.trusted (m.vault key) depositor) credited
      + due account params.treasury fee
      + (if m.activated = some key then due account params.bridge (m.bonus key) else 0)
  | .reservationRedeemed _ redeemer burned bonus =>
    due account params.treasury bonus - due account params.bridge bonus
      - due account redeemer burned
  | .reservationLiquidated _ liquidator bonus =>
    due account liquidator bonus - due account params.bridge bonus
  | _ => 0

/-- What events move into an account, read in their order. -/
def replay (m : Memory) : List Event → Int
  | [] => 0
  | e :: rest => m.flow params account e + (m.after e).replay rest

/-- Reading goes on with the memory of what was read. -/
theorem replay_append (m : Memory) (xs ys : List Event) :
    m.replay params account (xs ++ ys)
      = m.replay params account xs + (m.reading xs).replay params account ys := by
  induction xs generalizing m with
  | nil => exact (Int.zero_add _).symm
  | cons e rest ih =>
    show m.flow params account e + (m.after e).replay params account (rest ++ ys)
      = m.flow params account e + (m.after e).replay params account rest
        + ((m.after e).reading rest).replay params account ys
    rw [ih, Int.add_assoc]

end Flow

/-- Events are read one after the other. -/
theorem reading_append (m : Memory) (xs ys : List Event) :
    m.reading (xs ++ ys) = (m.reading xs).reading ys := List.foldl_append

/-! ## §2. The memory of a state. -/

/-- The memory is that of a state: the same vaults are trusted, and deposits and reservations are
remembered with their vaults and bonuses. -/
structure Recalls (m : Memory) (s : State) : Prop where
  trusted : ∀ vault, m.trusted vault = s.trusts vault
  vault : ∀ key d, s.deposits.get? key = some d → m.vault key = d.vault
  bonus : ∀ key r, s.reservations.get? key = some r → m.bonus key = r.liquidationBonus
  idle : m.activated = none

theorem Recalls.blank : Memory.blank.Recalls State.empty := ⟨fun _ => rfl, nofun, nofun, rfl⟩

variable {m : Memory} {s next : State}

/-- An event that tells nothing to keep in mind leaves an idle memory as it was. -/
theorem Recalls.forget (recalls : m.Recalls s) : { m with activated := none } = m := by
  rw [← recalls.idle]

/-- Rows that keep their vaults and bonuses are remembered as they were. -/
theorem Recalls.keeps (recalls : m.Recalls s) (vaults : next.vaults = s.vaults)
    (deposits : ∀ key d, next.deposits.get? key = some d →
      ∃ old, s.deposits.get? key = some old ∧ old.vault = d.vault)
    (reservations : ∀ key r, next.reservations.get? key = some r →
      ∃ old, s.reservations.get? key = some old ∧ old.liquidationBonus = r.liquidationBonus) :
    m.Recalls next where
  trusted vault := by
    unfold State.trusts
    rw [vaults]
    exact recalls.trusted vault
  vault key d found := by
    obtain ⟨old, held, same⟩ := deposits key d found
    rw [recalls.vault key old held, same]
  bonus key r found := by
    obtain ⟨old, held, same⟩ := reservations key r found
    rw [recalls.bonus key old held, same]
  idle := recalls.idle

/-- What a settlement gives to an account, if its deposit was routed to a vault. -/
def yields (params : Params) (account : Identity) (m : Memory) (vault : Option Identity)
    (x : Settlement) : Nat :=
  due account (route m.trusted vault x.depositor) x.credited
    + due account params.treasury x.treasuryFee + due account params.bridge x.liquidationBonus

/-- What the settlement of deposits tells, as it is read with one memory throughout. -/
structure Told (m : Memory) (vault : Option Identity) (p q : State.Progress) : Prop where
  recalls : m.Recalls q.state
  told : ∃ events more, q.events = p.events ++ events ∧ q.settled = p.settled ++ more ∧
    m.reading events = m ∧
    ∀ params account,
      m.replay params account events = (sumOver (m.yields params account vault) more : Nat)

end Memory

/-! ## §3. Sweeps. -/

namespace State

open Memory

section Run

variable {now : UInt64} {sweepTxHash : TxHash} {p q : Progress} {key : DepositKey}
  {share : UInt64} {split : FeeSplit} {count place : Nat} {keys : List DepositKey}
  {m : Memory} {vault : Option Identity}

/-- **What the events of one settlement are read as**: what it gives to each account. -/
theorem Settles.told (h : Settles now sweepTxHash p key share q) (recalls : m.Recalls p.state)
    (routed : m.vault key = vault) : m.Told vault p q := by
  cases h with
  | @ordinary d fees found untagged sum left =>
    refine ⟨recalls.keeps rfl (Table.seen_insert Deposit.vault found rfl)
      fun _ r held => ⟨r, held, rfl⟩, _, _, rfl, rfl, recalls.forget, ?_⟩
    intro params account
    -- Nothing was activated just before, so no bonus is due.
    simp [replay, flow, yields, recalls.idle, routed, due]
  | @reserved d r final found tagged kept pending balanced left row =>
    have bonus : m.bonus key = final.liquidationBonus := by
      rw [recalls.bonus key r kept, row]
    refine ⟨recalls.keeps rfl (Table.seen_insert Deposit.vault found rfl)
      (Table.seen_insert Reservation.liquidationBonus kept (by rw [row])),
      _, _, rfl, rfl, recalls.forget, ?_⟩
    intro params account
    simp [replay, flow, after, yields, routed, bonus]

/-- What the events of all settlements are read as. -/
theorem settleAll_told (h : settleAll now sweepTxHash split count place p keys = .ok q)
    (recalls : m.Recalls p.state) (routed : ∀ key ∈ keys, m.vault key = vault) :
    m.Told vault p q := by
  induction keys generalizing place p with
  | nil =>
    cases h
    exact ⟨recalls, [], [], (List.append_nil _).symm, (List.append_nil _).symm, rfl,
      fun _ _ => rfl⟩
  | cons key rest ih =>
    obtain ⟨between, first, others⟩ := settleAll_cons_ok h
    obtain ⟨still, xs, some_settled, reported, settled, same, moved⟩ :=
      first.told recalls (routed key List.mem_cons_self)
    obtain ⟨last, ys, more_settled, later, further, again, others_moved⟩ :=
      ih others still fun other mem => routed other (List.mem_cons_of_mem key mem)
    refine ⟨last, xs ++ ys, some_settled ++ more_settled, ?_, ?_, ?_, ?_⟩
    -- events, settlements, memory and what is moved
    · rw [later, reported, List.append_assoc]
    · rw [further, settled, List.append_assoc]
    · rw [reading_append, same, again]
    · intro params account
      rw [replay_append, same, moved, others_moved, sumOver_append, Int.natCast_add]

end Run

/-- What goes to the routed payees is what the main operation of a sweep gives. -/
theorem sumOver_routed (s : State) (account : Identity) (vault : Option Identity)
    (settled : List Settlement) :
    sumOver (fun x => due account (route s.trusts vault x.depositor) x.credited) settled
      = s.creditedTo (· == account) vault settled := by
  unfold creditedTo route due
  cases vault with
  | none => rfl
  | some vault =>
    by_cases trusted : s.trusts vault = true
    · simp only [trusted, if_true]
      by_cases own : (vault == account) = true
      · simp only [own, if_true]
      · simp only [own, Bool.false_eq_true, if_false]
        exact sumOver_zero settled
    · simp only [trusted]
      rfl

/-- What an account is due of a measure, settlement by settlement. -/
theorem sumOver_due (account payee : Identity) (amount : Settlement → UInt64)
    (settled : List Settlement) :
    sumOver (fun x => due account payee (amount x)) settled
      = if payee == account then sumOver (fun x => (amount x).toNat) settled else 0 := by
  unfold due
  split
  · rfl
  · exact sumOver_zero settled

/-- **What the settlements of a sweep give to an account is what its credits give.** -/
theorem gained_yields {s : State} {m : Memory} (recalls : m.Recalls s) (params : Params)
    (account : Identity) (vault : Option Identity) {settled : List Settlement}
    (fits : sumOver worth settled < UInt64.size) :
    Ledger.gained params.bridge (· == account) (s.credits params vault settled)
      = sumOver (m.yields params account vault) settled := by
  have same : m.trusted = s.trusts := funext recalls.trusted
  unfold yields
  rw [gained_credits _ _ _ _ _ fits, sumOver_add, sumOver_add, same, sumOver_routed,
    sumOver_due, sumOver_due]

end State

/-! ## §4. Commands. -/

section Step

variable {s : State} {params : Params} {env : Circumstances} {command : Command}
  {t : Transition Receipt} {m : Memory}

open Memory

/-- The events of a sweep, read with the memory of the state before it. -/
theorem State.Sweeps.told {request : SweepRequest} {hash : TxHash} {now : UInt64}
    {t : Transition SweepOutcome} (sweeps : s.Sweeps params request hash now t)
    (backs : s.Backs) (recalls : m.Recalls s) :
    (m.reading t.events).Recalls t.state ∧ ∀ account,
      m.replay params account t.events
          + (Ledger.lost params.bridge (· == account) t.ledgerOps : Nat)
        = (Ledger.gained params.bridge (· == account) t.ledgerOps : Nat) := by
  cases sweeps with
  | @mk value fee walk split p sweepable claimed output taken left divided capped settled =>
    have fits := (settled_value backs taken left divided settled).1
    have routed : ∀ key ∈ walk.swept, m.vault key = request.vault := by
      intro key mem
      obtain ⟨d, found, -, -, same⟩ := (takeInputs_sound taken).1.unswept key mem
      rw [recalls.vault key d found, same]
    obtain ⟨last, events, more, reported, paid, same, moved⟩ :=
      settleAll_told settled recalls routed
    rw [List.nil_append] at reported paid
    subst reported paid
    -- The two events of the sweep itself move nothing and leave nothing to keep in mind.
    refine ⟨?_, fun account => ?_⟩
    · show (m.reading (p.events ++ _)).Recalls _
      rw [reading_append, same]
      exact ⟨last.trusted, last.vault, last.bonus, rfl⟩
    · show m.replay params account (p.events ++ _)
          + (Ledger.lost _ _ (s.credits params request.vault p.settled) : Nat)
        = (Ledger.gained _ _ (s.credits params request.vault p.settled) : Nat)
      rw [replay_append, same, moved, lost_credits, gained_yields recalls _ _ _ fits]
      simp [replay, flow]

/-- **After an accepted command the reader's memory is that of the next state.** -/
theorem Accepted.recalled (h : Accepted s params env command t) (standing : s.Standing)
    (recalls : m.Recalls s) : (m.reading t.events).Recalls t.state := by
  cases h with
  | registerWallet => exact ⟨recalls.trusted, recalls.vault, recalls.bonus, rfl⟩
  | @setWalletState wallet stage row known =>
    show (m.reading (if row.state = stage then [] else _)).Recalls _
    split
    · exact ⟨recalls.trusted, recalls.vault, recalls.bonus, recalls.idle⟩
    · exact ⟨recalls.trusted, recalls.vault, recalls.bonus, rfl⟩
  | @setVaultStatus vault trusted =>
    refine ⟨fun other => ?_, recalls.vault, recalls.bonus, rfl⟩
    show (if other = vault then trusted else m.trusted other)
      = ((s.vaults.insert vault trusted).get? other).getD false
    rw [Table.get?_insert_eq]
    split
    · rfl
    · exact recalls.trusted other
  | @reveal depositor request d untagged reveals =>
    exact ⟨recalls.trusted, Table.noted_insert recalls.vault d, recalls.bonus, rfl⟩
  | @reserve depositor request d price expiry r unreserved reveals priced expires row =>
    -- The reservation is kept, and its event written, under the key of the deposit.
    have own : r.key = d.key := by rw [row]
    refine ⟨recalls.trusted, Table.noted_insert recalls.vault d, ?_, rfl⟩
    show ∀ key held, (s.reservations.insert r.key r).get? key = some held → _
    rw [own]
    exact Table.noted_insert recalls.bonus r
  | settleSweep proven settles =>
    exact ((State.settleSweep_ok_iff.mp settles).told standing.backs recalls).1
  | redeem =>
    show Recalls { m with activated := none } _
    rw [recalls.forget]
    exact recalls.keeps rfl (fun _ d held => ⟨d, held, rfl⟩)
      (Table.seen_modify Reservation.liquidationBonus fun _ => rfl)
  | liquidate =>
    show Recalls { m with activated := none } _
    rw [recalls.forget]
    exact recalls.keeps rfl (Table.seen_modify Deposit.vault fun _ => rfl)
      (Table.seen_modify Reservation.liquidationBonus fun _ => rfl)

/-- **The events of an accepted command move what its ledger operations move.** -/
theorem Accepted.replayed (h : Accepted s params env command t) (standing : s.Standing)
    (recalls : m.Recalls s) (account : Identity) :
    m.replay params account t.events
        + (Ledger.lost params.bridge (· == account) t.ledgerOps : Nat)
      = (Ledger.gained params.bridge (· == account) t.ledgerOps : Nat) := by
  cases h with
  | registerWallet => rfl
  | @setWalletState wallet stage row known =>
    show m.replay params account (if row.state = stage then [] else _) + 0 = 0
    split <;> rfl
  | setVaultStatus => rfl
  | reveal => rfl
  | reserve => rfl
  | settleSweep proven settles =>
    exact ((State.settleSweep_ok_iff.mp settles).told standing.backs recalls).2 account
  | @redeem key r active inTime =>
    -- What is burnt passes through the bridge, and one bonus leaves it for the treasury.
    simp [replay, flow, due, Ledger.gained, Ledger.lost, Ledger.batchMoves, Ledger.moves,
      Move.gain, Move.loss]
    omega
  | @liquidate liquidator key r active late =>
    simp [replay, flow, due, Ledger.gained, Ledger.lost, Ledger.batchMoves, Ledger.moves,
      Move.gain, Move.loss]

end Step

/-! ## §5. Runs. -/

/-- The log of a service explains its ledger. -/
structure Service.Explained (params : Params) (service : Service) : Prop where
  standing : service.state.Standing
  params_eq : service.params = params
  bridge : service.ledger.bridge = params.bridge
  recalls : (Memory.blank.reading (service.log.events.map (·.event))).Recalls service.state
  balances : ∀ account,
    Memory.blank.replay params account (service.log.events.map (·.event))
      = (service.ledger.balanceOf account).toNat

namespace Service

/-- The ledger of a service without contents is explained. -/
theorem Explained.opened (params : Params) : (Service.opened params).Explained params where
  standing := State.Standing.empty
  params_eq := rfl
  bridge := rfl
  recalls := Memory.Recalls.blank
  balances _ := rfl

/-- The events in the log after a commit. -/
theorem map_event_advance {α : Type} (service : Service) (t : Transition α) (now : UInt64)
    (ledger : Ledger) :
    (service.advance t now ledger).log.events.map (·.event)
      = service.log.events.map (·.event) ++ t.events := by
  simpa using service.filterMap_advance t now ledger some

/-- **Every accepted command leaves the ledger explained.** -/
theorem Explained.advance {params : Params} {service : Service} {env : Circumstances}
    {command : Command} {t : Transition Receipt} {ledger : Ledger}
    (explained : service.Explained params)
    (accepted : Accepted service.state service.params env command t)
    (paid : service.ledger.applyBatch t.ledgerOps = .ok ledger) :
    (service.advance t env.now ledger).Explained params where
  standing := accepted.standing explained.standing
  params_eq := explained.params_eq
  bridge := ((Ledger.applyBatch_eq_ok_iff ..).mp paid).1.trans explained.bridge
  recalls := by
    rw [map_event_advance, Memory.reading_append]
    exact accepted.recalled explained.standing explained.recalls
  balances account := by
    have moved := accepted.replayed explained.standing explained.recalls account
    have balance := Ledger.balanceOf_applyBatch account paid
    rw [explained.params_eq] at moved
    rw [explained.bridge] at balance
    rw [map_event_advance, Memory.replay_append, explained.balances account]
    show _ = ((ledger.balanceOf account).toNat : Int)
    omega

end Service

/-- **The log explains the ledger**: after any run every balance is what the log, read from its
beginning, has moved into the account. -/
theorem balances_replayed {σ : Type} [Store σ] {params : Params} {orders : List Order}
    {w : World σ} (reached : w.Reached params orders) (account : Identity) :
    ((w.service.ledger.balanceOf account).toNat : Int)
      = Memory.blank.replay params account (w.service.log.events.map (·.event)) :=
  have explained : w.service.Explained params :=
    reached.invariant (fun service => service.Explained params) (.opened params)
      fun _ _ _ _ _ explained accepted paid => explained.advance accepted paid
  (explained.balances account).symm

/-- In the sample run, where the treasury is the bridge as well, the log explains its balance. -/
theorem balances_replayed_sample :
    let shared : Params := { bridge := ⟨"treasury"⟩ }
    let straight := (World.mk (Service.opened shared) Volatile.empty).serve Sample.orders
    let resumed := (World.opened shared : World Volatile).run
      (.reload :: Sample.orders.map .order ++ [.reload])
    0 < (straight.service.ledger.balanceOf ⟨"treasury"⟩).toNat ∧
    (∀ account, ((straight.service.ledger.balanceOf account).toNat : Int)
      = Memory.blank.replay shared account (straight.service.log.events.map (·.event))) ∧
    ∀ account, ((resumed.service.ledger.balanceOf account).toNat : Int)
      = Memory.blank.replay shared account (resumed.service.log.events.map (·.event)) := by
  intro shared straight resumed
  have served : straight.Reached shared Sample.orders := .served ⟨rfl, rfl⟩ rfl
  have reloaded : resumed.Reached shared Sample.orders := .resumed rfl trivial
  exact ⟨by decide +kernel, balances_replayed served, balances_replayed reloaded⟩

end Custody
