/-
  Custody.Proofs.PoolCover
  ────────────────────────────────
  **WHAT THE POOL COVERS WHEN ANYBODY MAY GO BY THE BRIDGE'S NAME.**

  Nothing keeps the account of the bridge from being a depositor, a caller or
  a vault.  What it receives under its name lies with the bonuses, and what it
  pays is taken from them.  The pool falls short of the bonuses in one way:
  the bridge redeems a reservation of its own for which somebody else was
  credited, so that it burns what it never received.

  What was credited is read off the log.  A reservation that is active or
  redeemed has been settled once and is not settled again, so what the log
  says of it stays.

  Main facts:
    * `Accepted.keeps_payee` — later settlements do not touch a live reservation;
    * `Accepted.covers`      — a command leaves the claims on the bridge covered;
    * `bonusPool_covered`    — after any run pool and strayed burns cover the bonuses.
-/
import Custody.Proofs.BonusPool
import Custody.Proofs.Integrity
import Custody.Proofs.Replay

namespace Custody

/-! ## §1. Who was credited for which deposit. -/

/-- The account that was credited for a deposit. -/
abbrev Payee := DepositKey × Identity

namespace Memory

/-- Whom an event credits for which deposit, if it credits anybody. -/
def payee? (m : Memory) : Event → Option Payee
  | .depositSettled key depositor .. => some (key, route m.trusted (m.vault key) depositor)
  | _ => none

/-- Whom events credit for which deposits, in their order. -/
def payees (m : Memory) : List Event → List Payee
  | [] => []
  | e :: rest => (m.payee? e).toList ++ (m.after e).payees rest

/-- Payees are told event by event, each with what was told before it. -/
theorem payees_append (m : Memory) (xs ys : List Event) :
    m.payees (xs ++ ys) = m.payees xs ++ (m.reading xs).payees ys := by
  induction xs generalizing m with
  | nil => rfl
  | cons e rest ih =>
    show (m.payee? e).toList ++ (m.after e).payees (rest ++ ys)
      = (m.payee? e).toList ++ (m.after e).payees rest ++ ((m.after e).reading rest).payees ys
    rw [ih, List.append_assoc]

/-- Whoever is credited for a deposit is credited when it is settled. -/
theorem settled_of_payees {m : Memory} {events : List Event} {c : Payee}
    (h : c ∈ m.payees events) : ∃ e ∈ events, e.Tells c.1 .settled := by
  induction events generalizing m with
  | nil => cases h
  | cons e rest ih =>
    rcases List.mem_append.mp h with own | later
    · refine ⟨e, List.mem_cons_self, ?_⟩
      rw [Option.mem_toList] at own
      cases e with
      | depositSettled =>
        cases own
        exact ⟨rfl, rfl⟩
      | _ => cases own
    · obtain ⟨e, mem, tells⟩ := ih later
      exact ⟨e, List.mem_cons_of_mem _ mem, tells⟩

end Memory

/-- The account that was credited last for a deposit. -/
def lastPayee (key : DepositKey) : List Payee → Option Identity
  | [] => none
  | c :: rest => (lastPayee key rest).or (if c.1 = key then some c.2 else none)

/-- The last payee of a key is told in the later part, if it is told there. -/
theorem lastPayee_append (key : DepositKey) (xs ys : List Payee) :
    lastPayee key (xs ++ ys) = (lastPayee key ys).or (lastPayee key xs) := by
  induction xs with
  | nil => exact Option.or_none.symm
  | cons c rest ih => rw [List.cons_append, lastPayee, ih, lastPayee, Option.or_assoc]

/-- A key that nobody is paid for has no last payee. -/
theorem lastPayee_eq_none {key : DepositKey} {paid : List Payee} (h : ∀ c ∈ paid, c.1 ≠ key) :
    lastPayee key paid = none := by
  induction paid with
  | nil => rfl
  | cons c rest ih =>
    rw [lastPayee, ih fun other mem => h other (List.mem_cons_of_mem c mem),
      if_neg (h c List.mem_cons_self)]
    rfl

/-- If keys are paid for once, who is paid is the last payee. -/
theorem lastPayee_of_mem {c : Payee} {paid : List Payee} (once : (paid.map (·.1)).Nodup)
    (mem : c ∈ paid) : lastPayee c.1 paid = some c.2 := by
  induction paid with
  | nil => cases mem
  | cons first rest ih =>
    obtain ⟨fresh, once⟩ := List.nodup_cons.mp once
    rcases List.mem_cons.mp mem with rfl | mem
    · have others : lastPayee c.1 rest = none := by
        exact lastPayee_eq_none fun other among same =>
          fresh (List.mem_map.mpr ⟨other, among, same⟩)
      rw [lastPayee, others, if_pos rfl]
      rfl
    · rw [lastPayee, ih once mem]
      rfl

/-! ## §2. Live reservations are not settled again. -/

/-- A reservation that is active or redeemed. -/
def Reservation.Live (r : Reservation) : Prop := r.status = .active ∨ r.status = .redeemed

/-- The deposit of a live reservation is not settled. -/
theorem Turn.unsettled_of_live {key : DepositKey} {now : UInt64} {caller : Option Identity}
    {held next : Holding} {events : List Event} (h : Turn key now caller held events next)
    (tied : held.Tied key) {r : Reservation} (kept : held.reservation = some r) (live : r.Live) :
    .settled ∉ milestones events := by
  cases h with
  | idle => exact List.not_mem_nil
  | settle unswept untagged =>
    have tagged := (tied.tagged _ rfl).mpr ⟨r, kept, by rcases live with h | h <;> simp [h]⟩
    rw [untagged] at tagged
    cases tagged
  | activate _ _ pending =>
    cases kept
    rcases live with h | h
    · rw [pending] at h
      cases h
    · rw [pending] at h
      cases h
  | reveal | reserve | redeem | liquidate =>
    simp [milestones, Event.milestone?, Deposit.revealed]

/-- **Who was credited for a live reservation stays whoever it was.** -/
theorem Accepted.keeps_payee {s : State} {params : Params} {env : Circumstances}
    {command : Command} {t : Transition Receipt} (h : Accepted s params env command t)
    {key : DepositKey} {r : Reservation} (tied : (s.holding key).Tied key)
    (kept : s.reservations.get? key = some r) (live : r.Live) (m : Memory) (paid : List Payee) :
    lastPayee key (paid ++ m.payees t.events) = lastPayee key paid := by
  have untouched : lastPayee key (m.payees t.events) = none := by
    refine lastPayee_eq_none fun c mem same => ?_
    obtain ⟨e, among, tells⟩ := Memory.settled_of_payees mem
    rw [same] at tells
    exact (h.turn key).unsettled_of_live tied kept live (tells.mem_milestones among)
  rw [lastPayee_append, untouched]
  rfl

/-! ## §3. Whom a sweep credits. -/

/-- Whom a settlement credits for its deposit, if the deposit was routed to a vault. -/
def Memory.payeeOf (m : Memory) (vault : Option Identity) (x : Settlement) : Payee :=
  (x.key, route m.trusted vault x.depositor)

namespace State

section Run

variable {now : UInt64} {sweepTxHash : TxHash} {p q : Progress} {key : DepositKey}
  {share : UInt64} {split : FeeSplit} {count place : Nat} {keys : List DepositKey}
  {m : Memory} {vault : Option Identity}

/-- The events of settlements credit whom the settlements credit, and leave the memory as it was. -/
def Attributed (m : Memory) (vault : Option Identity) (p q : Progress) : Prop :=
  ∃ events more, q.events = p.events ++ events ∧ q.settled = p.settled ++ more ∧
    m.reading events = m ∧ m.payees events = more.map (m.payeeOf vault)

/-- Settling one deposit credits whom its events tell. -/
theorem Settles.credits (h : Settles now sweepTxHash p key share q) (idle : m.activated = none)
    (routed : m.vault key = vault) : Attributed m vault p q := by
  have forgets : { m with activated := none } = m := by rw [← idle]
  subst routed
  cases h with
  | ordinary => exact ⟨_, _, rfl, rfl, forgets, rfl⟩
  | reserved => exact ⟨_, _, rfl, rfl, forgets, rfl⟩

/-- Settling deposits credits whom their events tell. -/
theorem settleAll_credits (h : settleAll now sweepTxHash split count place p keys = .ok q)
    (idle : m.activated = none) (routed : ∀ key ∈ keys, m.vault key = vault) :
    Attributed m vault p q := by
  induction keys generalizing place p with
  | nil =>
    cases h
    exact ⟨[], [], (List.append_nil _).symm, (List.append_nil _).symm, rfl, rfl⟩
  | cons key rest ih =>
    obtain ⟨between, first, others⟩ := settleAll_cons_ok h
    obtain ⟨xs, x, reported, settled, same, credited⟩ :=
      first.credits idle (routed key List.mem_cons_self)
    obtain ⟨ys, more, later, further, again, others_credited⟩ :=
      ih others fun other mem => routed other (List.mem_cons_of_mem key mem)
    refine ⟨xs ++ ys, x ++ more, ?_, ?_, ?_, ?_⟩
    · rw [later, reported, List.append_assoc]
    · rw [further, settled, List.append_assoc]
    · rw [Memory.reading_append, same, again]
    · rw [Memory.payees_append, same, credited, others_credited, List.map_append]

end Run

/-! ## §4. Claims on an account, and what strays from it. -/

/-- What an account owes for a reservation: the bonus as long as it is active, and what was minted
if the account was credited with it. -/
def claimOn (account : Identity) (paid : List Payee) (key : DepositKey) (r : Reservation) : Nat :=
  if r.status = .active then
    r.liquidationBonus.toNat + (if lastPayee key paid = some account then r.minted.toNat else 0)
  else 0

/-- What an account has burnt for a reservation of its own that somebody else was credited for. -/
def strayedFrom (account : Identity) (paid : List Payee) (key : DepositKey) (r : Reservation) :
    Nat :=
  if r.status = .redeemed ∧ r.depositor = account ∧ lastPayee key paid ≠ some account then
    r.minted.toNat
  else 0

/-- All claims on an account. -/
def claims (s : State) (account : Identity) (paid : List Payee) : Nat :=
  s.reservations.sumBy (claimOn account paid)

/-- All that has strayed from an account. -/
def strayed (s : State) (account : Identity) (paid : List Payee) : Nat :=
  s.reservations.sumBy (strayedFrom account paid)

/-- The bonuses are among the claims. -/
theorem activeBonuses_le_claims (s : State) (account : Identity) (paid : List Payee) :
    s.activeBonuses ≤ s.claims account paid := by
  refine Table.sumBy_mono fun key r _ => ?_
  unfold claimOn
  split
  · exact Nat.le_add_right _ _
  · exact Nat.le_refl _

/-- A new reservation is no claim on the pool. -/
theorem claims_addReservation {s : State} {r : Reservation} (account : Identity)
    (paid : List Payee) (fresh : s.reservations.get? r.key = none)
    (pending : r.status = .revealed) :
    (s.addReservation r).claims account paid = s.claims account paid :=
  sumBy_addReservation_of_zero fresh (by simp [claimOn, pending])

theorem strayed_addReservation {s : State} {r : Reservation} (account : Identity)
    (paid : List Payee) (fresh : s.reservations.get? r.key = none)
    (pending : r.status = .revealed) :
    (s.addReservation r).strayed account paid = s.strayed account paid :=
  sumBy_addReservation_of_zero fresh (by simp [strayedFrom, pending])

/-- A reservation that ends takes its claim along. -/
theorem claims_endReservation {s : State} {key : DepositKey} {r : Reservation} (account : Identity)
    (paid : List Payee) (status : ReservationStatus) (found : s.reservations.get? key = some r)
    (active : r.status = .active) (ended : status ≠ .active) :
    (s.endReservation key status).claims account paid + r.liquidationBonus.toNat
        + (if lastPayee key paid = some account then r.minted.toNat else 0)
      = s.claims account paid := by
  have closed := sumBy_endReservation (claimOn account paid) status found
  rw [claimOn, claimOn, if_pos active, if_neg ended, ← Nat.add_assoc] at closed
  exact closed

/-- A reservation that ends strays if its own depositor burns what was credited elsewhere. -/
theorem strayed_endReservation {s : State} {key : DepositKey} {r : Reservation} (account : Identity)
    (paid : List Payee) (status : ReservationStatus) (found : s.reservations.get? key = some r)
    (active : r.status = .active) :
    (s.endReservation key status).strayed account paid = s.strayed account paid
      + (if status = .redeemed ∧ r.depositor = account ∧ lastPayee key paid ≠ some account then
          r.minted.toNat else 0) := by
  have closed := sumBy_endReservation (strayedFrom account paid) status found
  rw [strayedFrom, strayedFrom, if_neg (by simp [active])] at closed
  exact closed

/-- The claim that a settlement makes on an account. -/
def claimOf (account : Identity) (m : Memory) (vault : Option Identity) (x : Settlement) : Nat :=
  if x.reserved then
    x.liquidationBonus.toNat + due account (route m.trusted vault x.depositor) x.credited
  else 0

section Sweep

variable {now : UInt64} {hash : TxHash} {split : FeeSplit} {count place : Nat} {p q : Progress}
  {keys : List DepositKey} {m : Memory} {vault : Option Identity} {paid : List Payee}
  (account : Identity)

/-- Settling adds the claims of the settlements. -/
theorem claims_settleAll (h : settleAll now hash split count place p keys = .ok q)
    (credited : ∀ x ∈ q.settled, lastPayee x.key paid = some (m.payeeOf vault x).2) :
    q.state.claims account paid + sumOver (claimOf account m vault) p.settled
      = p.state.claims account paid + sumOver (claimOf account m vault) q.settled := by
  refine settleAll_gains h ⟨?_, ?_, ?_⟩
  · intro x ordinary _
    simp [claimOf, ordinary]
  · intro key r pending
    simp [claimOn, pending]
  · intro x mem reserved r active minted bonus
    simp [claimOn, claimOf, active, reserved, minted, bonus, credited x mem, Memory.payeeOf, due]

/-- Settling lets nothing stray. -/
theorem strayed_settleAll (h : settleAll now hash split count place p keys = .ok q) :
    q.state.strayed account paid = p.state.strayed account paid := by
  have same := settleAll_sumBy h (strayedFrom account paid) 0
    (fun key r pending => by simp [strayedFrom, pending])
    (fun key r active => by simp [strayedFrom, active])
  rw [Nat.zero_mul, Nat.zero_mul] at same
  exact same

end Sweep

end State

/-! ## §5. Every command leaves the claims covered. -/

/-- A transition from a state covers its account: the claims grow by no more than the account gains
and what strays. -/
def Transition.Covers {α : Type} (t : Transition α) (account : Identity) (paid : List Payee)
    (s : State) : Prop :=
  t.state.claims account paid + s.strayed account paid
      + Ledger.lost account (· == account) t.ledgerOps
    ≤ s.claims account paid + t.state.strayed account paid
      + Ledger.gained account (· == account) t.ledgerOps

section Step

variable {s : State} {params : Params} {env : Circumstances} {command : Command}
  {t : Transition Receipt} {m : Memory}

/-- The claim of a settlement is among what the settlement yields to the bridge. -/
theorem State.claimOf_le_yields (params : Params) (m : Memory) (vault : Option Identity)
    (x : Settlement) : claimOf params.bridge m vault x ≤ m.yields params params.bridge vault x := by
  unfold claimOf Memory.yields
  split
  · rw [show due params.bridge params.bridge x.liquidationBonus = x.liquidationBonus.toNat by
      simp [due]]
    omega
  · exact Nat.zero_le _

/-- The claims of a sweep on the bridge are among what the sweep gives it. -/
theorem State.Sweeps.covers {request : SweepRequest} {hash : TxHash} {now : UInt64}
    {t : Transition SweepOutcome} (sweeps : s.Sweeps params request hash now t) (backs : s.Backs)
    (recalls : m.Recalls s) (paid : List Payee) :
    t.Covers params.bridge (paid ++ m.payees t.events) s := by
  cases sweeps with
  | @mk value fee walk split p sweepable claimed output taken left divided capped settled =>
    obtain ⟨sound, -⟩ := takeInputs_sound taken
    have fits := (settled_value backs taken left divided settled).1
    have routed : ∀ key ∈ walk.swept, m.vault key = request.vault := by
      intro key mem
      obtain ⟨d, found, -, -, same⟩ := sound.unswept key mem
      rw [recalls.vault key d found, same]
    obtain ⟨events, more, reported, all, -, credited⟩ :=
      settleAll_credits settled recalls.idle routed
    rw [List.nil_append] at reported all
    subst reported all
    -- The two events of the sweep itself credit nobody.
    have payees : m.payees (p.events ++ [
        .depositsSwept request.walletKeyHash hash (UInt64.ofNat p.settled.length) fee,
        .mainOutputUpdated request.walletKeyHash ⟨hash, 0, value⟩])
        = p.settled.map (m.payeeOf request.vault) := by
      rw [Memory.payees_append, credited]
      exact List.append_nil _
    show p.state.claims params.bridge (paid ++ m.payees (p.events ++ _)) + s.strayed _ _
        + Ledger.lost _ _ (s.credits params request.vault p.settled)
      ≤ s.claims _ _ + p.state.strayed params.bridge (paid ++ m.payees (p.events ++ _))
        + Ledger.gained _ _ (s.credits params request.vault p.settled)
    rw [payees, lost_credits, gained_yields recalls _ _ _ fits, strayed_settleAll _ settled]
    have once : ((p.settled.map (m.payeeOf request.vault)).map (·.1)).Nodup := by
      have keys := settleAll_keys settled
      rw [List.map_nil, List.nil_append] at keys
      rw [List.map_map]
      show (p.settled.map (·.key)).Nodup
      rw [keys]
      exact sound.distinct
    have last : ∀ x ∈ p.settled, lastPayee x.key (paid ++ p.settled.map (m.payeeOf request.vault))
        = some (m.payeeOf request.vault x).2 := by
      intro x mem
      rw [lastPayee_append,
        show lastPayee x.key _ = _ from lastPayee_of_mem once (List.mem_map_of_mem mem)]
      rfl
    have grown := claims_settleAll params.bridge settled last
    have yielded : sumOver (claimOf params.bridge m request.vault) p.settled
        ≤ sumOver (m.yields params params.bridge request.vault) p.settled :=
      sumOver_mono fun x _ => claimOf_le_yields params m request.vault x
    rw [sumOver_nil] at grown
    dsimp only at grown ⊢
    omega

/-- **A command leaves the claims on the bridge covered.** -/
theorem Accepted.covers (h : Accepted s params env command t) (standing : s.Standing)
    (recalls : m.Recalls s) (paid : List Payee) :
    t.Covers params.bridge (paid ++ m.payees t.events) s := by
  cases h with
  | registerWallet => exact Nat.le_refl _
  | setWalletState => exact Nat.le_refl _
  | setVaultStatus => exact Nat.le_refl _
  | reveal => exact Nat.le_refl _
  | @reserve depositor request d price expiry r unreserved reveals priced expires row =>
    have fresh : s.reservations.get? r.key = none := by
      rw [row]
      exact unreserved
    have pending : r.status = .revealed := by rw [row]
    generalize paid ++ m.payees _ = paid
    have claims : (State.addReservation { s with deposits := s.deposits.insert d.key d } r).claims
        params.bridge paid = s.claims params.bridge paid :=
      State.claims_addReservation params.bridge paid fresh pending
    have strayed : (State.addReservation { s with deposits := s.deposits.insert d.key d } r).strayed
        params.bridge paid = s.strayed params.bridge paid :=
      State.strayed_addReservation params.bridge paid fresh pending
    unfold Transition.Covers
    rw [claims, strayed]
    exact Nat.le_refl _
  | @settleSweep relayer request hash t proven settles =>
    exact (State.settleSweep_ok_iff.mp settles).covers standing.backs recalls paid
  | @redeem key r active inTime =>
    obtain ⟨found, isActive⟩ := State.active_of_activeReservation active
    generalize paid ++ m.payees _ = paid
    have claims := State.claims_endReservation params.bridge paid .redeemed found isActive
      (by decide)
    have strayed := State.strayed_endReservation params.bridge paid .redeemed found isActive
    show (s.endReservation key .redeemed).claims _ paid + _ + _
      ≤ _ + (s.endReservation key .redeemed).strayed _ paid + _
    rw [strayed]
    simp [Ledger.gained, Ledger.lost, Ledger.batchMoves, Ledger.moves, Move.gain, Move.loss]
    -- The bridge burns what it was credited with, or what it burns strays.
    by_cases own : r.depositor = params.bridge
    · by_cases credited : lastPayee key paid = some params.bridge
      · simp [own, credited] at claims ⊢
        omega
      · simp [own, credited] at claims ⊢
        omega
    · simp [own]
      omega
  | @liquidate liquidator key r active late =>
    obtain ⟨found, isActive⟩ := State.active_of_activeReservation active
    generalize paid ++ m.payees _ = paid
    have claims := State.claims_endReservation params.bridge paid .liquidated found isActive
      (by decide)
    have strayed := State.strayed_endReservation params.bridge paid .liquidated found isActive
    show (s.endReservation key .liquidated).claims _ paid + _ + _
      ≤ _ + (s.endReservation key .liquidated).strayed _ paid + _
    rw [strayed]
    simp [Ledger.gained, Ledger.lost, Ledger.batchMoves, Ledger.moves, Move.gain, Move.loss]
    omega

end Step

/-! ## §6. Runs. -/

/-- Whom the log of a service credits for which deposits. -/
def Service.paid (service : Service) : List Payee :=
  Memory.blank.payees (service.log.events.map (·.event))

/-- What has strayed from an account: what it has burnt for reservations of its own that other
accounts were credited for. -/
def Service.strayed (service : Service) (account : Identity) : Nat :=
  service.state.strayed account service.paid

/-- The bridge covers the claims on it, but for what has strayed. -/
structure Service.Covered (params : Params) (service : Service) : Prop where
  explained : service.Explained params
  woven : service.Woven
  covered : service.state.claims params.bridge service.paid
    ≤ (service.ledger.balanceOf params.bridge).toNat + service.strayed params.bridge

namespace Service

theorem Covered.opened (params : Params) : (Service.opened params).Covered params where
  explained := .opened params
  woven := .opened params
  covered := Nat.le_refl _

/-- **Every accepted command leaves the bridge covering the claims on it.** -/
theorem Covered.advance {params : Params} {service : Service} {env : Circumstances}
    {command : Command} {t : Transition Receipt} {ledger : Ledger}
    (covered : service.Covered params)
    (accepted : Accepted service.state service.params env command t)
    (paid : service.ledger.applyBatch t.ledgerOps = .ok ledger) :
    (service.advance t env.now ledger).Covered params where
  explained := covered.explained.advance accepted paid
  woven := covered.woven.advance accepted
  covered := by
    have told : (service.advance t env.now ledger).paid = service.paid
        ++ (Memory.blank.reading (service.log.events.map (·.event))).payees t.events := by
      rw [Service.paid, map_event_advance, Memory.payees_append]
      rfl
    have moved := accepted.covers covered.woven.standing covered.explained.recalls service.paid
    unfold Transition.Covers at moved
    have balance := Ledger.balanceOf_applyBatch params.bridge paid
    rw [covered.explained.params_eq, ← told] at moved
    rw [covered.explained.bridge] at balance
    -- Only live reservations count, and the log says the same of them as before.
    have claims : service.state.claims params.bridge (service.advance t env.now ledger).paid
        = service.state.claims params.bridge service.paid := by
      refine Table.sumBy_congr fun key r kept => ?_
      unfold State.claimOn
      split
      case isTrue active =>
        rw [told, accepted.keeps_payee (covered.woven.tied key) kept (.inl active)]
      case isFalse => rfl
    have strayed : service.state.strayed params.bridge (service.advance t env.now ledger).paid
        = service.state.strayed params.bridge service.paid := by
      refine Table.sumBy_congr fun key r kept => ?_
      unfold State.strayedFrom
      by_cases closed : r.status = .redeemed
      · rw [told, accepted.keeps_payee (covered.woven.tied key) kept (.inr closed)]
      · rw [if_neg fun h => closed h.1, if_neg fun h => closed h.1]
    have before := covered.covered
    unfold Service.strayed at before
    show t.state.claims params.bridge _ ≤ (ledger.balanceOf params.bridge).toNat
      + t.state.strayed params.bridge _
    omega

end Service

/-- **Pool and strayed burns cover the bonuses**: after any run, whoever goes by the name of the
bridge, its balance and what has strayed from it are no less than the active bonuses. -/
theorem bonusPool_covered {σ : Type} [Store σ] {params : Params} {orders : List Order}
    {w : World σ} (reached : w.Reached params orders) :
    w.service.state.activeBonuses
      ≤ (w.service.ledger.balanceOf params.bridge).toNat + w.service.strayed params.bridge := by
  have covered : w.service.Covered params :=
    reached.invariant (fun service => service.Covered params) (.opened params)
      fun _ _ _ _ _ covered accepted paid => covered.advance accepted paid
  have among := w.service.state.activeBonuses_le_claims params.bridge w.service.paid
  exact Nat.le_trans among covered.covered

namespace Sample

/-- A large reserved deposit, and one that is routed to a vault. -/
def pledged : Funding := ⟨tx [] 20000000000, 0, wallet, none⟩
def rerouted : Funding := ⟨tx [⟨Octets.replicate 32 0x44, 0⟩] 10000000, 0, wallet, some ⟨"vault"⟩⟩

/-- The sweep of the large deposit, and the sweep of the other one on top of it. -/
def lower : Tx := tx [pledged.outpoint] 19999999500
def upper : Tx := tx [⟨lower.hash, 0⟩, rerouted.outpoint] 20009999000

/-- The bridge reserves a deposit, has the vault credited for it, and redeems it. -/
def straying : List Order := [
  ⟨env 1, .registerWallet wallet .live⟩,
  ⟨env 2, .setVaultStatus ⟨"vault"⟩ true⟩,
  ⟨env 3, .reserve ⟨"alice"⟩ ⟨pledged, 1460, address⟩⟩,
  ⟨env 4, .settleSweep ⟨"alice"⟩ (sweep lower none)⟩,
  ⟨env 5, .reserve ⟨"bridge"⟩ ⟨rerouted, 1460, address⟩⟩,
  ⟨env 6, .settleSweep ⟨"bridge"⟩
    { sweep upper (some ⟨lower.hash, 0, 19999999500⟩) with vault := some ⟨"vault"⟩ }⟩,
  ⟨env 7, .redeem ⟨"bridge"⟩ rerouted.key⟩]

/-- Where that leads from an empty store. -/
def strayedAway : World Volatile := (World.mk (Service.opened {}) Volatile.empty).serve straying

end Sample

/-- With what the bridge has burnt in the place of the vault the bonus is covered. -/
theorem bonusPool_covered_sample :
    Sample.strayedAway.service.strayed ({} : Params).bridge = 5599500 ∧
    Sample.strayedAway.service.state.activeBonuses
      ≤ (Sample.strayedAway.service.ledger.balanceOf ({} : Params).bridge).toNat
        + Sample.strayedAway.service.strayed ({} : Params).bridge := by
  have reached : Sample.strayedAway.Reached {} Sample.straying := Volatile.reached_serve ..
  exact ⟨by decide +kernel, bonusPool_covered reached⟩

/-- The pool alone does not cover the bonus. -/
theorem bonusPool_short :
    Sample.strayedAway.Reached {} Sample.straying ∧
    ({} : Params).treasury ≠ ({} : Params).bridge ∧
    (Sample.strayedAway.service.ledger.balanceOf ({} : Params).bridge).toNat
      < Sample.strayedAway.service.state.activeBonuses :=
  ⟨Volatile.reached_serve .., by decide, by decide +kernel⟩

end Custody
