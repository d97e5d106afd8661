/-
  Custody.Proofs.Holdings
  ────────────────────────────────
  **WHAT IS HELD UNDER A KEY, AND HOW A COMMAND MOVES IT.**

  Deposit, reservation and redemption of one key are looked at together.  Seen
  from a key, a command either does nothing or makes one of six turns, and it
  reports the events of that turn alone.  What is true of every key then needs
  six cases, whatever the commands do to other keys.

  Main facts:
    * `Accepted.turn`     — an accepted command makes one turn on every key;
    * `Turn.sound`        — a turn leaves a sound holding sound;
    * `Accepted.standing` — an accepted command leaves a standing state standing.
-/
import Custody.Proofs.Sweeps

namespace Custody

/-! ## §1. Events and holdings of a key. -/

/-- The key that an event carries, if it carries one. -/
def Event.key? : Event → Option DepositKey
  | .depositRevealed key .. => some key
  | .depositSettled key .. => some key
  | .reservationCreated key .. => some key
  | .reservationActivated key .. => some key
  | .reservationRedeemed key .. => some key
  | .reservationLiquidated key .. => some key
  | .priorityRedemptionRequested key .. => some key
  | .depositsSwept .. | .mainOutputUpdated .. => none
  | .walletRegistered .. | .walletStateChanged .. | .vaultStatusUpdated .. => none

/-- The events that carry a key. -/
def eventsOf (key : DepositKey) (events : List Event) : List Event :=
  events.filter fun e => e.key? = some key

@[simp] theorem eventsOf_nil (key : DepositKey) : eventsOf key [] = [] := rfl

theorem eventsOf_append (key : DepositKey) (xs ys : List Event) :
    eventsOf key (xs ++ ys) = eventsOf key xs ++ eventsOf key ys := List.filter_append ..

/-- Events that all carry a key are its events. -/
theorem eventsOf_own {key : DepositKey} {events : List Event}
    (h : ∀ e ∈ events, e.key? = some key) : eventsOf key events = events := by
  refine List.filter_eq_self.mpr ?_
  intro e mem
  exact decide_eq_true (h e mem)

/-- A key that no event carries has no events. -/
theorem eventsOf_other {key : DepositKey} {events : List Event}
    (h : ∀ e ∈ events, e.key? ≠ some key) : eventsOf key events = [] := by
  refine List.filter_eq_nil_iff.mpr ?_
  intro e mem
  simpa using h e mem

/-- What is held under one key. -/
structure Holding where
  deposit : Option Deposit
  reservation : Option Reservation
  redemption : Option PriorityRedemption

/-- What a state holds under a key. -/
def State.holding (s : State) (key : DepositKey) : Holding :=
  ⟨s.deposits.get? key, s.reservations.get? key, s.redemptions.get? key⟩

/-- Who sends a command, if it is not the operator. -/
def Command.caller? : Command → Option Identity
  | .reveal depositor _ => some depositor
  | .reserve depositor _ => some depositor
  | .settleSweep relayer _ => some relayer
  | .redeem redeemer _ => some redeemer
  | .liquidate liquidator _ => some liquidator
  | .registerWallet .. | .setWalletState .. | .setVaultStatus .. => none

/-- The funding output that a command names, if it names one. -/
def Command.funding? : Command → Option Funding
  | .reveal _ request => some request.funding
  | .reserve _ request => some request.funding
  | _ => none

/-! ## §2. Turns. -/

/-- What a command of some caller can do to what is held under a key, and the events that carry
the key. -/
inductive Turn (key : DepositKey) (now : UInt64) (caller : Option Identity) :
    Holding → List Event → Holding → Prop
  | idle {held : Holding} : Turn key now caller held [] held
  | reveal {d : Deposit} {r : Option Reservation} {owed : Option PriorityRedemption}
      (own : d.key = key) (outpoint : d.outpoint.key = key) (unswept : d.sweptAt = 0)
      (untagged : d.isReserved = false) (sent : caller = some d.depositor) :
      Turn key now caller ⟨none, r, owed⟩ [d.revealed] ⟨some d, r, owed⟩
  | reserve {d : Deposit} {r : Reservation} {owed : Option PriorityRedemption}
      (own : d.key = key) (outpoint : d.outpoint.key = key) (unswept : d.sweptAt = 0)
      (tagged : d.isReserved = true) (sent : caller = some d.depositor)
      (reservationOwn : r.key = key) (pending : r.status = .revealed)
      (balanced : r.isBalanced = true) (unpaid : r.sweepFee = 0) (positive : 0 < r.minted.toNat)
      (amount : r.amount = d.amount) (depositor : r.depositor = d.depositor)
      (wallet : r.walletKeyHash = d.walletKeyHash)
      (funding : r.fundingTxHash = d.fundingTxHash ∧ r.fundingOutputIndex = d.fundingOutputIndex) :
      Turn key now caller ⟨none, none, owed⟩ [
        d.revealed,
        .reservationCreated key d.depositor r.amount r.minted r.treasuryFee r.liquidationBonus
          r.expiry] ⟨some d, some r, owed⟩
  | settle {d : Deposit} {r : Option Reservation} {owed : Option PriorityRedemption}
      {hash : TxHash} {credited share : UInt64}
      (unswept : d.isSwept = false) (untagged : d.isReserved = false) :
      Turn key now caller ⟨some d, r, owed⟩
        [.depositSettled key d.depositor hash credited share d.treasuryFee]
        ⟨some { d with sweptAt := now }, r, owed⟩
  | activate {d : Deposit} {r final : Reservation} {owed : Option PriorityRedemption}
      {hash : TxHash} {share : UInt64}
      (unswept : d.isSwept = false) (tagged : d.isReserved = true) (pending : r.status = .revealed)
      (balanced : r.isBalanced = true) (left : share.toNat < r.minted.toNat)
      (row : final = { r with minted := r.minted - share, sweepFee := share, status := .active }) :
      Turn key now caller ⟨some d, some r, owed⟩ [
        .reservationActivated key share final.minted,
        .depositSettled key d.depositor hash final.minted share final.treasuryFee]
        ⟨some { d with sweptAt := now }, some final, owed⟩
  | redeem {d : Option Deposit} {r : Reservation} {owed : Option PriorityRedemption}
      (active : r.status = .active) (sent : caller = some r.depositor) :
      Turn key now caller ⟨d, some r, owed⟩ [
        .reservationRedeemed key r.depositor r.minted r.liquidationBonus,
        .priorityRedemptionRequested key r.walletKeyHash r.amount
          (r.treasuryFee + r.liquidationBonus)]
        ⟨d, some { r with status := .redeemed },
          some (State.redemptionOf r key r.depositor now)⟩
  | liquidate {d : Option Deposit} {r : Reservation} {owed : Option PriorityRedemption}
      {liquidator : Identity} (active : r.status = .active) :
      Turn key now caller ⟨d, some r, owed⟩
        [.reservationLiquidated key liquidator r.liquidationBonus]
        ⟨d.map fun d => { d with extraData := none }, some { r with status := .liquidated }, owed⟩

/-! ## §3. A sweep makes one turn on each of its keys. -/

namespace State

section Run

variable {now : UInt64} {sweepTxHash : TxHash} {p q : Progress} {key : DepositKey}
  {share : UInt64} {split : FeeSplit} {count place : Nat} {keys : List DepositKey}

/-- What settling has done to every key, with the events that it has reported. -/
structure Turns (now : UInt64) (keys : List DepositKey) (p q : Progress) (events : List Event) :
    Prop where
  reported : q.events = p.events ++ events
  carried : ∀ e ∈ events, ∃ key ∈ keys, e.key? = some key
  turn : ∀ caller key, Turn key now caller (p.state.holding key) (eventsOf key events)
    (q.state.holding key)
  frame : ∀ key, key ∉ keys → q.state.holding key = p.state.holding key

/-- Settling other deposits tells nothing of a key. -/
theorem Turns.untouched {events : List Event} (turns : Turns now keys p q events)
    (h : key ∉ keys) : eventsOf key events = [] := by
  refine eventsOf_other ?_
  intro e mem same
  obtain ⟨other, among, carries⟩ := turns.carried e mem
  rw [carries] at same
  cases same
  exact h among

/-- A step that touches one key alone makes turns if it makes one there. -/
theorem Turns.of_one {events : List Event} (reported : q.events = p.events ++ events)
    (carried : ∀ e ∈ events, e.key? = some key)
    (turn : ∀ caller, Turn key now caller (p.state.holding key) events (q.state.holding key))
    (frame : ∀ other, other ≠ key → q.state.holding other = p.state.holding other) :
    Turns now [key] p q events where
  reported := reported
  carried e mem := ⟨key, List.mem_singleton_self key, carried e mem⟩
  turn caller other := by
    by_cases same : other = key
    · rw [same, eventsOf_own carried]
      exact turn caller
    · have none_carried : eventsOf other events = [] := by
        refine eventsOf_other ?_
        intro e mem own
        rw [carried e mem] at own
        cases own
        exact same rfl
      rw [none_carried, frame other same]
      exact .idle
  frame other absent := frame other fun same => absent (List.mem_singleton.mpr same)

/-- Settling one unswept deposit is a turn of its key. -/
theorem Settles.turns (h : Settles now sweepTxHash p key share q)
    (unswept : ∀ d, p.state.deposits.get? key = some d → d.isSwept = false) :
    ∃ events, Turns now [key] p q events := by
  cases h with
  | @ordinary d fees found untagged sum left =>
    refine ⟨_, Turns.of_one rfl (by simp [Event.key?]) ?_ ?_⟩
    · intro caller
      unfold holding
      rw [found, Table.get?_insert_self]
      exact .settle (unswept d found) untagged
    · intro other differ
      unfold holding
      rw [Table.get?_insert_of_ne _ _ differ]
  | @reserved d r final found tagged kept pending balanced left row =>
    refine ⟨_, Turns.of_one rfl (by simp [Event.key?]) ?_ ?_⟩
    · intro caller
      unfold holding
      rw [found, kept, Table.get?_insert_self, Table.get?_insert_self]
      exact .activate (unswept d found) tagged pending balanced left row
    · intro other differ
      unfold holding
      rw [Table.get?_insert_of_ne _ _ differ, Table.get?_insert_of_ne _ _ differ]

/-- **A sweep makes one turn on each of its keys and none on any other.** -/
theorem settleAll_turns (h : settleAll now sweepTxHash split count place p keys = .ok q)
    (distinct : keys.Nodup)
    (unswept : ∀ key ∈ keys, ∀ d, p.state.deposits.get? key = some d → d.isSwept = false) :
    ∃ events, Turns now keys p q events := by
  induction keys generalizing place p with
  | nil =>
    cases h
    exact ⟨[], (List.append_nil _).symm, by simp, fun _ _ => .idle, fun _ _ => rfl⟩
  | cons key rest ih =>
    obtain ⟨fresh, distinct⟩ := List.nodup_cons.mp distinct
    obtain ⟨between, first, others⟩ := settleAll_cons_ok h
    obtain ⟨xs, one⟩ := first.turns (unswept key List.mem_cons_self)
    -- The first step leaves the other keys alone, so they are still unswept.
    have still : ∀ other ∈ rest, ∀ d, between.state.deposits.get? other = some d →
        d.isSwept = false := by
      intro other mem d found
      have differ : other ∉ [key] := by
        intro same
        rw [List.mem_singleton.mp same] at mem
        exact fresh mem
      have same := congrArg Holding.deposit (one.frame other differ)
      exact unswept other (List.mem_cons_of_mem key mem) d (same.symm.trans found)
    obtain ⟨ys, many⟩ := ih others distinct still
    refine ⟨xs ++ ys, ?_, ?_, ?_, ?_⟩
    -- reported, carried, turn and frame
    · rw [many.reported, one.reported, List.append_assoc]
    · intro e mem
      rcases List.mem_append.mp mem with mem | mem
      · obtain ⟨other, among, carries⟩ := one.carried e mem
        exact ⟨other, List.mem_cons.mpr (.inl (List.mem_singleton.mp among)), carries⟩
      · obtain ⟨other, among, carries⟩ := many.carried e mem
        exact ⟨other, List.mem_cons_of_mem key among, carries⟩
    · intro caller other
      rw [eventsOf_append]
      -- The first key makes its turn now and none later; every other makes its turn later.
      by_cases same : other = key
      · rw [same, many.untouched fresh, many.frame key fresh, List.append_nil]
        exact one.turn caller key
      · have absent : other ∉ [key] := fun mem => same (List.mem_singleton.mp mem)
        rw [one.untouched absent, List.nil_append, ← one.frame other absent]
        exact many.turn caller other
    · intro other absent
      rw [List.mem_cons, not_or] at absent
      have differ : other ∉ [key] := fun mem => absent.1 (List.mem_singleton.mp mem)
      rw [many.frame other absent.2, one.frame other differ]

/-- The settled deposits of a sweep make their turns, from the walk over its inputs. -/
theorem sweep_turns {s : State} {request : SweepRequest} {walk : Walk}
    (taken : s.takeInputs request = .ok walk)
    (settled : settleAll now sweepTxHash split count 0 { state := s } walk.swept = .ok p) :
    Turns now walk.swept { state := s } p p.events := by
  obtain ⟨sound, -⟩ := takeInputs_sound taken
  have unswept : ∀ key ∈ walk.swept, ∀ d, s.deposits.get? key = some d → d.isSwept = false := by
    intro key mem d found
    obtain ⟨d', found', unswept, -⟩ := sound.unswept key mem
    rw [found'] at found
    cases found
    exact unswept
  obtain ⟨events, turns⟩ := settleAll_turns settled sound.distinct unswept
  have reported : p.events = events := turns.reported
  rw [reported]
  exact turns

end Run

namespace Reveals

variable {s : State} {params : DepositParams} {depositor : Identity} {funding : Funding}
  {extraData : Option ExtraData} {now : UInt64} {d : Deposit}

theorem key (h : s.Reveals params depositor funding extraData now d) : d.key = funding.key := by
  rw [h.row]

theorem absent (h : s.Reveals params depositor funding extraData now d) :
    s.deposits.get? d.key = none := by
  rw [h.key]
  exact h.unknown

/-- A deposit that can be revealed carries the key of its outpoint. -/
theorem outpoint_key (h : s.Reveals params depositor funding extraData now d) :
    d.outpoint.key = d.key := by
  rw [h.row]
  rfl

theorem unswept (h : s.Reveals params depositor funding extraData now d) : d.sweptAt = 0 := by
  rw [h.row]

theorem depositor_eq (h : s.Reveals params depositor funding extraData now d) :
    d.depositor = depositor := by
  rw [h.row]

/-- A deposit is reserved exactly if it is revealed with the tag. -/
theorem isReserved (h : s.Reveals params depositor funding extraData now d) :
    d.isReserved = (extraData == some reservationTag) := by
  rw [h.row]
  rfl

end Reveals

end State

/-! ## §4. Every command makes one turn on every key. -/

/-- A reservation that may be closed is an active one. -/
theorem State.active_of_activeReservation {s : State} {key : DepositKey} {r : Reservation}
    (h : s.activeReservation key = .ok r) :
    s.reservations.get? key = some r ∧ r.status = .active := by
  obtain ⟨found, isActive, -⟩ := State.activeReservation_ok h
  exact ⟨found, by simpa [Reservation.isActive] using isActive⟩

/-- Events that carry no key are a turn of nothing. -/
theorem Turn.of_keyless {key : DepositKey} {now : UInt64} {caller : Option Identity}
    {held : Holding} {events : List Event} (h : ∀ e ∈ events, e.key? = none) :
    Turn key now caller held (eventsOf key events) held := by
  rw [eventsOf_other fun e mem => by rw [h e mem]; simp]
  exact .idle

/-- **An accepted command is a turn of every key**, for what is held under it and told of it. -/
theorem Accepted.turn {s : State} {params : Params} {env : Circumstances} {command : Command}
    {t : Transition Receipt} (h : Accepted s params env command t) (key : DepositKey) :
    Turn key env.now command.caller? (s.holding key) (eventsOf key t.events)
      (t.state.holding key) := by
  cases h with
  | registerWallet => exact .of_keyless (by simp [Event.key?])
  | @setWalletState wallet stage row known =>
    refine .of_keyless ?_
    show ∀ e ∈ (if row.state = stage then [] else _), _
    split <;> simp [Event.key?]
  | setVaultStatus => exact .of_keyless (by simp [Event.key?])
  | @reveal depositor request d untagged reveals =>
    by_cases same : key = d.key
    · rw [same, eventsOf_own (by simp [Deposit.revealed, Event.key?])]
      unfold State.holding
      rw [reveals.absent, Table.get?_insert_self]
      refine .reveal rfl reveals.outpoint_key reveals.unswept ?_ ?_
      · rw [reveals.isReserved]
        simpa using untagged
      · rw [reveals.depositor_eq]
        rfl
    · rw [eventsOf_other (by simpa [Deposit.revealed, Event.key?, eq_comm] using same)]
      unfold State.holding
      rw [Table.get?_insert_of_ne _ _ same]
      exact .idle
  | @reserve depositor request d price expiry r unreserved reveals priced expires row =>
    have own : r.key = d.key := by rw [row]
    by_cases same : key = d.key
    · -- The deposit and its reservation stand under the same key.
      rw [same, eventsOf_own (by simp [Deposit.revealed, Event.key?])]
      unfold State.holding State.addReservation
      rw [reveals.absent, unreserved, own, Table.get?_insert_self, Table.get?_insert_self,
        ← reveals.depositor_eq]
      obtain ⟨positive, parts⟩ := State.price_balanced priced
      refine .reserve rfl reveals.outpoint_key reveals.unswept ?_ ?_ own ?_ ?_ ?_ ?_ ?_ ?_ ?_ ?_
      · rw [reveals.isReserved]
        exact beq_self_eq_true _
      · rw [reveals.depositor_eq]
        rfl
      · rw [row]
      · rw [r.isBalanced_iff, row]
        simpa using parts
      · rw [row]
      · rw [row]
        exact UInt64.lt_iff_toNat_lt.mp positive
      · rw [row]
      · rw [row, reveals.depositor_eq]
      · rw [row]
      · rw [row]
        exact ⟨rfl, rfl⟩
    · rw [eventsOf_other (by simpa [Deposit.revealed, Event.key?, eq_comm] using same)]
      unfold State.holding State.addReservation
      rw [own, Table.get?_insert_of_ne _ _ same, Table.get?_insert_of_ne _ _ same]
      exact .idle
  | @settleSweep relayer request hash t proven settles =>
    cases State.settleSweep_ok_iff.mp settles with
    | @mk value fee walk split p sweepable claimed paid taken left divided capped settled =>
      show Turn key env.now _ (s.holding key) (eventsOf key (p.events ++ _)) (p.state.holding key)
      have keyless : eventsOf key [.depositsSwept request.walletKeyHash hash
          (UInt64.ofNat p.settled.length) fee,
          .mainOutputUpdated request.walletKeyHash ⟨hash, 0, value⟩] = [] :=
        eventsOf_other (by simp [Event.key?])
      rw [eventsOf_append, keyless, List.append_nil]
      exact (State.sweep_turns taken settled).turn _ key
  | @redeem other r active inTime =>
    obtain ⟨found, isActive⟩ := State.active_of_activeReservation active
    by_cases same : key = other
    · rw [same, eventsOf_own (by simp [Event.key?])]
      unfold State.holding State.endReservation
      rw [found, Table.get?_insert_self, Table.get?_modify_eq, if_pos rfl, found]
      exact .redeem isActive rfl
    · rw [eventsOf_other (by simpa [Event.key?, eq_comm] using same)]
      unfold State.holding State.endReservation
      rw [Table.get?_insert_of_ne _ _ same, Table.get?_modify_eq, if_neg same]
      exact .idle
  | @liquidate liquidator other r active late =>
    obtain ⟨found, isActive⟩ := State.active_of_activeReservation active
    by_cases same : key = other
    · rw [same, eventsOf_own (by simp [Event.key?])]
      unfold State.holding State.endReservation
      rw [found, Table.get?_modify_eq, Table.get?_modify_eq, if_pos rfl, if_pos rfl, found]
      exact .liquidate isActive
    · rw [eventsOf_other (by simpa [Event.key?, eq_comm] using same)]
      unfold State.holding State.endReservation
      rw [Table.get?_modify_eq, Table.get?_modify_eq, if_neg same, if_neg same]
      exact .idle

/-! ## §5. Sound holdings. -/

/-- What is held under a key carries it, whatever else is true of it. -/
structure Holding.Keyed (key : DepositKey) (held : Holding) : Prop where
  deposit : ∀ d, held.deposit = some d → d.key = key
  reservation : ∀ r, held.reservation = some r → r.key = key
  redemption : ∀ owed, held.redemption = some owed → owed.key = key

/-- A turn leaves what is held under a key with that key. -/
theorem Turn.keyed {key : DepositKey} {now : UInt64} {caller : Option Identity}
    {held next : Holding} {events : List Event} (h : Turn key now caller held events next)
    (keyed : held.Keyed key) : next.Keyed key := by
  cases h with
  | idle => exact keyed
  | reveal own =>
    refine ⟨?_, keyed.reservation, keyed.redemption⟩
    rintro _ ⟨⟩
    exact own
  | reserve own outpoint unswept tagged sent reservationOwn =>
    refine ⟨?_, ?_, keyed.redemption⟩
    · rintro _ ⟨⟩
      exact own
    · rintro _ ⟨⟩
      exact reservationOwn
  | @settle d =>
    refine ⟨?_, keyed.reservation, keyed.redemption⟩
    rintro _ ⟨⟩
    exact keyed.deposit d rfl
  | @activate d r final owed hash share unswept tagged pending balanced left row =>
    refine ⟨?_, ?_, keyed.redemption⟩
    · rintro _ ⟨⟩
      exact keyed.deposit d rfl
    · rintro _ ⟨⟩
      rw [row]
      exact keyed.reservation r rfl
  | @redeem d r =>
    refine ⟨keyed.deposit, ?_, ?_⟩
    · rintro _ ⟨⟩
      exact keyed.reservation r rfl
    · rintro _ ⟨⟩
      rfl
  | @liquidate d r =>
    refine ⟨?_, ?_, keyed.redemption⟩
    · intro _ found
      obtain ⟨d, held, rfl⟩ := Option.map_eq_some_iff.mp found
      exact keyed.deposit d held
    · rintro _ ⟨⟩
      exact keyed.reservation r rfl

/-- What is true of everything that is held under a key: rows carry the key, a reservation adds up
and has its deposit, it has paid nothing before the sweep, and a redemption is that of a redeemed
reservation. -/
structure Holding.Sound (key : DepositKey) (held : Holding) : Prop where
  deposit_key : ∀ d, held.deposit = some d → d.key = key ∧ d.outpoint.key = key
  reservation_key : ∀ r, held.reservation = some r → r.key = key
  balanced : ∀ r, held.reservation = some r → r.isBalanced = true ∧ 0 < r.minted.toNat
  unpaid : ∀ r, held.reservation = some r → r.status = .revealed → r.sweepFee = 0
  backed : ∀ r, held.reservation = some r → ∃ d, held.deposit = some d ∧ d.amount = r.amount ∧
    d.depositor = r.depositor ∧ d.walletKeyHash = r.walletKeyHash ∧
    d.outpoint = ⟨r.fundingTxHash, r.fundingOutputIndex⟩
  redeemed : ∀ owed, held.redemption = some owed → owed.key = key ∧
    ∃ r, held.reservation = some r ∧ r.status = .redeemed

/-- Taking a share of the fee from what is minted keeps a reservation balanced. -/
theorem Reservation.isBalanced_activate {r : Reservation} {share : UInt64}
    (balanced : r.isBalanced = true) (unpaid : r.sweepFee = 0)
    (left : share.toNat < r.minted.toNat) :
    Reservation.isBalanced
        { r with minted := r.minted - share, sweepFee := share, status := .active } = true
      ∧ 0 < (r.minted - share).toNat := by
  have rest : (r.minted - share).toNat = r.minted.toNat - share.toNat := toNat_sub_of_lt left
  have identity := r.isBalanced_iff.mp balanced
  rw [unpaid, UInt64.toNat_zero] at identity
  refine ⟨(Reservation.isBalanced_iff _).mpr ?_, by omega⟩
  show (r.minted - share).toNat + r.treasuryFee.toNat + r.liquidationBonus.toNat + share.toNat
    = r.amount.toNat
  omega

/-- Where nothing is held, all is sound. -/
theorem Holding.sound_none (key : DepositKey) : Holding.Sound key ⟨none, none, none⟩ where
  deposit_key := nofun
  reservation_key := nofun
  balanced := nofun
  unpaid := nofun
  backed := nofun
  redeemed := nofun

/-- What is sound carries its key. -/
theorem Holding.Sound.keyed {key : DepositKey} {held : Holding} (sound : held.Sound key) :
    held.Keyed key where
  deposit d found := (sound.deposit_key d found).1
  reservation := sound.reservation_key
  redemption owed found := (sound.redeemed owed found).1

/-- **A turn keeps what is held sound.** -/
theorem Turn.sound {key : DepositKey} {now : UInt64} {caller : Option Identity}
    {held next : Holding} {events : List Event} (h : Turn key now caller held events next)
    (sound : held.Sound key) : next.Sound key := by
  have after := h.keyed sound.keyed
  cases h with
  | idle => exact sound
  | @reveal d r owed own outpoint =>
    refine ⟨?_, sound.reservation_key, sound.balanced, sound.unpaid, ?_, sound.redeemed⟩
    · intro _ found
      cases found
      exact ⟨own, outpoint⟩
    · -- Without a deposit there was no reservation.
      intro r kept
      obtain ⟨d, absent, -⟩ := sound.backed r kept
      cases absent
  | @reserve d r owed own outpoint unswept tagged sent reservationOwn pending balanced unpaid
      positive amount depositor wallet funding =>
    refine ⟨?_, after.reservation, ?_, ?_, ?_, ?_⟩
    · intro _ found
      cases found
      exact ⟨own, outpoint⟩
    · intro _ found
      cases found
      exact ⟨balanced, positive⟩
    · intro _ found _
      cases found
      exact unpaid
    · intro _ found
      cases found
      refine ⟨d, rfl, amount.symm, depositor.symm, wallet.symm, ?_⟩
      rw [funding.1, funding.2]
      rfl
    · -- Without a reservation there was no redemption.
      intro owed held
      obtain ⟨-, r, absent, -⟩ := sound.redeemed owed held
      cases absent
  | @settle d r owed hash credited share unswept untagged =>
    refine ⟨?_, sound.reservation_key, sound.balanced, sound.unpaid, ?_, sound.redeemed⟩
    · intro _ found
      cases found
      exact sound.deposit_key d rfl
    · intro r kept
      obtain ⟨_, ⟨⟩, backed⟩ := sound.backed r kept
      exact ⟨_, rfl, backed⟩
  | @activate d r final owed hash share unswept tagged pending balanced left row =>
    have unpaid := sound.unpaid r rfl pending
    refine ⟨?_, after.reservation, ?_, ?_, ?_, ?_⟩
    · intro _ found
      cases found
      exact sound.deposit_key d rfl
    · intro _ found
      cases found
      rw [row]
      exact Reservation.isBalanced_activate balanced unpaid left
    · intro _ found waiting
      cases found
      rw [row] at waiting
      cases waiting
    · intro _ found
      cases found
      obtain ⟨_, ⟨⟩, backed⟩ := sound.backed r rfl
      rw [row]
      exact ⟨_, rfl, backed⟩
    · -- A reservation that is pending or active has not been redeemed.
      intro owed held
      obtain ⟨-, _, ⟨⟩, closed⟩ := sound.redeemed owed held
      rw [pending] at closed
      cases closed
  | @redeem d r owed active sent =>
    refine ⟨sound.deposit_key, after.reservation, ?_, ?_, ?_, ?_⟩
    · intro _ found
      cases found
      exact sound.balanced r rfl
    · intro _ found ended
      cases found
      cases ended
    · intro _ found
      cases found
      exact sound.backed r rfl
    · intro _ found
      cases found
      exact ⟨rfl, _, rfl, rfl⟩
  | @liquidate d r owed liquidator active =>
    refine ⟨?_, after.reservation, ?_, ?_, ?_, ?_⟩
    · intro _ found
      obtain ⟨d, held, rfl⟩ := Option.map_eq_some_iff.mp found
      exact sound.deposit_key d held
    · intro _ found
      cases found
      exact sound.balanced r rfl
    · intro _ found ended
      cases found
      cases ended
    · intro _ found
      cases found
      obtain ⟨d, held, backed⟩ := sound.backed r rfl
      exact ⟨_, Option.map_eq_some_iff.mpr ⟨d, held, rfl⟩, backed⟩
    · intro owed held
      obtain ⟨-, _, ⟨⟩, closed⟩ := sound.redeemed owed held
      rw [active] at closed
      cases closed

/-! ## §6. Standing states. -/

/-- What is true of every state that a service reaches. -/
structure State.Standing (s : State) : Prop where
  held : ∀ key, (s.holding key).Sound key
  wallet_key : ∀ wallet row, s.wallets.get? wallet = some row → row.keyHash = wallet
  /-- A depositor's list holds its own reservations, each once, and at least one. -/
  indexed : ∀ depositor keys, s.index.get? depositor = some keys → keys ≠ [] ∧ keys.Nodup ∧
    ∀ key ∈ keys, ∃ r, s.reservations.get? key = some r ∧ r.depositor = depositor

namespace State.Standing

theorem empty : State.empty.Standing where
  held key := Holding.sound_none key
  wallet_key := nofun
  indexed := nofun

theorem backs {s : State} (standing : s.Standing) : s.Backs := by
  intro key r kept pending
  obtain ⟨d, found, amount, -⟩ := (standing.held key).backed r kept
  refine ⟨?_, (standing.held key).unpaid r kept pending⟩
  have found : s.deposits.get? key = some d := found
  rw [State.amountAt, found, ← amount]
  rfl

end State.Standing

/-- A turn keeps a reservation and its depositor. -/
theorem Turn.keeps_reservation {key : DepositKey} {now : UInt64} {caller : Option Identity}
    {held next : Holding} {events : List Event} (h : Turn key now caller held events next)
    {r : Reservation} (kept : held.reservation = some r) :
    ∃ after, next.reservation = some after ∧ after.depositor = r.depositor := by
  cases h with
  | idle => exact ⟨r, kept, rfl⟩
  | reveal => exact ⟨r, kept, rfl⟩
  | reserve => cases kept
  | settle => exact ⟨r, kept, rfl⟩
  | activate unswept tagged pending balanced left row =>
    cases kept
    exact ⟨_, rfl, by rw [row]⟩
  | redeem =>
    cases kept
    exact ⟨_, rfl, rfl⟩
  | liquidate =>
    cases kept
    exact ⟨_, rfl, rfl⟩

section Preservation

variable {s : State} {params : Params} {env : Circumstances} {command : Command}
  {t : Transition Receipt}

/-- Every command keeps wallets under the key hashes that they carry. -/
theorem Accepted.wallet_key (h : Accepted s params env command t)
    (keyed : ∀ wallet row, s.wallets.get? wallet = some row → row.keyHash = wallet)
    (wallet : PubKeyHash) (row : Wallet) (found : t.state.wallets.get? wallet = some row) :
    row.keyHash = wallet := by
  have keep := keyed wallet row
  cases h with
  | registerWallet =>
    rw [Table.get?_insert_eq] at found
    split at found
    case isTrue same =>
      cases found
      exact same.symm
    case isFalse => exact keep found
  | @setWalletState other stage old known =>
    rw [Table.get?_insert_eq] at found
    split at found
    case isTrue same =>
      cases found
      rw [same]
      exact keyed other old known
    case isFalse => exact keep found
  | setVaultStatus => exact keep found
  | reveal => exact keep found
  | reserve => exact keep found
  | settleSweep proven settles =>
    cases State.settleSweep_ok_iff.mp settles with
    | mk sweepable claimed paid taken left divided capped settled =>
      obtain ⟨same, -⟩ := State.settleAll_frame settled
      replace found : Table.get? (Table.modify _ _ _) wallet = some row := found
      rw [Table.get?_modify_eq, same] at found
      split at found
      case isTrue own =>
        obtain ⟨old, known, rfl⟩ := Option.map_eq_some_iff.mp found
        rw [own]
        exact keyed _ old known
      case isFalse => exact keep found
  | redeem => exact keep found
  | liquidate => exact keep found

/-- How a command moves the lists of reservations: not at all, or by one that is new and that it
reports. -/
theorem Accepted.index_cases (h : Accepted s params env command t) :
    t.state.index = s.index ∨
      ∃ r, s.reservations.get? r.key = none ∧ t.state.reservations.get? r.key = some r ∧
        t.state.index
          = s.index.insert r.depositor ((s.index.get? r.depositor).getD [] ++ [r.key]) ∧
        0 < t.events.length := by
  cases h with
  | registerWallet => exact .inl rfl
  | setWalletState => exact .inl rfl
  | setVaultStatus => exact .inl rfl
  | reveal => exact .inl rfl
  | @reserve depositor request d price expiry r unreserved reveals priced expires row =>
    have own : r.key = d.key := by rw [row]
    refine .inr ⟨r, by rw [own]; exact unreserved, ?_, rfl, Nat.succ_pos _⟩
    exact Table.get?_insert_self _ _ _
  | settleSweep proven settles =>
    cases State.settleSweep_ok_iff.mp settles with
    | mk sweepable claimed paid taken left divided capped settled =>
      obtain ⟨-, same, -⟩ := State.settleAll_frame settled
      exact .inl same
  | redeem => exact .inl rfl
  | liquidate => exact .inl rfl

/-- **An accepted command leaves a standing state standing.** -/
theorem Accepted.standing (h : Accepted s params env command t) (standing : s.Standing) :
    t.state.Standing where
  held key := (h.turn key).sound (standing.held key)
  wallet_key := h.wallet_key standing.wallet_key
  indexed := by
    -- A reservation that is listed stays, whatever the command.
    have stays : ∀ {depositor key}, (∃ r, s.reservations.get? key = some r ∧
        r.depositor = depositor) → ∃ r, t.state.reservations.get? key = some r ∧
        r.depositor = depositor := by
      intro depositor key known
      obtain ⟨r, kept, rfl⟩ := known
      exact (h.turn key).keeps_reservation kept
    intro depositor keys listed
    rcases h.index_cases with same | ⟨r, fresh, added, lists, -⟩
    · rw [same] at listed
      obtain ⟨some_key, distinct, each⟩ := standing.indexed depositor keys listed
      exact ⟨some_key, distinct, fun key mem => stays (each key mem)⟩
    · rw [lists, Table.get?_insert_eq] at listed
      split at listed
      case isFalse =>
        obtain ⟨some_key, distinct, each⟩ := standing.indexed depositor keys listed
        exact ⟨some_key, distinct, fun key mem => stays (each key mem)⟩
      case isTrue own =>
        cases listed
        subst own
        have before : ((s.index.get? r.depositor).getD []).Nodup ∧
            ∀ key ∈ (s.index.get? r.depositor).getD [], ∃ r', s.reservations.get? key = some r' ∧
              r'.depositor = r.depositor := by
          cases known : s.index.get? r.depositor with
          | none => exact ⟨List.nodup_nil, by simp⟩
          | some old =>
            obtain ⟨-, distinct, each⟩ := standing.indexed _ old known
            exact ⟨distinct, each⟩
        refine ⟨by simp, List.nodup_append.mpr ⟨before.1, by simp, ?_⟩, ?_⟩
        · -- The new key had no reservation, and every key in the list has one.
          intro a ha b hb same
          rw [List.mem_singleton] at hb
          obtain ⟨r', kept, -⟩ := before.2 a ha
          rw [same, hb, fresh] at kept
          cases kept
        · intro key mem
          rcases List.mem_append.mp mem with mem | mem
          · exact stays (before.2 key mem)
          · rw [List.mem_singleton.mp mem]
            exact ⟨r, added, rfl⟩

end Preservation

end Custody
