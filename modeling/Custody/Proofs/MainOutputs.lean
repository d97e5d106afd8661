/-
  Custody.Proofs.MainOutputs
  ────────────────────────────────
  **MAIN OUTPUTS THAT ARE DEPOSITS TOO.**

  A sweep looks each input up among the deposits first, and takes it for the
  claimed main output only if there is none.  Nothing keeps a caller from
  revealing the output of a sweep as a deposit, before or after that sweep is
  settled.  From then on the wallet's main output cannot be spent: the input
  that spends it is taken for the deposit, and the main output that every
  sweep of the wallet has to claim is found unspent.

  So there are two cases.  Unless some command has named the output itself,
  the main output is no deposit and its input is taken for what it is; and if
  one has, the wallet is never swept again.

  Main facts:
    * `takeInputs_apart`           — an accepted claim is no deposit;
    * `Accepted.deposit_origin`    — a deposit is there because it was named;
    * `Accepted.mainOutput_cases`  — what a command does to a main output;
    * `mainOutput_apart_or_barred` — the two cases, after any run.
-/
import Mathlib.Control.Monad.Basic
import Custody.Proofs.Backing
import Custody.Proofs.Durability

namespace Custody

/-! ## §1. Claims that are accepted. -/

namespace State

/-- No deposit is kept under the outpoint of the main output that a request claims. -/
def ClaimApart (s : State) (request : SweepRequest) : Prop :=
  ∀ output, request.mainOutput = some output → s.deposits.get? output.outpoint.key = none

/-- An input is taken for the claimed main output only where no deposit is kept. -/
theorem takeInput_apart {s : State} {request : SweepRequest} {walk next : Walk} {spent : Outpoint}
    (before : walk.mainSpent = true → s.ClaimApart request)
    (taken : s.takeInput request walk spent = .ok next) (after : next.mainSpent = true) :
    s.ClaimApart request := by
  unfold takeInput at taken
  split at taken
  case h_1 d found =>
    -- A deposit leaves the mark of the main output as it was.
    simp only [takeDeposit, throw_bind, check_ok_iff, bind_ok_iff, pure_ok_iff] at taken
    obtain ⟨-, -, -, value, -, rfl⟩ := taken
    exact before after
  case h_2 absent =>
    intro output claimed
    unfold takeMainOutput at taken
    rw [claimed] at taken
    dsimp only at taken
    split at taken
    case isFalse => exact absurd taken throw_ne_ok
    case isTrue first =>
      rw [Bool.and_eq_true, beq_iff_eq] at first
      rw [first.2]
      exact absent

/-- The claimed output is spent only where no deposit is kept under its outpoint. -/
theorem walkInputs_apart {s : State} {request : SweepRequest} {count offset stop : Nat}
    {walk next : Walk} (before : walk.mainSpent = true → s.ClaimApart request)
    (walked : s.walkInputs request count offset walk = .ok (next, stop))
    (after : next.mainSpent = true) : s.ClaimApart request := by
  induction count generalizing offset walk with
  | zero =>
    cases walked
    exact before after
  | succ count ih =>
    simp only [walkInputs, bind_ok_iff, mapError_ok_iff] at walked
    obtain ⟨input, -, between, taken, walked⟩ := walked
    exact ih (takeInput_apart before taken) walked

/-- **A main output whose claim is accepted is no deposit.** -/
theorem takeInputs_apart {s : State} {request : SweepRequest} {walk : Walk}
    (taken : s.takeInputs request = .ok walk) : s.ClaimApart request := by
  simp only [takeInputs, throw_bind, check_ok_iff, bind_ok_iff, mapError_ok_iff, pure_ok_iff]
    at taken
  obtain ⟨count, -, ⟨last, stop⟩, walked, -, spent, rfl⟩ := taken
  intro output claimed
  rw [claimed] at spent
  simp only [Option.isSome_some, Bool.true_and, Bool.not_eq_true, Bool.not_eq_false'] at spent
  exact walkInputs_apart (by simp) walked spent output claimed

end State

/-! ## §2. Where deposits come from. -/

/-- Settling makes no deposit. -/
theorem State.settleAll_deposits {now : UInt64} {hash : TxHash} {split : FeeSplit}
    {count place : Nat} {p q : Progress} {keys : List DepositKey}
    (h : settleAll now hash split count place p keys = .ok q) {key : DepositKey} {d : Deposit}
    (found : q.state.deposits.get? key = some d) :
    ∃ old, p.state.deposits.get? key = some old := by
  induction keys generalizing place p with
  | nil =>
    cases h
    exact ⟨d, found⟩
  | cons other rest ih =>
    obtain ⟨between, first, others⟩ := settleAll_cons_ok h
    obtain ⟨old, held⟩ := ih others
    cases first with
    | ordinary known =>
      obtain ⟨before, kept, -⟩ := Table.seen_insert (fun _ => ()) known rfl key old held
      exact ⟨before, kept⟩
    | reserved known =>
      obtain ⟨before, kept, -⟩ := Table.seen_insert (fun _ => ()) known rfl key old held
      exact ⟨before, kept⟩

section Commands

variable {s : State} {params : Params} {env : Circumstances} {command : Command}
  {t : Transition Receipt}

/-- **A deposit is there because it was there before, or because the command named it.** -/
theorem Accepted.deposit_origin (h : Accepted s params env command t) {key : DepositKey}
    {d : Deposit} (found : t.state.deposits.get? key = some d) :
    (∃ old, s.deposits.get? key = some old) ∨ command.funding?.map Funding.key = some key := by
  cases h with
  | registerWallet => exact .inl ⟨d, found⟩
  | setWalletState => exact .inl ⟨d, found⟩
  | setVaultStatus => exact .inl ⟨d, found⟩
  | reveal untagged reveals =>
    rw [Table.get?_insert_eq] at found
    split at found
    case isTrue own => exact .inr (by rw [own, reveals.key]; rfl)
    case isFalse => exact .inl ⟨d, found⟩
  | @reserve depositor request new price expiry r unreserved reveals priced expires row =>
    replace found : (s.deposits.insert new.key new).get? key = some d := found
    rw [Table.get?_insert_eq] at found
    split at found
    case isTrue own => exact .inr (by rw [own, reveals.key]; rfl)
    case isFalse => exact .inl ⟨d, found⟩
  | settleSweep proven settles =>
    cases State.settleSweep_ok_iff.mp settles with
    | mk sweepable claimed paid taken left divided capped settled =>
      exact .inl (State.settleAll_deposits settled found)
  | redeem => exact .inl ⟨d, found⟩
  | liquidate =>
    obtain ⟨old, held, -⟩ := Table.seen_modify (fun _ => ()) (fun _ => rfl) key d found
    exact .inl ⟨old, held⟩

/-! ## §3. What a command does to a main output. -/

/-- The digest that a wallet keeps of its main output. -/
def State.slot (s : State) (wallet : PubKeyHash) : Option Digest :=
  (s.wallets.get? wallet).bind (·.mainOutputHash)

/-- Replacing a wallet with the same main output changes no slot. -/
theorem State.slot_insert {s next : State} {wallet : PubKeyHash} {row : Wallet}
    (wallets : next.wallets = s.wallets.insert wallet row)
    (same : row.mainOutputHash = s.slot wallet) (other : PubKeyHash) :
    next.slot other = s.slot other := by
  unfold slot at same ⊢
  rw [wallets, Table.get?_insert_eq]
  split
  case isTrue own =>
    rw [own, ← same]
    rfl
  case isFalse => rfl

/-- The claim of an accepted sweep is what the wallet keeps, by its digest, and no deposit. -/
theorem Accepted.sweep_claim {relayer : Identity} {request : SweepRequest}
    (h : Accepted s params env (.settleSweep relayer request) t) :
    request.mainOutput.map MainOutput.hash = s.slot request.walletKeyHash ∧
      s.ClaimApart request := by
  cases h with
  | settleSweep proven settles =>
    cases State.settleSweep_ok_iff.mp settles with
    | mk sweepable claimed paid taken left divided capped settled =>
      exact ⟨claimed, State.takeInputs_apart taken⟩

/-- An event that carries a key reports no main output. -/
theorem Event.mainOutputOf?_of_key {e : Event} {key : DepositKey} (carries : e.key? = some key)
    (wallet : PubKeyHash) : e.mainOutputOf? wallet = none := by
  cases e with
  | mainOutputUpdated => cases carries
  | _ => rfl

/-- **A command leaves a wallet's main output alone, or it is a sweep of the wallet.** -/
theorem Accepted.mainOutput_cases (h : Accepted s params env command t) (wallet : PubKeyHash) :
    (t.events.filterMap (Event.mainOutputOf? wallet) = [] ∧
      t.state.slot wallet = s.slot wallet) ∨
    ∃ relayer request output, command = .settleSweep relayer request ∧
      request.walletKeyHash = wallet ∧
      t.events.filterMap (Event.mainOutputOf? wallet) = [output] ∧
      t.state.slot wallet = some output.hash := by
  cases h with
  | @registerWallet new stage unknown =>
    refine .inl ⟨rfl, State.slot_insert rfl ?_ wallet⟩
    unfold State.slot
    rw [unknown]
    rfl
  | @setWalletState other stage row known =>
    refine .inl ⟨?_, State.slot_insert rfl ?_ wallet⟩
    · show List.filterMap _ (if row.state = stage then [] else _) = []
      split <;> rfl
    · unfold State.slot
      rw [known]
      rfl
  | setVaultStatus => exact .inl ⟨rfl, rfl⟩
  | reveal => exact .inl ⟨rfl, rfl⟩
  | reserve => exact .inl ⟨rfl, rfl⟩
  | @settleSweep relayer request hash t proven settles =>
    cases State.settleSweep_ok_iff.mp settles with
    | @mk value fee walk split p sweepable claimed paid taken left divided capped settled =>
      -- The settlements carry keys, so it is the sweep's own event that reports.
      have quiet : p.events.filterMap (Event.mainOutputOf? wallet) = [] := by
        refine List.filterMap_eq_nil_iff.mpr fun e mem => ?_
        obtain ⟨key, -, carries⟩ := (State.sweep_turns taken settled).carried e mem
        exact Event.mainOutputOf?_of_key carries wallet
      have slots : State.slot { p.state with
          wallets := p.state.wallets.modify request.walletKeyHash fun row =>
            { row with mainOutputHash := some (MainOutput.hash ⟨hash, 0, value⟩) } } wallet
          = if wallet = request.walletKeyHash then some (MainOutput.hash ⟨hash, 0, value⟩)
            else s.slot wallet := by
        obtain ⟨row, known⟩ := State.known_of_sweepable sweepable
        unfold State.slot
        rw [(State.settleAll_frame settled).1, Table.get?_modify_eq, known]
        split <;> rfl
      by_cases own : wallet = request.walletKeyHash
      · refine .inr ⟨relayer, request, ⟨hash, 0, value⟩, rfl, own.symm, ?_,
          slots.trans (if_pos own)⟩
        show (p.events ++ _).filterMap _ = _
        rw [List.filterMap_append, quiet]
        simp [List.filterMap_cons, Event.mainOutputOf?, own]
      · refine .inl ⟨?_, slots.trans (if_neg own)⟩
        show (p.events ++ _).filterMap _ = _
        rw [List.filterMap_append, quiet]
        simp [List.filterMap_cons, Event.mainOutputOf?, Ne.symm own]
  | redeem => exact .inl ⟨rfl, rfl⟩
  | liquidate => exact .inl ⟨rfl, rfl⟩

end Commands

/-! ## §4. What holds on the way. -/

namespace Service

/-- Every wallet keeps the digest of its last main output, and every deposit was named by one of
the orders. -/
structure Traced (orders : List Order) (service : Service) : Prop where
  slots : ∀ wallet, service.state.slot wallet
    = (service.log.lastMainOutput wallet).map MainOutput.hash
  named : ∀ key d, service.state.deposits.get? key = some d →
    ∃ order ∈ orders, order.command.funding?.map Funding.key = some key

/-- In a service without contents there is nothing to trace. -/
theorem Traced.opened (params : Params) (orders : List Order) :
    (Service.opened params).Traced orders where
  slots _ := rfl
  named := nofun

variable {service : Service} {order : Order} {orders : List Order} {t : Transition Receipt}
  {ledger : Ledger}

/-- A commit that tells one main output of a wallet makes it the last. -/
theorem lastMainOutput_advance_one {wallet : PubKeyHash} {output : MainOutput} {now : UInt64}
    (reported : t.events.filterMap (Event.mainOutputOf? wallet) = [output]) :
    (service.advance t now ledger).log.lastMainOutput wallet = some output := by
  unfold EventLog.lastMainOutput
  rw [mainOutputsOf_advance, reported]
  exact List.getLast?_concat

/-- Every accepted order leaves slots and deposits traced. -/
theorem Traced.advance (traced : service.Traced orders) (mem : order ∈ orders)
    (accepted : Accepted service.state service.params order.env order.command t) :
    (service.advance t order.env.now ledger).Traced orders where
  slots wallet := by
    rcases accepted.mainOutput_cases wallet with
      ⟨quiet, same⟩ | ⟨relayer, request, output, -, -, reported, kept⟩
    · rw [lastMainOutput_advance_quiet quiet, ← traced.slots wallet]
      exact same
    · rw [lastMainOutput_advance_one reported]
      exact kept
  named key d found := by
    rcases accepted.deposit_origin found with ⟨old, held⟩ | naming
    · exact traced.named key old held
    · exact ⟨order, mem, naming⟩

/-- The main output of a wallet is kept as a deposit too. -/
structure Blocked (wallet : PubKeyHash) (output : MainOutput) (service : Service) : Prop where
  last : service.log.lastMainOutput wallet = some output
  slot : service.state.slot wallet = some output.hash
  deposit : (service.state.deposits.get? output.outpoint.key).isSome

end Service

/-- If a command claims an output with the digest of this one, then it claims this one. -/
def Command.Knows (output : MainOutput) (command : Command) : Prop :=
  ∀ other, command.claim? = some other → other.hash = output.hash → other = output

namespace Service.Blocked

variable {service : Service} {wallet : PubKeyHash} {output : MainOutput} {env : Circumstances}
  {t : Transition Receipt} {ledger : Ledger}

/-- **No sweep of a wallet is accepted whose main output is a deposit.** -/
theorem not_accepted (blocked : service.Blocked wallet output) {relayer : Identity}
    {request : SweepRequest} (own : request.walletKeyHash = wallet)
    (knows : (Command.settleSweep relayer request).Knows output) :
    ¬ Accepted service.state service.params env (.settleSweep relayer request) t := by
  intro accepted
  obtain ⟨claimed, apart⟩ := accepted.sweep_claim
  rw [own, blocked.slot] at claimed
  -- What is claimed has the digest that the wallet keeps, so it is the main output itself.
  obtain ⟨other, named, same⟩ := Option.map_eq_some_iff.mp claimed
  rw [knows other named same] at named
  have held := blocked.deposit
  rw [apart output named] at held
  cases held

/-- An accepted command that knows the output leaves a blocked wallet blocked. -/
theorem advance (blocked : service.Blocked wallet output) {command : Command}
    (knows : command.Knows output)
    (accepted : Accepted service.state service.params env command t)
    (paid : service.ledger.applyBatch t.ledgerOps = .ok ledger) :
    (service.advance t env.now ledger).Blocked wallet output := by
  rcases accepted.mainOutput_cases wallet with
    ⟨quiet, same⟩ | ⟨relayer, request, -, rfl, own, -, -⟩
  · exact {
      last := (lastMainOutput_advance_quiet quiet).trans blocked.last
      slot := same.trans blocked.slot
      deposit := (accepted.grows paid).deposits _ blocked.deposit }
  · exact absurd accepted (blocked.not_accepted own knows)

/-- A sweep of the wallet is refused, over any store and under any circumstances. -/
theorem refuses (blocked : service.Blocked wallet output) {σ : Type} [Store σ] (store : σ)
    {relayer : Identity} {request : SweepRequest} (own : request.walletKeyHash = wallet)
    (knows : (Command.settleSweep relayer request).Knows output) :
    ∃ fault, (service.execute store env (.settleSweep relayer request)).result
      = .error fault := by
  have executes := service.execute_executes store env (.settleSweep relayer request)
  generalize service.execute store env (.settleSweep relayer request) = out at executes
  cases executes with
  | unproposed => exact ⟨_, rfl⟩
  | unpaid => exact ⟨_, rfl⟩
  | unstored => exact ⟨_, rfl⟩
  | committed proposed =>
    exact absurd (Service.propose_accepted proposed) (blocked.not_accepted own knows)

end Service.Blocked

/-! ## §5. After any run. -/

/-- No deposit is kept under the outpoint of a main output, and an input that spends it is taken
for the main output. -/
structure State.Apart (s : State) (output : MainOutput) : Prop where
  absent : s.deposits.get? output.outpoint.key = none
  taken (request : SweepRequest) (walk : State.Walk) :
    s.takeInput request walk output.outpoint = State.takeMainOutput request walk output.outpoint

/-- The main output of a wallet is a deposit, stays its main output, and no sweep of the wallet is
accepted. -/
structure World.Barred {σ : Type} [Store σ] (wallet : PubKeyHash) (output : MainOutput)
    (w : World σ) : Prop where
  last : w.service.log.lastMainOutput wallet = some output
  deposit : (w.service.state.deposits.get? output.outpoint.key).isSome
  refused (env : Circumstances) (relayer : Identity) (request : SweepRequest) :
    request.walletKeyHash = wallet → (Command.settleSweep relayer request).Knows output →
      ∃ fault, (w.service.execute w.store env (.settleSweep relayer request)).result
        = .error fault

/-- **A main output is no deposit, unless an order has named it as one; and then its wallet is
never swept again**, whatever orders follow.  Only a sweep that claims another output of the same
digest is left out. -/
theorem mainOutput_apart_or_barred {σ : Type} [Store σ] {params : Params} {orders : List Order}
    {w : World σ} (reached : w.Reached params orders) {wallet : PubKeyHash} {output : MainOutput}
    (last : w.service.log.lastMainOutput wallet = some output) :
    w.service.state.Apart output ∨
    (∃ order ∈ orders, order.command.funding?.map Funding.key = some output.outpoint.key) ∧
      ∀ more : List Order, (∀ order ∈ more, order.command.Knows output) →
        (w.serve more).Barred wallet output := by
  have traced : w.service.Traced orders :=
    reached.invariant (fun service => service.Traced orders) (.opened params orders)
      fun _ _ _ _ mem traced accepted _ => traced.advance mem accepted
  cases held : w.service.state.deposits.get? output.outpoint.key with
  | none =>
    refine .inl ⟨held, fun request walk => ?_⟩
    unfold State.takeInput
    rw [held]
  | some d =>
    refine .inr ⟨traced.named _ d held, fun more knows => ?_⟩
    have start : w.service.Blocked wallet output :=
      ⟨last, by rw [traced.slots, last]; rfl, by rw [held]; rfl⟩
    have blocked : (w.serve more).service.Blocked wallet output :=
      World.serve_invariant (fun service => service.Blocked wallet output) start
        fun _ _ _ _ mem blocked accepted paid => blocked.advance (knows _ mem) accepted paid
    exact ⟨blocked.last, blocked.deposit,
      fun _ _ _ own knows => blocked.refuses (w.serve more).store own knows⟩

namespace Sample

/-- Somebody reveals the output of the first sweep of the sample run. -/
def naming : Order := ⟨env 4, .reveal ⟨"mallory"⟩ ⟨⟨first, 0, wallet, none⟩, none⟩⟩

/-- The run up to the second sweep, with the output named after the first sweep is settled. -/
def late : World Volatile :=
  (World.mk (Service.opened {}) Volatile.empty).serve (orders.take 4 ++ [naming])

/-- The same, with the output named before the first sweep is settled. -/
def early : World Volatile :=
  (World.mk (Service.opened {}) Volatile.empty).serve
    (orders.take 2 ++ naming :: (orders.drop 2).take 2)

end Sample

/-- In the sample run the main output is no deposit; once it is named, the wallet is barred,
whatever becomes of the rest of the run. -/
theorem mainOutput_apart_or_barred_sample :
    ((World.mk (Service.opened {}) Volatile.empty).serve
      (Sample.orders.take 3)).service.state.Apart Sample.firstOutput ∧
    (Sample.late.serve (Sample.orders.drop 4)).Barred Sample.wallet Sample.firstOutput := by
  constructor
  · have last : ((World.mk (Service.opened {}) Volatile.empty).serve
        (Sample.orders.take 3)).service.log.lastMainOutput Sample.wallet
        = some Sample.firstOutput := by
      decide +kernel
    have quiet : ∀ order ∈ Sample.orders.take 3, order.command.funding?.map Funding.key
        ≠ some Sample.firstOutput.outpoint.key := by
      decide +kernel
    rcases mainOutput_apart_or_barred (.served ⟨rfl, rfl⟩ rfl) last with
      apart | ⟨⟨order, mem, naming⟩, -⟩
    · exact apart
    · exact absurd naming (quiet order mem)
  · obtain ⟨last, kept⟩ : Sample.late.service.log.lastMainOutput Sample.wallet
          = some Sample.firstOutput ∧
        (Sample.late.service.state.deposits.get?
          Sample.firstOutput.outpoint.key).isSome = true := by
      decide +kernel
    have knows : ∀ order ∈ Sample.orders.drop 4, order.command.Knows Sample.firstOutput := by
      intro order mem other claimed same
      simp only [Sample.orders, List.drop, List.mem_cons, List.not_mem_nil, or_false] at mem
      rcases mem with rfl | rfl
      · cases claimed
        rfl
      · cases claimed
    rcases mainOutput_apart_or_barred (w := Sample.late) (.served ⟨rfl, rfl⟩ rfl) last with
      apart | ⟨-, barred⟩
    · rw [apart.absent] at kept
      cases kept
    · exact barred _ knows

/-- A main output can be a deposit too, whether it is named after its sweep is settled or before,
and then the next sweep, which spends it, is refused for not spending it. -/
theorem mainOutput_kept_as_deposit :
    (Sample.late.service.log.lastMainOutput Sample.wallet = some Sample.firstOutput ∧
      (Sample.late.service.state.deposits.get? Sample.firstOutput.outpoint.key).isSome = true ∧
      (Sample.late.service.execute Sample.late.store (Sample.env 5)
        (.settleSweep ⟨"bob"⟩ (Sample.sweep Sample.second Sample.firstOutput))).result
        = .error (.sweep .mainOutputNotSpent)) ∧
    Sample.early.service.log.lastMainOutput Sample.wallet = some Sample.firstOutput ∧
      (Sample.early.service.state.deposits.get? Sample.firstOutput.outpoint.key).isSome = true ∧
      (Sample.early.service.execute Sample.early.store (Sample.env 5)
        (.settleSweep ⟨"bob"⟩ (Sample.sweep Sample.second Sample.firstOutput))).result
        = .error (.sweep .mainOutputNotSpent) := by
  decide +kernel

end Custody
