/-
  Custody.Proofs.Runs
  ────────────────────────────────
  **RUNS OF COMMANDS, WITH RELOADS IN BETWEEN.**

  An order is a command under its circumstances.  A service that serves orders
  goes from one to the next with its store; in a run it may also be loaded anew
  from the store at any point.  What holds of the service that is opened and is
  kept by every committed transition holds after all orders.

  Main facts:
    * `serve_invariant`   — the induction over orders;
    * `filterMap_advance` — what events tell, after a commit.
-/
import Custody.Proofs.Holdings
import Custody.Store.Volatile

namespace Custody

/-! ## §1. Orders, steps and runs. -/

/-- A command under its circumstances. -/
structure Order where
  env : Circumstances
  command : Command

/-- One step of a run. -/
inductive Step where
  | order (order : Order)
  /-- The service is loaded anew from its store. -/
  | reload

/-- A service and its store. -/
structure World (σ : Type) where
  service : Service
  store : σ

/-- A store that holds nothing yet. -/
structure IsBlank {σ : Type} [Store σ] (store : σ) : Prop where
  load : Store.load store = .ok (State.empty, [])
  balances : Store.loadBalances store = .ok []

/-- The service that is loaded over a store that holds nothing yet. -/
def Service.opened (params : Params) : Service :=
  ⟨params, State.empty, EventLog.empty, Ledger.opened params.bridge⟩

namespace World

variable {σ : Type} [Store σ]

/-- Carries one order out. -/
def carry (w : World σ) (order : Order) : World σ :=
  let out := w.service.execute w.store order.env order.command
  ⟨out.service, out.store⟩

/-- Carries orders out, one after the other. -/
def serve (w : World σ) (orders : List Order) : World σ := orders.foldl carry w

/-- Takes one step; a service that cannot be loaded is left as it is. -/
def after (w : World σ) : Step → World σ
  | .order order => w.carry order
  | .reload =>
    match Service.load w.service.params w.store with
    | .ok service => ⟨service, w.store⟩
    | .error _ => w

/-- Takes steps, one after the other. -/
def run (w : World σ) (steps : List Step) : World σ := steps.foldl after w

@[simp] theorem serve_nil (w : World σ) : w.serve [] = w := rfl

@[simp] theorem serve_cons (w : World σ) (order : Order) (rest : List Order) :
    w.serve (order :: rest) = (w.carry order).serve rest := rfl

@[simp] theorem run_nil (w : World σ) : w.run [] = w := rfl

@[simp] theorem run_cons (w : World σ) (step : Step) (rest : List Step) :
    w.run (step :: rest) = (w.after step).run rest := rfl

/-- A run of orders alone serves them. -/
theorem run_map_order (w : World σ) (orders : List Order) :
    w.run (orders.map .order) = w.serve orders := by
  induction orders generalizing w with
  | nil => rfl
  | cons order rest ih => exact ih (w.carry order)

end World

/-- Over a blank store a service without contents is loaded. -/
theorem Service.load_blank {σ : Type} [Store σ] {params : Params} {store : σ} {service : Service}
    (blank : IsBlank store) (loaded : Service.load params store = .ok service) :
    service = Service.opened params := by
  obtain ⟨state, events, balances, held, kept, rfl⟩ := (Service.load_eq_ok_iff ..).mp loaded
  rw [blank.load] at held
  rw [blank.balances] at kept
  cases held
  cases kept
  rfl

/-! ## §2. What holds after all orders. -/

namespace World

variable {σ : Type} [Store σ]

/-- An order leaves the world as it was or moves it by a commit that ledger and store have taken. -/
theorem carry_cases (w : World σ) (order : Order) :
    (w.carry order = w) ∨ ∃ t ledger next,
      w.service.propose order.env order.command = .ok t ∧
      w.service.ledger.applyBatch t.ledgerOps = .ok ledger ∧
      Service.bring order.env w.store (w.service.state.diff t.state)
        (w.service.log.stage t.events order.env.now)
        (w.service.ledger.balances.changed ledger.balances) = .ok next ∧
      w.carry order = ⟨w.service.advance t order.env.now ledger, next⟩ := by
  have executes := w.service.execute_executes w.store order.env order.command
  unfold carry
  generalize w.service.execute w.store order.env order.command = out at executes
  cases executes with
  | unproposed => exact .inl rfl
  | unpaid => exact .inl rfl
  | unstored => exact .inl rfl
  | committed proposed paid stored => exact .inr ⟨_, _, _, proposed, paid, stored, rfl⟩

/-- **What every committed transition keeps holds after all orders.** -/
theorem serve_invariant (holds : Service → Prop) {w : World σ} {orders : List Order}
    (start : holds w.service)
    (step : ∀ service order t ledger, order ∈ orders → holds service →
      Accepted service.state service.params order.env order.command t →
      service.ledger.applyBatch t.ledgerOps = .ok ledger →
      holds (service.advance t order.env.now ledger)) :
    holds (w.serve orders).service := by
  induction orders generalizing w with
  | nil => exact start
  | cons order rest ih =>
    rw [serve_cons]
    refine ih ?_ fun service other t ledger mem => step service other t ledger
      (List.mem_cons_of_mem order mem)
    -- The first order leaves the service as it was, or advances it by an accepted transition.
    rcases w.carry_cases order with same | ⟨t, ledger, next, proposed, paid, -, carried⟩
    · rw [same]
      exact start
    · rw [carried]
      exact step w.service order t ledger List.mem_cons_self start
        (Service.propose_accepted proposed) paid

end World

/-! ## §3. What the log tells. -/

namespace EventLog

variable {β : Type}

/-- Staged events bear the time of their staging. -/
theorem filterMap_number_timed (f : UInt64 → Event → Option β) (seq time : UInt64)
    (events : List Event) :
    (number seq time events).filterMap (fun e => f e.time e.event) = events.filterMap (f time) := by
  induction events generalizing seq with
  | nil => rfl
  | cons e rest ih => rw [number, List.filterMap_cons, List.filterMap_cons, ih]

/-- What events tell does not depend on their numbers. -/
theorem filterMap_number (f : Event → Option β) (seq time : UInt64) (events : List Event) :
    (number seq time events).filterMap (fun e => f e.event) = events.filterMap f :=
  filterMap_number_timed (fun _ => f) seq time events

end EventLog

namespace Service

variable {α β : Type}

/-- What the events tell after a commit is what they told, and what the commit adds. -/
theorem filterMap_advance (service : Service) (t : Transition α) (now : UInt64) (ledger : Ledger)
    (f : Event → Option β) :
    (service.advance t now ledger).log.events.filterMap (fun e => f e.event)
      = service.log.events.filterMap (fun e => f e.event) ++ t.events.filterMap f := by
  show (service.log.events ++ _).filterMap _ = _
  rw [List.filterMap_append]
  congr 1
  exact EventLog.filterMap_number f _ _ t.events

end Service

/-! ## §4. Standing services. -/

/-- Every service that was opened over an empty store stands after any orders. -/
theorem World.serve_standing {σ : Type} [Store σ] {w : World σ} {orders : List Order}
    (start : w.service.state.Standing) : (w.serve orders).service.state.Standing :=
  World.serve_invariant (fun service => service.state.Standing) start
    fun _ _ _ _ _ standing accepted _ => accepted.standing standing

/-! ## §5. A run to look at. -/

namespace Sample

/-- The wallet of the run. -/
def wallet : PubKeyHash := Octets.replicate 20 0x11

/-- An address that redemptions pay. -/
def address : RedemptionAddress := ⟨List.replicate 20 0x22, .inl rfl⟩

/-- An output vector with one output, which pays the wallet. -/
def paying (value : Nat) : List UInt8 :=
  [1] ++ Word.littleEndian 8 value ++ [22, 0x00, 0x14] ++ wallet.bytes

/-- An input vector that spends outpoints, with empty scripts. -/
def spending (outpoints : List Outpoint) : List UInt8 :=
  UInt8.ofNat outpoints.length :: outpoints.flatMap fun o =>
    o.txHash.bytes ++ Word.littleEndian 4 o.index.toNat ++ [0, 0xff, 0xff, 0xff, 0xff]

/-- A transaction from outpoints to the wallet. -/
def tx (outpoints : List Outpoint) (value : Nat) : Tx :=
  ⟨Octets.replicate 4 0, spending outpoints, paying value, Octets.replicate 4 0⟩

/-- The funding output of an ordinary deposit. -/
def plain : Funding := ⟨tx [] 2000000, 0, wallet, none⟩

/-- The funding output of a reserved deposit. -/
def promised : Funding := ⟨tx [] 20000000, 0, wallet, none⟩

/-- The sweep of the ordinary deposit, and the main output that it leaves. -/
def first : Tx := tx [plain.outpoint] 1999500
def firstOutput : MainOutput := ⟨first.hash, 0, 1999500⟩

/-- The sweep of the reserved deposit, which spends that main output too. -/
def second : Tx := tx [firstOutput.outpoint, promised.outpoint] 21998500

/-- The main output that the second sweep leaves. -/
def secondOutput : MainOutput := ⟨second.hash, 0, 21998500⟩

/-- A validator that accepts every proof, and a store that works. -/
def env (now : UInt64) : Circumstances where
  now
  prove tx _ := .ok tx.hash

/-- A request to settle a sweep into the wallet. -/
def sweep (tx : Tx) (mainOutput : Option MainOutput) : SweepRequest :=
  ⟨wallet, tx, ⟨default, [], 0⟩, mainOutput, none⟩

/-- Both deposits are revealed and swept, and the reservation is redeemed. -/
def orders : List Order := [
  ⟨env 1, .registerWallet wallet .live⟩,
  ⟨env 2, .reveal ⟨"alice"⟩ ⟨plain, none⟩⟩,
  ⟨env 3, .settleSweep ⟨"alice"⟩ (sweep first none)⟩,
  ⟨env 4, .reserve ⟨"bob"⟩ ⟨promised, 30, ⟨List.replicate 20 0x22, .inl rfl⟩⟩⟩,
  ⟨env 5, .settleSweep ⟨"bob"⟩ (sweep second firstOutput)⟩,
  ⟨env 6, .redeem ⟨"bob"⟩ promised.key⟩]

end Sample

end Custody
