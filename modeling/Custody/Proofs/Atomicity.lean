/-
  Custody.Proofs.Atomicity
  ────────────────────────────────
  **A COMMAND LANDS WHOLE OR NOT AT ALL.**

  State, log, store and ledger are moved one after the other, and each step
  can fail.  A command that is refused has moved none of them, wherever it
  failed, and one that is accepted has moved all four by the transition that
  it proposed.  The ledger comes last and cannot fail any more: it takes the
  batch that it has tried before on the same balances.

  Main facts:
    * `follow_of_preview` — what has passed the dry run is not refused later;
    * `execute_quiet`     — no command leaves the note of a late refusal;
    * `answer_cases`      — an order moves nothing, or everything;
    * `command_atomic`    — all four parts stay, or move together.
-/
import Custody.Proofs.Restart

namespace Custody

/-! ## §1. The last step does not fail. -/

namespace Service

variable {σ α : Type}

/-- The note that is left if the ledger refuses a batch after the store has taken the commit. -/
def lateRefusal : Journal.Entry :=
  .note .error Journal.Topic.ledger.target "ledger rejected a checked batch after commit"

/-- **What has passed the dry run is not refused later**, whatever the store has become. -/
theorem follow_of_preview {service : Service} {t : Transition α}
    {balances : List (Identity × UInt64)} (previewed : service.ledger.preview t.ledgerOps
      = .ok balances) (staged : List LoggedEvent) (store : σ) (name : String) :
    ∃ ledger, service.ledger.applyBatch t.ledgerOps = .ok ledger ∧
      service.follow t staged store name
        = ⟨.ok t.output,
            { service with state := t.state, log := service.log.append staged, ledger },
            store, committed name staged t.ledgerOps⟩ := by
  obtain ⟨ledger, paid, -⟩ := (Ledger.preview_eq_ok_iff ..).mp previewed
  refine ⟨ledger, paid, ?_⟩
  simp only [follow, paid]

/-- Whatever the journal says of a commit is a record, and the late refusal is a note. -/
theorem lateRefusal_notMem_committed (name : String) (staged : List LoggedEvent)
    (ops : List LedgerOp) : lateRefusal ∉ committed name staged ops := by
  unfold committed
  intro mem
  rcases List.mem_append.mp mem with mem | mem
  · obtain ⟨e, -, same⟩ := List.mem_map.mp mem
    cases same
  · split at mem
    · cases mem
    · cases List.mem_singleton.mp mem

/-- A command that is refused leaves the note only if it was given it. -/
theorem lateRefusal_notMem_refuse {service : Service} {store : σ} {name : String}
    {caller : Option Identity} {notes : List Journal.Entry} {fault : Fault}
    (before : lateRefusal ∉ notes) :
    lateRefusal ∉ (service.refuse store name caller notes fault : Outcome σ α).journal := by
  intro mem
  rcases List.mem_append.mp mem with mem | mem
  · exact before mem
  · cases List.mem_singleton.mp mem

variable [Store σ]

/-- The journal never tells that the ledger refused a batch that was checked. -/
theorem carryOut_quiet (service : Service) (store : σ) (env : Circumstances) (name : String)
    (caller : Option Identity) (proposal : Except Fault (Transition α)) (f : α → Receipt) :
    lateRefusal ∉ ((service.carryOut store env name caller proposal).map f).journal := by
  cases proposal with
  | error fault => exact lateRefusal_notMem_refuse List.not_mem_nil
  | ok t =>
    show lateRefusal ∉ (service.commit store env name caller t).journal
    unfold commit
    cases previewed : service.ledger.preview t.ledgerOps with
    | error fault => exact lateRefusal_notMem_refuse List.not_mem_nil
    | ok balances =>
      dsimp only
      split
      case h_1 =>
        -- The note of a failed store is sent elsewhere.
        refine lateRefusal_notMem_refuse ?_
        intro mem
        have same := congrArg Journal.Entry.target (List.mem_singleton.mp mem)
        exact absurd same (by decide)
      case h_2 next stored =>
        obtain ⟨ledger, -, followed⟩ :=
          follow_of_preview previewed (service.log.stage t.events env.now) next name
        rw [followed]
        exact lateRefusal_notMem_committed _ _ _

/-- **No command leaves the note of a late refusal.** -/
theorem execute_quiet (service : Service) (store : σ) (env : Circumstances) (command : Command) :
    lateRefusal ∉ (service.execute store env command).journal := by
  cases command <;> exact carryOut_quiet service store env _ _ _ _

end Service

/-! ## §2. All four parts stay or move together. -/

namespace World

variable {σ : Type} [Store σ]

/-- State, log, ledger and store have moved by one transition. -/
structure Advances (before : World σ) (t : Transition Receipt) (now : UInt64) (after : World σ) :
    Prop where
  params : after.service.params = before.service.params
  state : after.service.state = t.state
  log : after.service.log.events
    = before.service.log.events ++ before.service.log.stage t.events now
  ledger : before.service.ledger.applyBatch t.ledgerOps = .ok after.service.ledger
  store : Store.commit before.store (before.service.state.diff t.state)
    (before.service.log.stage t.events now)
    (before.service.ledger.balances.changed after.service.ledger.balances) = .ok after.store

/-- What an order does to a world: nothing if it is refused, and its transition if it is accepted;
and the ledger never refuses what it has tried. -/
structure Atomic (w : World σ) (order : Order) : Prop where
  refused (fault : Fault) :
    (w.service.execute w.store order.env order.command).result = .error fault →
      w.carry order = w
  accepted (receipt : Receipt) :
    (w.service.execute w.store order.env order.command).result = .ok receipt →
      ∃ t, w.service.propose order.env order.command = .ok t ∧ t.output = receipt ∧
        w.Advances t order.env.now (w.carry order)
  previewed (t : Transition Receipt) (balances : List (Identity × UInt64)) :
    w.service.ledger.preview t.ledgerOps = .ok balances →
      ∀ staged (store : σ) name, (w.service.follow t staged store name).result = .ok t.output
  quiet : Service.lateRefusal ∉ (w.service.execute w.store order.env order.command).journal

/-- A commit that ledger and store have taken moves all parts of the world by its transition. -/
theorem advances_advance {w : World σ} {order : Order} {t : Transition Receipt} {ledger : Ledger}
    {next : σ} (paid : w.service.ledger.applyBatch t.ledgerOps = .ok ledger)
    (stored : Service.bring order.env w.store (w.service.state.diff t.state)
      (w.service.log.stage t.events order.env.now)
      (w.service.ledger.balances.changed ledger.balances) = .ok next) :
    w.Advances t order.env.now ⟨w.service.advance t order.env.now ledger, next⟩ where
  params := rfl
  state := rfl
  log := rfl
  ledger := paid
  store := (Service.bring_ok_iff.mp stored).2

/-- **An order is refused and moves nothing, or all moves by the transition it proposed.** -/
theorem answer_cases (w : World σ) (order : Order) :
    (∃ fault, (w.service.execute w.store order.env order.command).result = .error fault ∧
      w.carry order = w) ∨
    ∃ t, w.service.propose order.env order.command = .ok t ∧
      (w.service.execute w.store order.env order.command).result = .ok t.output ∧
      w.Advances t order.env.now (w.carry order) := by
  have executes := w.service.execute_executes w.store order.env order.command
  unfold carry
  generalize w.service.execute w.store order.env order.command = out at executes
  cases executes with
  | unproposed => exact .inl ⟨_, rfl, rfl⟩
  | unpaid => exact .inl ⟨_, rfl, rfl⟩
  | unstored => exact .inl ⟨_, rfl, rfl⟩
  | committed proposed paid stored =>
    exact .inr ⟨_, proposed, rfl, advances_advance paid stored⟩

/-- Every order is refused without effect or moves the world by one transition. -/
theorem atomic (w : World σ) (order : Order) : w.Atomic order where
  refused fault failed := by
    rcases w.answer_cases order with ⟨-, -, same⟩ | ⟨t, -, answered, -⟩
    · exact same
    · rw [answered] at failed
      cases failed
  accepted receipt answered := by
    rcases w.answer_cases order with ⟨fault, failed, -⟩ | ⟨t, proposed, output, advanced⟩
    · rw [failed] at answered
      cases answered
    · rw [output] at answered
      exact ⟨t, proposed, Except.ok.inj answered, advanced⟩
  previewed t balances previewed staged store name := by
    obtain ⟨ledger, -, followed⟩ := Service.follow_of_preview previewed staged store name
    rw [followed]
  quiet := Service.execute_quiet _ _ _ _

theorem run_append (w : World σ) (steps more : List Step) :
    w.run (steps ++ more) = (w.run steps).run more := List.foldl_append

end World

/-- **A command lands whole or not at all**: over any store a refused one leaves state, log, ledger
and store as they were, and an accepted one moves all four by its transition; and after any run
over a durable store with room the store restores what the service has become. -/
theorem command_atomic {σ : Type} [Store σ] (w : World σ) (order : Order) :
    w.Atomic order ∧
    ∀ [DurableStore σ] (params : Params) (steps : List Step),
      w = (World.opened params).run steps → (w.carry order).Roomy → (w.carry order).Restores := by
  refine ⟨w.atomic order, ?_⟩
  intro durable params steps reached room
  have carried : w.carry order = (World.opened params).run (steps ++ [.order order]) := by
    rw [World.run_append, ← reached]
    rfl
  rw [carried] at room ⊢
  exact World.restores_run room

/-- The first sweep of the sample run is accepted, and refused if the store fails. -/
theorem command_atomic_sample :
    let w := (World.opened {} : World Volatile).run ((Sample.orders.take 2).map .order)
    let sweep (fault : Option StoreFault) : Order :=
      ⟨{ Sample.env 3 with storeFault := fault },
        .settleSweep ⟨"alice"⟩ (Sample.sweep Sample.first none)⟩
    (∃ t, w.service.propose (sweep none).env (sweep none).command = .ok t ∧
      w.Advances t 3 (w.carry (sweep none))) ∧
    (w.carry (sweep none)).Restores ∧
    w.carry (sweep (some (.connection "gone"))) = w := by
  intro w sweep
  have answered : (w.service.execute w.store (sweep none).env (sweep none).command).result.isOk
      = true := by
    decide +kernel
  have failed : (w.service.execute w.store (sweep (some (.connection "gone"))).env
      (sweep (some (.connection "gone"))).command).result
      = .error (.store (.connection "gone")) := by
    decide +kernel
  obtain ⟨good, durable⟩ := command_atomic w (sweep none)
  obtain ⟨bad, -⟩ := command_atomic w (sweep (some (.connection "gone")))
  refine ⟨?_, durable {} _ rfl trivial, bad.refused _ failed⟩
  cases outcome : (w.service.execute w.store (sweep none).env (sweep none).command).result with
  | error fault =>
    rw [outcome] at answered
    cases answered
  | ok receipt =>
    obtain ⟨t, proposed, -, advanced⟩ := good.accepted receipt outcome
    exact ⟨t, proposed, advanced⟩

end Custody
