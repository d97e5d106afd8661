/-
  Custody.Proofs.Serials
  ────────────────────────────────
  **SERIAL RUNS OF ACCEPTED COMMANDS.**

  A job is a command that was accepted, with the answer that it got and the
  events that it put into the log.  In a serial run each job is done by a
  service that is loaded for it from the store as the jobs before have left
  it, and it has to come out the same.

  A command that reports nothing changes nothing, so its job may be slipped in
  wherever the run passes a store that holds what the command was told by.

  Main facts:
    * `Accepted.idle`    — what reports nothing changes nothing;
    * `Serial.unique`    — a serial run leads to one store only;
    * `Serial.replay_eq` — and is found again from its commands;
    * `Passes.slip`      — a job that changes nothing can be slipped in.
-/
import Custody.Proofs.Sequences

namespace Custody

/-! ## §1. Commands that report nothing. -/

/-- From a state to itself nothing changes. -/
theorem State.diff_self (s : State) : s.diff s = {} := by
  unfold State.diff
  simp only [Table.changed_self, List.map_nil]

/-- **An accepted command that reports nothing changes nothing**: it sets a wallet to the stage
that it has. -/
theorem Accepted.idle {s : State} {params : Params} {env : Circumstances} {command : Command}
    {t : Transition Receipt} (h : Accepted s params env command t) (quiet : t.events = []) :
    t.state = s ∧ t.ledgerOps = [] := by
  cases h with
  | registerWallet | setVaultStatus | reveal | reserve | redeem | liquidate => cases quiet
  | @setWalletState wallet stage row known =>
    refine ⟨?_, rfl⟩
    dsimp only at quiet
    split at quiet
    case isTrue same =>
      -- The row that is put in is the one that is there.
      have row_same : { row with state := stage } = row := by rw [← same]
      show { s with wallets := s.wallets.insert wallet { row with state := stage } } = s
      rw [row_same, Table.insert_of_get? known]
    case isFalse => cases quiet
  | settleSweep proven settles =>
    cases State.settleSweep_ok_iff.mp settles with
    | mk => cases (List.append_eq_nil_iff.mp quiet).2

namespace Service

variable {σ : Type} [Store σ] [SequencedStore σ] {service : Service} {store : σ}
  {env : Circumstances} {command : Command} {t : Transition Receipt}

/-- A commit without events leaves service and store as they are. -/
theorem idle_of_committed {ledger : Ledger} {next : σ}
    (accepted : Accepted service.state service.params env command t) (quiet : t.events = [])
    (paid : service.ledger.applyBatch t.ledgerOps = .ok ledger)
    (stored : bring env store (service.state.diff t.state) (service.log.stage t.events env.now)
      (service.ledger.balances.changed ledger.balances) = .ok next) :
    service.advance t env.now ledger = service ∧ next = store := by
  obtain ⟨state, batch⟩ := accepted.idle quiet
  rw [batch] at paid
  cases paid
  have unmoved : (service.log.append []) = service.log := by
    unfold EventLog.append
    rw [List.append_nil]
  constructor
  · unfold advance
    rw [quiet, state]
    show { service with log := service.log.append [] } = service
    rw [unmoved]
  · rw [quiet, state, State.diff_self, Table.changed_self] at stored
    have landed := (bring_ok_iff.mp stored).2
    exact Except.ok.inj (landed.symm.trans (SequencedStore.commit_nothing store))

/-- **A command that reports nothing leaves service and store as they are**, answered or not. -/
theorem execute_of_idle (proposed : service.propose env command = .ok t) (quiet : t.events = []) :
    (service.execute store env command).service = service ∧
      (service.execute store env command).store = store := by
  have executes := service.execute_executes store env command
  generalize service.execute store env command = out at executes
  cases executes with
  | unproposed | unpaid | unstored => exact ⟨rfl, rfl⟩
  | @committed t' ledger next journal proposed' paid stored =>
    rw [proposed] at proposed'
    cases proposed'
    exact idle_of_committed (propose_accepted proposed) quiet paid stored

/-- It is answered unless the store is made to fail. -/
theorem answer_of_idle (proposed : service.propose env command = .ok t) (quiet : t.events = [])
    (works : env.storeFault = none) :
    (service.execute store env command).result = .ok t.output := by
  obtain ⟨state, batch⟩ := (propose_accepted proposed).idle quiet
  have executes := service.execute_executes store env command
  generalize service.execute store env command = out at executes
  cases executes with
  | unproposed refused =>
    rw [proposed] at refused
    cases refused
  | unpaid proposed' refused =>
    rw [proposed] at proposed'
    cases proposed'
    rw [batch] at refused
    cases refused
  | unstored proposed' paid refused =>
    rw [proposed] at proposed'
    cases proposed'
    -- There is nothing to bring, and that is never refused.
    rw [batch] at paid
    cases paid
    rw [quiet, state, State.diff_self, Table.changed_self] at refused
    have landed := bring_ok_iff.mpr ⟨works, SequencedStore.commit_nothing store⟩
    cases refused.symm.trans landed
  | committed proposed' =>
    rw [proposed] at proposed'
    cases proposed'
    rfl

omit [SequencedStore σ] in
/-- Whatever was accepted, the store was not made to fail. -/
theorem works_of_ok {receipt : Receipt}
    (answered : (service.execute store env command).result = .ok receipt) :
    env.storeFault = none := by
  have executes := service.execute_executes store env command
  generalize service.execute store env command = out at executes answered
  cases executes with
  | unproposed | unpaid | unstored => cases answered
  | committed proposed paid stored => exact (bring_ok_iff.mp stored).1

/-- What a service proposes is a matter of its parameters and its state. -/
theorem propose_congr {other : Service} (params : other.params = service.params)
    (state : other.state = service.state) (env : Circumstances) (command : Command) :
    other.propose env command = service.propose env command := by
  obtain ⟨params', state', log, ledger⟩ := other
  cases params
  cases state
  cases command <;> rfl

end Service

/-! ## §2. Jobs. -/

/-- A command that was accepted: under which parameters, with which answer, and which events it
put into the log. -/
structure Job where
  terms : Params
  order : Order
  receipt : Receipt
  events : List LoggedEvent

/-- Whether a job put anything into the log. -/
def Job.writes (job : Job) : Bool := !job.events.isEmpty

/-- The same jobs in an order in which those that write follow each other as before. -/
structure Rearranged (serial jobs : List Job) : Prop where
  perm : serial.Perm jobs
  writes : serial.filter Job.writes = jobs.filter Job.writes

namespace Rearranged

variable {serial jobs more : List Job}

theorem refl (jobs : List Job) : Rearranged jobs jobs := ⟨.refl jobs, rfl⟩

theorem trans (first : Rearranged more serial) (second : Rearranged serial jobs) :
    Rearranged more jobs :=
  ⟨first.perm.trans second.perm, first.writes.trans second.writes⟩

/-- Jobs that all write can be put into no other order. -/
theorem eq_of_writes (rearranged : Rearranged serial jobs)
    (write : ∀ job ∈ jobs, job.writes = true) : serial = jobs := by
  have all : ∀ job ∈ serial, job.writes = true := fun job mem =>
    write job (rearranged.perm.subset mem)
  rw [← List.filter_eq_self.mpr all, rearranged.writes, List.filter_eq_self.mpr write]

/-- The same jobs may follow on both sides. -/
theorem append_right (rearranged : Rearranged serial jobs) (more : List Job) :
    Rearranged (serial ++ more) (jobs ++ more) where
  perm := rearranged.perm.append_right more
  writes := by rw [List.filter_append, List.filter_append, rearranged.writes]

end Rearranged

section Jobs

variable {σ : Type} [Store σ]

/-- The job that an order is, if it is accepted. -/
def Service.job? (service : Service) (store : σ) (order : Order) : Option Job :=
  let out := service.execute store order.env order.command
  match out.result with
  | .ok receipt =>
    some ⟨service.params, order, receipt,
      out.service.log.events.drop service.log.events.length⟩
  | .error _ => none

/-- An order that is refused is no job. -/
theorem Service.job?_of_error {service : Service} {store : σ} {order : Order} {fault : Fault}
    (refused : (service.execute store order.env order.command).result = .error fault) :
    service.job? store order = none := by
  unfold job?
  dsimp only
  rw [refused]

/-- An order that is accepted is a job with what it has added to the log. -/
theorem Service.job?_of_ok {service : Service} {store : σ} {order : Order} {receipt : Receipt}
    {events : List LoggedEvent}
    (answered : (service.execute store order.env order.command).result = .ok receipt)
    (logged : (service.execute store order.env order.command).service.log.events
      = service.log.events ++ events) :
    service.job? store order = some ⟨service.params, order, receipt, events⟩ := by
  unfold job?
  dsimp only
  rw [answered, logged, List.drop_left]

/-- A command that reports nothing is the same job for every service with the same state. -/
theorem Service.job?_of_idle [SequencedStore σ] {service : Service} {store : σ} {order : Order}
    {t : Transition Receipt} (proposed : service.propose order.env order.command = .ok t)
    (quiet : t.events = []) (works : order.env.storeFault = none) :
    service.job? store order = some ⟨service.params, order, t.output, []⟩ := by
  refine job?_of_ok (answer_of_idle proposed quiet works) ?_
  rw [(execute_of_idle proposed quiet).1, List.append_nil]

/-! ## §3. Serial runs. -/

/-- Jobs that are done one after the other, each by a service that is loaded for it from the
store. -/
inductive Serial : σ → List Job → σ → Prop
  | done (store : σ) : Serial store [] store
  | next {store last : σ} {service : Service} {job : Job} {jobs : List Job}
      (loaded : Service.load job.terms store = .ok service)
      (same : service.job? store job.order = some job)
      (rest : Serial (service.execute store job.order.env job.order.command).store jobs last) :
      Serial store (job :: jobs) last

/-- What comes of commands under parameters, each carried out by a service that is loaded for it,
if all of them are accepted. -/
def replay (store : σ) : List (Params × Order) → Option σ
  | [] => some store
  | (terms, order) :: rest => do
    let service ← (Service.load terms store).toOption
    let out := service.execute store order.env order.command
    let _ ← out.result.toOption
    replay out.store rest

namespace Serial

variable {start middle last other : σ} {jobs more : List Job}

theorem append (first : Serial start jobs middle) (second : Serial middle more last) :
    Serial start (jobs ++ more) last := by
  induction first with
  | done => exact second
  | next loaded same _ ih => exact .next loaded same (ih second)

/-- A serial run has been somewhere between its parts. -/
theorem split (serial : Serial start (jobs ++ more) last) :
    ∃ middle, Serial start jobs middle ∧ Serial middle more last := by
  induction jobs generalizing start with
  | nil => exact ⟨start, .done start, serial⟩
  | cons job rest ih =>
    cases serial with
    | next loaded same serial =>
      obtain ⟨middle, first, second⟩ := ih serial
      exact ⟨middle, .next loaded same first, second⟩

/-- **A serial run leads to one store only.** -/
theorem unique (serial : Serial start jobs last) (again : Serial start jobs other) :
    last = other := by
  induction serial with
  | done =>
    cases again
    rfl
  | next loaded _ _ ih =>
    cases again with
    | next loaded' _ rest =>
      rw [loaded] at loaded'
      cases loaded'
      exact ih rest

/-- **A serial run is found again from its commands.** -/
theorem replay_eq (serial : Serial start jobs last) :
    replay start (jobs.map fun job => (job.terms, job.order)) = some last := by
  induction serial with
  | done => rfl
  | @next store last service job jobs loaded same _ ih =>
    cases answered : (service.execute store job.order.env job.order.command).result with
    | error fault =>
      rw [Service.job?_of_error answered] at same
      cases same
    | ok receipt =>
      rw [List.map_cons, replay, loaded, Except.toOption, Option.bind_eq_bind, Option.bind_some]
      dsimp only
      rw [answered, Except.toOption, Option.bind_eq_bind, Option.bind_some]
      exact ih

end Serial

/-! ## §4. What a serial run passes. -/

/-- A serial run from one store to another, and a third that it passes. -/
def Passes (start : σ) (jobs : List Job) (middle last : σ) : Prop :=
  ∃ before after, jobs = before ++ after ∧ Serial start before middle ∧ Serial middle after last

namespace Passes

variable {start middle last final other : σ} {jobs more : List Job} {job : Job}

/-- A serial run passes its end. -/
theorem of_end (serial : Serial start jobs last) : Passes start jobs last last :=
  ⟨jobs, [], (List.append_nil _).symm, serial, .done last⟩

/-- What a serial run has passed it has passed however it goes on. -/
theorem extend (passes : Passes start jobs middle last) (further : Serial last more final) :
    Passes start (jobs ++ more) middle final := by
  obtain ⟨before, after, rfl, first, second⟩ := passes
  exact ⟨before, after ++ more, List.append_assoc .., first, second.append further⟩

/-- A run that is lengthened somewhere by a job that changes nothing passes what it passed. -/
theorem insert {before after : List Job} (first : Serial start before middle)
    (second : Serial middle after last) (idle : Serial middle [job] middle)
    (passes : Passes start (before ++ after) other last) :
    Passes start (before ++ job :: after) other last := by
  obtain ⟨before', after', same, first', second'⟩ := passes
  rcases List.append_eq_append_iff.mp same with ⟨between, rfl, rfl⟩ | ⟨between, rfl, rfl⟩
  · -- The other store comes after the job.
    obtain ⟨middle', to_middle, to_other⟩ := first'.split
    cases to_middle.unique first
    refine ⟨before ++ job :: between, after', ?_, first.append (idle.append to_other), second'⟩
    rw [List.append_assoc, List.cons_append]
  · -- It comes before the job.
    obtain ⟨middle', to_middle, to_last⟩ := second'.split
    cases (first'.append to_middle).unique first
    refine ⟨before', between ++ job :: after, List.append_assoc .., first', ?_⟩
    exact to_middle.append (idle.append second)

/-- **A job that changes nothing can be slipped in** where the run passes a store that it leaves as
it is. -/
theorem slip (passes : Passes start jobs middle last) (idle : Serial middle [job] middle)
    (silent : job.writes = false) :
    ∃ longer, Rearranged longer (jobs ++ [job]) ∧ Serial start longer last ∧
      ∀ other, Passes start jobs other last → Passes start longer other last := by
  obtain ⟨before, after, rfl, first, second⟩ := passes
  refine ⟨before ++ job :: after, ⟨?_, ?_⟩, first.append (idle.append second),
    fun other passes => insert first second idle passes⟩
  · refine List.perm_middle.trans ?_
    exact (List.perm_append_singleton job _).symm
  · have alone : [job].filter Job.writes = [] := by
      rw [List.filter_cons, silent]
      rfl
    rw [List.filter_append, List.filter_append, List.filter_append, List.filter_cons, silent, alone,
      List.append_nil]
    rfl

end Passes

end Jobs

end Custody
