/-
  Custody.Proofs.Updates
  ────────────────────────────────
  **NO UPDATE IS LOST WHERE NO LOAD IS TORN.**

  All that keeps a service that has fallen behind from writing over the store
  is that its events would bear numbers that are taken: a service trails the
  store by its log, and is level with it, state and balances included, once
  the logs are of one length.

  A load that is torn breaks this.  The events are read last, so the log of
  the service is that of the store although its rows are not, and what it
  commits is taken.

  Main facts:
    * `Shared.level_of_commit` — only a level service gets events into the store;
    * `Shared.acts`            — the five things that an action can do;
    * `Acts.shared`, `Acts.told` — how they keep the invariants;
    * `updates_never_lost`     — after any actions that tear no load;
    * `update_lost`            — after a load that is torn.
-/
import Custody.Proofs.Logs

namespace Custody

/-! ## §1. Members and the books. -/

/-- The member has what is in the books, or will have read it with the queries that are left. -/
def Member.Level {σ : Type} (store : σ) (b : Books) : Member σ → Prop
  | .reading _ left read => Query.all store left read = .ok (b.state, b.events)
  | .serving service => service.books = b ∧ service.ledger.bridge = service.params.bridge

/-- The member has been read, and its log is shorter than that of the books. -/
structure Member.Behind {σ : Type} (b : Books) (m : Member σ) : Prop where
  whole : m.left = []
  shorter : m.events.length < b.events.length

/-- The member is level with the books, or behind them. -/
def Member.Follows {σ : Type} (store : σ) (b : Books) (m : Member σ) : Prop :=
  m.Level store b ∨ m.Behind b

namespace Member

variable {σ : Type} {store : σ} {b next : Books} {m : Member σ}

/-- A level member that has been read has the state and the events of the books. -/
theorem Level.has (level : m.Level store b) (whole : m.left = []) :
    m.state = b.state ∧ m.events = b.events := by
  cases m with
  | reading terms left read =>
    have none_left : left = [] := whole
    subst none_left
    have same : read = (b.state, b.events) := Except.ok.inj level
    rw [same]
    exact ⟨rfl, rfl⟩
  | serving service =>
    obtain ⟨rfl, -⟩ := level
    exact ⟨rfl, rfl⟩

/-- Whoever has been read and follows the books is behind them once others have written. -/
theorem Follows.behind (follows : m.Follows store b) (whole : m.left = [])
    (longer : b.events.length < next.events.length) : m.Behind next := by
  rcases follows with level | behind
  · obtain ⟨-, events⟩ := level.has whole
    rw [← events] at longer
    exact ⟨whole, longer⟩
  · exact ⟨whole, Nat.lt_trans behind.shorter longer⟩

end Member

/-- The service has what the store holds. -/
structure Current {σ : Type} [Store σ] (service : Service) (store : σ) : Prop where
  load : Store.load store = .ok (service.state, service.log.events)
  balances : ∃ rows, Store.loadBalances store = .ok rows ∧
    Lists rows service.ledger.balances.get?

namespace Fleet

variable {σ : Type} [Store σ] [QueriedStore σ] [DurableStore σ] [SequencedStore σ]
  [LoggedStore σ] {f f' : Fleet σ} {b b' : Books} {i : Nat} {m : Member σ} {service : Service}
  {a : Action} {jobs : List Job}

/-- The store holds books that every member follows. -/
structure Shared (f : Fleet σ) (b : Books) : Prop where
  holds : DurableStore.Holds f.store b
  audited : b.Audited
  logged : f.Logged b.events
  follows : ∀ i m, f.members i = some m → m.Follows f.store b

/-- A fleet without members shares empty books. -/
theorem Shared.blank : (Fleet.blank : Fleet σ).Shared Books.empty where
  holds := DurableStore.holds_blank
  audited := Books.Audited.empty
  logged := Logged.blank
  follows _ _ found := by cases found

/-- There are as many events in the store as in the books. -/
theorem Shared.sized (shared : f.Shared b) : b.events.length = DurableStore.size f.store :=
  (LoggedStore.size_eq shared.logged.logs).symm

/-- A member that follows the books is seated. -/
theorem Shared.seat (shared : f.Shared b) (logged : (f.seat i (some m)).Logged b.events)
    (follows : m.Follows f.store b) : (f.seat i (some m)).Shared b where
  holds := shared.holds
  audited := shared.audited
  logged
  follows j other found := by
    rcases members_seat found with seated | before
    · cases seated
      exact follows
    · exact shared.follows j other before

/-- What a store with room is loaded with. -/
theorem Shared.load (shared : f.Shared b) (roomy : f.Roomy) :
    Store.load f.store = .ok (b.state, b.events) := by
  have room : DurableStore.HasRoom σ b.events.length := by
    rw [shared.sized]
    exact roomy.room
  exact DurableStore.load shared.holds shared.audited room

/-- The world of a level member. -/
theorem Shared.kept (shared : f.Shared b) (level : (Member.serving service).Level f.store b) :
    (World.mk service f.store).Kept := by
  obtain ⟨rfl, bridge⟩ := level
  exact ⟨shared.holds, shared.audited, bridge⟩

/-- **To be level is to have what the store holds.** -/
theorem Shared.current_iff (shared : f.Shared b) (roomy : f.Roomy)
    (found : f.members i = some (.serving service)) :
    Current service f.store ↔ (Member.serving service).Level f.store b := by
  constructor
  · intro current
    rcases shared.follows i _ found with level | behind
    · exact level
    · -- The store has as many events as its size tells, and the service has those.
      have length := DurableStore.size_load current.load
      have shorter : service.log.events.length < b.events.length := behind.shorter
      have sized := shared.sized
      omega
  · intro level
    obtain ⟨rfl, -⟩ := level
    exact ⟨shared.load roomy, DurableStore.loadBalances shared.holds⟩

/-- **Only a level service gets events into the store**: one that is behind lacks events. -/
theorem Shared.level_of_commit (shared : f.Shared b) (roomy : f.Roomy)
    (found : f.members i = some (.serving service)) {delta : Delta} {reported : List Event}
    {time : UInt64} {balances : List (Identity × UInt64)} {next : σ} (some_event : reported ≠ [])
    (landed : Store.commit f.store delta (service.log.stage reported time) balances = .ok next) :
    (Member.serving service).Level f.store b := by
  have whole := shared.logged.whole_of_commit roomy found some_event landed
  rcases shared.follows i _ found with level | behind
  · exact level
  · have shorter : service.log.events.length < b.events.length := behind.shorter
    rw [whole] at shorter
    exact absurd shorter (Nat.lt_irrefl _)

/-! ## §2. What an action can do. -/

/-- What an action makes of a fleet that shares books: the fleet after it, the orders that are
accepted, and the books after it. -/
inductive Acts (f : Fleet σ) (b : Books) : Fleet σ → List Job → Books → Prop
  | still : Acts f b f [] b
  | read (i : Nat) {terms : Params} {left : List (Query σ)} {read : State × List LoggedEvent}
      (level : (Member.reading terms left read).Level f.store b) :
      Acts f b (f.seat i (some (.reading terms left read))) [] b
  | finish {i : Nat} {terms : Params} {state : State} {events : List LoggedEvent}
      {rows : List (Identity × UInt64)}
      (found : f.members i = some (.reading terms [] (state, events)))
      (lists : Lists rows b.balances.get?) :
      Acts f b (f.seat i (some (.serving
        ⟨terms, state, ⟨events⟩, (Ledger.opened terms.bridge).restore rows⟩))) [] b
  | idle {i : Nat} {service : Service} {order : Order} {t : Transition Receipt}
      (found : f.members i = some (.serving service))
      (proposed : service.propose order.env order.command = .ok t) (quiet : t.events = [])
      (works : order.env.storeFault = none) :
      Acts f b f [⟨service.params, order, t.output, []⟩] b
  | write {i : Nat} {service : Service} {order : Order} {t : Transition Receipt} {w : World σ}
      (found : f.members i = some (.serving service))
      (level : (Member.serving service).Level f.store b) (settled : f.Settled)
      (proposed : service.propose order.env order.command = .ok t) (reports : t.events ≠ [])
      (answered : (service.execute f.store order.env order.command).result = .ok t.output)
      (carried : (World.mk service f.store).carry order = w)
      (advanced : (World.mk service f.store).Advances t order.env.now w) (kept : w.Kept) :
      Acts f b { f.seat i (some (.serving w.service)) with store := w.store }
        [⟨service.params, order, t.output, service.log.stage t.events order.env.now⟩]
        w.service.books

/-- The log of the service after a commit is as long as that of the store. -/
theorem Shared.size_advance (shared : f.Shared b)
    (level : (Member.serving service).Level f.store b)
    {t : Transition Receipt} {now : UInt64} {w : World σ}
    (advanced : (World.mk service f.store).Advances t now w) :
    w.service.log.events.length = DurableStore.size w.store := by
  obtain ⟨rfl, -⟩ := level
  have sized : service.log.events.length = DurableStore.size f.store := shared.sized
  rw [advanced.log, List.length_append, DurableStore.size_commit advanced.store, ← sized]

omit [QueriedStore σ] [SequencedStore σ] [LoggedStore σ] in
/-- The events of the books grow by what is reported. -/
theorem Acts.events_eq (acts : Acts f b f' jobs b') :
    b'.events = b.events ++ jobs.flatMap (·.events) := by
  cases acts with
  | still | read | finish => exact (List.append_nil _).symm
  | idle => exact (List.append_nil _).symm
  | @write i service order t w found level settled proposed reports answered carried advanced
      kept =>
    obtain ⟨rfl, -⟩ := level
    show w.service.log.events = service.log.events ++ (_ ++ [])
    rw [advanced.log, List.append_nil]

/-- **After an action the store holds books that every member follows.** -/
theorem Acts.shared (acts : Acts f b f' jobs b') (shared : f.Shared b)
    (logged : f'.Logged b'.events) : f'.Shared b' := by
  cases acts with
  | still | idle => exact shared
  | read i level => exact shared.seat logged (.inl level)
  | @finish i terms state events rows found lists =>
    refine shared.seat logged ?_
    rcases shared.follows i _ found with level | behind
    · -- The balances are those that go with the state and the events.
      obtain ⟨rfl, rfl⟩ := level.has rfl
      refine .inl ⟨?_, rfl⟩
      show Books.mk b.state b.events (Table.empty.insertAll rows) = b
      rw [Table.insertAll_of_lists lists]
    · exact .inr ⟨rfl, behind.shorter⟩
  | @write i service order t w found level settled proposed reports answered carried advanced
      kept =>
    have longer : b.events.length < w.service.books.events.length := by
      obtain ⟨rfl, -⟩ := level
      show service.log.events.length < w.service.log.events.length
      rw [advanced.log, List.length_append, EventLog.length_stage]
      exact Nat.lt_add_of_pos_right (List.length_pos_iff.mpr reports)
    refine ⟨kept.holds, kept.audited, logged, fun j other seated => ?_⟩
    rcases members_seat seated with own | before
    · cases own
      exact .inl ⟨rfl, kept.bridge⟩
    · exact .inr ((shared.follows j other before).behind (settled j other before) longer)

/-- An order to a member that serves is refused, reports nothing, or is that of a level member. -/
theorem Shared.acts_order (shared : f.Shared b) (roomy : f.Roomy)
    (found : f.members i = some (.serving service)) (order : Order)
    (roomy' : (f.act (.order i order)).Roomy)
    (untorn : f.writes (.order i order) = true → f.Settled) :
    ∃ b', Acts f b (f.act (.order i order)) (service.job? f.store order).toList b' := by
  rcases (World.mk service f.store).answer_cases order with
    ⟨fault, refused, same⟩ | ⟨t, proposed, answered, advanced⟩
  · rw [act_order_same found same, Service.job?_of_error refused]
    exact ⟨b, .still⟩
  · -- The store has taken the commit, so it was not made to fail.
    have works := Service.works_of_ok answered
    by_cases quiet : t.events = []
    · rw [act_of_idle found proposed quiet, Service.job?_of_idle proposed quiet works]
      exact ⟨b, .idle found proposed quiet works⟩
    · have level := shared.level_of_commit roomy found quiet advanced.store
      have room : ((World.mk service f.store).carry order).Roomy := by
        unfold World.Roomy
        rw [shared.size_advance level advanced]
        have room := roomy'.room
        rw [act_order found] at room
        exact room
      have kept := (shared.kept level).carry room
      have job := Service.job?_of_ok answered advanced.log
      have settled : f.Settled := by
        refine untorn ?_
        unfold writes
        rw [job?_order found, job]
        have staged : service.log.stage t.events order.env.now ≠ [] := by
          rw [← List.length_pos_iff, EventLog.length_stage]
          exact List.length_pos_iff.mpr quiet
        show (!(service.log.stage t.events order.env.now).isEmpty) = true
        rw [Bool.not_eq_true', List.isEmpty_eq_false_iff]
        exact staged
      rw [act_order found, job]
      exact ⟨_, .write found level settled proposed quiet answered rfl advanced kept⟩

/-- **Whatever happens in a fleet is one of five things**, as long as it tears no load. -/
theorem Shared.acts (shared : f.Shared b) (roomy : f.Roomy) (roomy' : (f.act a).Roomy)
    (untorn : f.writes a = true → f.Settled) : ∃ b', Acts f b (f.act a) (f.job? a).toList b' := by
  cases a with
  | start i terms =>
    refine ⟨b, ?_⟩
    -- The queries make up a load, and that of a store with books succeeds.
    have loaded := shared.load roomy
    rw [QueriedStore.load_eq] at loaded
    obtain ⟨next, first, others⟩ := bind_ok_iff.mp loaded
    simp only [act, first]
    exact .read i others
  | query i =>
    refine ⟨b, ?_⟩
    cases found : f.members i with
    | none =>
      rw [act_query_of_none found]
      exact .still
    | some m =>
      by_cases whole : m.left = []
      · rw [act_query_of_whole found whole]
        exact .still
      · cases m with
        | serving service => exact absurd rfl whole
        | reading terms left read =>
          cases left with
          | nil => exact absurd rfl whole
          | cons query left =>
            rcases shared.follows i _ found with level | behind
            · obtain ⟨next, succeeded, others⟩ := bind_ok_iff.mp level
              rw [act_query found succeeded]
              exact .read i others
            · cases behind.whole
  | finish i =>
    refine ⟨b, ?_⟩
    unfold act
    dsimp only
    split
    case h_1 terms state events found =>
      obtain ⟨rows, loaded, lists⟩ := DurableStore.loadBalances shared.holds
      rw [loaded]
      exact .finish found lists
    case h_2 => exact .still
  | order i order =>
    rcases f.order_cases i order with ⟨same, none_done⟩ | ⟨service, found⟩
    · rw [same, none_done]
      exact ⟨b, .still⟩
    · rw [job?_order found]
      exact shared.acts_order roomy found order roomy' untorn

end Fleet

/-! ## §3. The serial run behind a fleet. -/

/-- A store that the serial run passes held what the member has of state and events. -/
def Member.Seen {σ : Type} [Store σ] [DurableStore σ] (serial : List Job) (last : σ)
    (m : Member σ) : Prop :=
  ∃ middle rows, Passes DurableStore.blank serial middle last ∧
    Store.load middle = .ok (m.state, m.events) ∧ Store.loadBalances middle = .ok rows

namespace Fleet

variable {σ : Type} [Store σ] [DurableStore σ] {f f' : Fleet σ} {b b' : Books}
  {i : Nat} {m : Member σ} {service : Service} {a : Action} {jobs more serial : List Job}

/-- A serial run that has led to what the store of a fleet holds and its members have, as far as
they have been read. -/
structure Recounts (f : Fleet σ) (serial : List Job) : Prop where
  run : Serial DurableStore.blank serial f.store
  seen : ∀ i m, f.members i = some m → m.left = [] → m.Seen serial f.store

/-- A member is seated that the serial run accounts for. -/
theorem Recounts.seat (recounts : f.Recounts serial) (seen : m.left = [] → m.Seen serial f.store) :
    (f.seat i (some m)).Recounts serial where
  run := recounts.run
  seen j other found whole := by
    rcases members_seat found with own | before
    · cases own
      exact seen whole
    · exact recounts.seen j other before whole

/-- The orders that were accepted so far explain the books and what the members have. -/
structure Told (f : Fleet σ) (b : Books) (jobs : List Job) : Prop where
  logged : b.events = jobs.flatMap (·.events)
  recounted : ∃ serial, Rearranged serial jobs ∧ f.Recounts serial

/-- Without members nothing is left to explain. -/
theorem Told.blank : (Fleet.blank : Fleet σ).Told Books.empty [] where
  logged := rfl
  recounted := ⟨[], .refl [], .done _, fun _ _ found => by cases found⟩

variable [SequencedStore σ]

omit [DurableStore σ] in
/-- An order with nothing to report could have been given when its member was loaded. -/
theorem serial_of_idle {middle : σ} {rows : List (Identity × UInt64)} {order : Order}
    {t : Transition Receipt} (proposed : service.propose order.env order.command = .ok t)
    (quiet : t.events = []) (works : order.env.storeFault = none)
    (held : Store.load middle = .ok (service.state, service.log.events))
    (kept : Store.loadBalances middle = .ok rows) :
    Serial middle [⟨service.params, order, t.output, []⟩] middle := by
  -- The service that is loaded has other balances perhaps, and proposes the same.
  obtain ⟨anew, loaded, params, state⟩ : ∃ anew, Service.load service.params middle = .ok anew ∧
      anew.params = service.params ∧ anew.state = service.state :=
    ⟨_, (Service.load_eq_ok_iff ..).mpr ⟨_, _, _, held, kept, rfl⟩, rfl, rfl⟩
  have proposed' : anew.propose order.env order.command = .ok t :=
    (Service.propose_congr params state order.env order.command).trans proposed
  have same : anew.job? middle order = some ⟨anew.params, order, t.output, []⟩ :=
    Service.job?_of_idle proposed' quiet works
  rw [params] at same
  refine .next loaded same ?_
  rw [(Service.execute_of_idle proposed' quiet).2]
  exact .done middle

variable [QueriedStore σ] [LoggedStore σ]

/-- An order that reports something is carried out by the service as the store has it. -/
theorem serial_of_write (shared : f.Shared b) (roomy : f.Roomy)
    (level : (Member.serving service).Level f.store b) {order : Order} {t : Transition Receipt}
    (answered : (service.execute f.store order.env order.command).result = .ok t.output)
    (advanced : (World.mk service f.store).Advances t order.env.now
      ((World.mk service f.store).carry order)) :
    Serial f.store [⟨service.params, order, t.output, service.log.stage t.events order.env.now⟩]
      ((World.mk service f.store).carry order).store := by
  have room : (World.mk service f.store).Roomy := by
    have sized := shared.sized
    have room := roomy.room
    obtain ⟨rfl, -⟩ := level
    rw [← sized] at room
    exact room
  exact .next ((shared.kept level).reload_eq room) (Service.job?_of_ok answered advanced.log)
    (.done _)

/-- **After an action the orders that were accepted explain the fleet as well.** -/
theorem Acts.told (acts : Acts f b f' more b') (shared : f.Shared b) (roomy : f.Roomy)
    (roomy' : f'.Roomy) (told : f.Told b jobs) : f'.Told b' (jobs ++ more) := by
  have logged : b'.events = (jobs ++ more).flatMap (·.events) := by
    rw [acts.events_eq, told.logged, List.flatMap_append]
  obtain ⟨-, serial, rearranged, recounts⟩ := told
  refine ⟨logged, ?_⟩
  cases acts with
  | still =>
    rw [List.append_nil]
    exact ⟨serial, rearranged, recounts⟩
  | @read i terms left read level =>
    rw [List.append_nil]
    obtain ⟨rows, loaded, -⟩ := DurableStore.loadBalances shared.holds
    refine ⟨serial, rearranged, recounts.seat fun whole => ?_⟩
    -- The last query has been made, and nobody has written since the first.
    obtain ⟨state, events⟩ := level.has whole
    refine ⟨f.store, rows, .of_end recounts.run, ?_, loaded⟩
    rw [state, events]
    exact shared.load roomy
  | finish found lists =>
    rw [List.append_nil]
    -- The state and the events are those that were read.
    have seen := recounts.seen _ _ found rfl
    exact ⟨serial, rearranged, recounts.seat fun _ => seen⟩
  | @idle i service order t found proposed quiet works =>
    obtain ⟨middle, rows, passes, held, kept⟩ := recounts.seen i _ found rfl
    obtain ⟨longer, again, run, still_seen⟩ :=
      passes.slip (serial_of_idle proposed quiet works held kept) rfl
    refine ⟨longer, again.trans (rearranged.append_right _), run, ?_⟩
    intro j other seated whole
    obtain ⟨middle, rows, passes, had⟩ := recounts.seen j other seated whole
    exact ⟨middle, rows, still_seen middle passes, had⟩
  | @write i service order t w found level settled proposed reports answered carried advanced
      kept =>
    subst carried
    have run := recounts.run.append (serial_of_write shared roomy level answered advanced)
    refine ⟨_, rearranged.append_right _, run, ?_⟩
    intro j other seated whole
    rcases members_seat seated with own | before
    · cases own
      obtain ⟨rows, loaded, -⟩ := DurableStore.loadBalances kept.holds
      have room : DurableStore.HasRoom σ
          ((World.mk service f.store).carry order).service.log.events.length := by
        rw [shared.size_advance level advanced]
        exact roomy'.room
      exact ⟨_, rows, .of_end run, DurableStore.load kept.holds kept.audited room, loaded⟩
    · obtain ⟨middle, rows, passes, had⟩ := recounts.seen j other before whole
      exact ⟨middle, rows,
        passes.extend (serial_of_write shared roomy level answered advanced), had⟩

end Fleet

/-! ## §4. Whole runs. -/

namespace Fleet

variable {σ : Type} [Store σ] [QueriedStore σ] [DurableStore σ] [SequencedStore σ]
  [LoggedStore σ] {f : Fleet σ} {b : Books} {i : Nat} {service : Service}

/-- **After a run that tears no load the store holds books that every member follows**, and the
orders that were accepted explain the fleet. -/
theorem told_run {jobs : List Job} {actions : List Action} (shared : f.Shared b)
    (told : f.Told b jobs) (roomy : (f.run actions).Roomy) (untorn : f.Untorn actions) :
    ∃ b', (f.run actions).Shared b' ∧ (f.run actions).Told b' (jobs ++ f.accepted actions) := by
  induction actions generalizing f b jobs with
  | nil =>
    refine ⟨b, shared, ?_⟩
    unfold accepted
    rw [List.append_nil]
    exact told
  | cons a rest ih =>
    have after : (f.act a).Roomy := Roomy.of_run roomy
    have before : f.Roomy := Roomy.of_run roomy
    obtain ⟨next, acts⟩ := shared.acts before after untorn.1
    have logged : (f.act a).Logged next.events := by
      rw [acts.events_eq]
      exact shared.logged.act before
    obtain ⟨b', shared', told'⟩ :=
      ih (acts.shared shared logged) (acts.told shared before after told) roomy untorn.2
    refine ⟨b', shared', ?_⟩
    unfold accepted
    rw [← List.append_assoc]
    exact told'

/-- Whoever lacks something of what the store holds lacks events. -/
theorem Shared.shorter (shared : f.Shared b) (roomy : f.Roomy)
    (found : f.members i = some (.serving service)) (behind : ¬ Current service f.store) :
    service.log.events.length < DurableStore.size f.store := by
  rw [shared.current_iff roomy found] at behind
  rw [← shared.sized]
  rcases shared.follows i _ found with level | lacks
  · exact absurd level behind
  · exact lacks.shorter

/-- What a fleet may count on besides after `jobs` have been accepted, if no load was torn. -/
structure Serialized (f : Fleet σ) (jobs : List Job) : Prop where
  /-- Whoever gets events into the store has what it held just before. -/
  current : ∀ i service, f.members i = some (.serving service) →
    ∀ delta reported time balances next, reported ≠ [] →
      Store.commit f.store delta (service.log.stage reported time) balances = .ok next →
      Current service f.store
  /-- Whoever has fallen behind in anything lacks events, so it is refused and stays behind -/
  lacks : ∀ i service, f.members i = some (.serving service) → ¬ Current service f.store →
    service.log.events.length < DurableStore.size f.store
  /-- until it is loaded anew, with which it has what the store holds. -/
  reloaded : ∀ i terms, ∃ service, service.params = terms ∧
    (f.run (Action.reads (QueriedStore.rest : List (Query σ)).length i terms)).act (.finish i)
      = f.seat i (some (.serving service)) ∧
    Current service f.store
  /-- The store can be read, -/
  load : ∃ state, Store.load f.store = .ok (state, jobs.flatMap (·.events))
  /-- and the jobs, put into some order, lead to it one after the other. -/
  serial : ∃ serial, Rearranged serial jobs ∧ Serial DurableStore.blank serial f.store

/-- **After any actions that tear no load a fleet can count on its store.** -/
theorem serialized_run {actions : List Action} (roomy : (blank.run actions : Fleet σ).Roomy)
    (untorn : (blank : Fleet σ).Untorn actions) :
    (blank.run actions : Fleet σ).Serialized ((blank : Fleet σ).accepted actions) := by
  obtain ⟨b, shared, told⟩ := told_run Shared.blank Told.blank roomy untorn
  constructor
  case current =>
    intro i service found delta reported time balances next some_event landed
    have level := shared.level_of_commit roomy found some_event landed
    exact (shared.current_iff roomy found).mpr level
  case lacks =>
    intro i service found behind
    exact shared.shorter roomy found behind
  case reloaded =>
    intro i terms
    obtain ⟨rows, kept, lists⟩ := DurableStore.loadBalances shared.holds
    have held := shared.load roomy
    have loaded : Service.load terms (blank.run actions : Fleet σ).store = .ok _ :=
      (Service.load_eq_ok_iff ..).mpr ⟨_, _, _, held, kept, rfl⟩
    refine ⟨_, rfl, run_load _ i loaded, held, rows, kept, ?_⟩
    show Lists rows (Table.empty.insertAll rows).get?
    rw [Table.insertAll_of_lists lists]
    exact lists
  case load =>
    refine ⟨b.state, ?_⟩
    have logged := told.logged
    rw [List.nil_append] at logged
    rw [← logged]
    exact shared.load roomy
  case serial =>
    obtain ⟨serial, rearranged, recounts⟩ := told.recounted
    rw [List.nil_append] at rearranged
    exact ⟨serial, rearranged, recounts.run⟩

end Fleet

/-- **Several services over one store never lose an update, unless a load is torn.**  Let any number
of services be loaded at any time from one store, the one that forgets or the relational one, and
be given orders that come between each other, and between the queries of loads, in any way, as long
as there are fewer than half as many events as numbers.  Then every commit with events that the
store takes is that of a service with the whole log; a service that lacks events has every such
commit refused without effect until it is loaded anew; a commit without events writes nothing; and
the store has exactly the events that were reported.

The store that forgets is read by one query.  There, and in the relational store if no commit with
events comes between the queries of a load, such a commit is that of a service that had the state,
the events and the balances of the store just before it, and the store is where a serial run of the
accepted commands leads, those with events in the order in which they were accepted. -/
theorem updates_never_lost (actions : List Action) :
    (((Fleet.blank : Fleet Volatile).run actions).store.events.length < 2 ^ 63 →
      ((Fleet.blank : Fleet Volatile).run actions).Sequenced
          ((Fleet.blank : Fleet Volatile).accepted actions) ∧
        ((Fleet.blank : Fleet Volatile).run actions).Serialized
          ((Fleet.blank : Fleet Volatile).accepted actions)) ∧
    (((Fleet.blank : Fleet Relational).run actions).store.events.length < 2 ^ 63 →
      ((Fleet.blank : Fleet Relational).run actions).Sequenced
          ((Fleet.blank : Fleet Relational).accepted actions) ∧
        ((Fleet.blank : Fleet Relational).Untorn actions →
          ((Fleet.blank : Fleet Relational).run actions).Serialized
            ((Fleet.blank : Fleet Relational).accepted actions))) := by
  constructor
  · intro few
    have roomy : ((Fleet.blank : Fleet Volatile).run actions).Roomy := ⟨few, trivial⟩
    have single : Fleet.InOneGo (QueriedStore.rest : List (Query Volatile)).length actions :=
      .zero actions
    have untorn := single.untorn Fleet.settled_blank
    exact ⟨Fleet.sequenced_run roomy, Fleet.serialized_run roomy untorn⟩
  · intro few
    have roomy : ((Fleet.blank : Fleet Relational).run actions).Roomy := ⟨few, few⟩
    exact ⟨Fleet.sequenced_run roomy, Fleet.serialized_run roomy⟩

namespace Sample

/-- Two services: the second reads its state before the first one commits and its balances after,
is refused until it is loaded anew, and falls behind once more, when it is told to move a wallet to
a stage that this has had before. -/
def pair : List Action :=
  Action.reads 6 0 {} ++ (.finish 0 :: (Action.reads 6 1 {} ++ (
    .order 0 ⟨env 1, .registerWallet wallet .live⟩ :: .finish 1 ::
    .order 1 ⟨env 2, .setVaultStatus ⟨"vault"⟩ true⟩ :: (Action.reads 6 1 {} ++ [
    .finish 1,
    .order 0 ⟨env 3, .setWalletState wallet .movingFunds⟩,
    .order 1 ⟨env 4, .setWalletState wallet .live⟩]))))

/-- No load of the pair is torn. -/
theorem pair_inOneGo : Fleet.InOneGo 6 pair :=
  .reads 0 {} (.finish 0 (.reads 1 {} (.order 0 _ (.finish 1 (.order 1 _ (.reads 1 {}
    (.finish 1 (.order 0 _ (.order 1 _ .nil)))))))))

end Sample

/-- Three orders of the pair are accepted, the last without an event. -/
theorem updates_never_lost_sample :
    ((Fleet.blank : Fleet Volatile).run Sample.pair).store.events.length = 2 ∧
    ((Fleet.blank : Fleet Volatile).accepted Sample.pair).map (·.events.length) = [1, 1, 0] ∧
    (((Fleet.blank : Fleet Volatile).run Sample.pair).Sequenced
        ((Fleet.blank : Fleet Volatile).accepted Sample.pair) ∧
      ((Fleet.blank : Fleet Volatile).run Sample.pair).Serialized
        ((Fleet.blank : Fleet Volatile).accepted Sample.pair)) ∧
    ((Fleet.blank : Fleet Relational).run Sample.pair).store.events.length = 2 ∧
    (Fleet.blank : Fleet Relational).Untorn Sample.pair ∧
    ((Fleet.blank : Fleet Relational).run Sample.pair).Sequenced
      ((Fleet.blank : Fleet Relational).accepted Sample.pair) ∧
    ((Fleet.blank : Fleet Relational).run Sample.pair).Serialized
      ((Fleet.blank : Fleet Relational).accepted Sample.pair) := by
  have volatile : ((Fleet.blank : Fleet Volatile).run Sample.pair).store.events.length = 2 := by
    decide +kernel
  have jobs : ((Fleet.blank : Fleet Volatile).accepted Sample.pair).map (·.events.length)
      = [1, 1, 0] := by
    decide +kernel
  have relational : ((Fleet.blank : Fleet Relational).run Sample.pair).store.events.length = 2 := by
    decide +kernel
  have untorn : (Fleet.blank : Fleet Relational).Untorn Sample.pair :=
    Fleet.InOneGo.untorn Sample.pair_inOneGo Fleet.settled_blank
  obtain ⟨first, second⟩ := updates_never_lost Sample.pair
  rw [volatile] at first
  rw [relational] at second
  obtain ⟨sequenced, serialized⟩ := second (by decide)
  exact ⟨volatile, jobs, first (by decide), relational, untorn, sequenced, serialized untorn⟩

/-! ## §5. A torn load. -/

namespace Sample

/-- A service registers a wallet while another is being loaded: this has read deposits,
reservations and wallets, and goes on with the redemptions. -/
def torn : List Action :=
  Action.reads 6 0 {} ++ .finish 0 :: Action.reads 2 1 {}
    ++ .order 0 ⟨env 1, .registerWallet wallet .live⟩ :: List.replicate 4 (.query 1) ++ [.finish 1]

/-- The service that was loaded registers the wallet as well, at another stage. -/
def registerAnew : Order := ⟨env 2, .registerWallet wallet .movingFunds⟩

/-- The fleet in which the load was torn. -/
def tornFleet : Fleet Relational := Fleet.blank.run torn

/-- The fleet in which the wallet is registered twice. -/
def spoiltFleet : Fleet Relational := Fleet.blank.run (torn ++ [.order 1 registerAnew])

/-- The two registrations. -/
def registrations : List Job :=
  (Fleet.blank : Fleet Relational).accepted (torn ++ [.order 1 registerAnew])

end Sample

/-- **A torn load loses an update.**  The service that was loaded has the event of the first
registration and not the wallet.  So it registers the wallet once more: the store takes that, the
first registration is overwritten, and no serial run of the two commands leads to the store, since
the second would have been refused. -/
theorem update_lost :
    (∃ service, Sample.tornFleet.members 1 = some (.serving service) ∧
      service.log.events.length = Sample.tornFleet.store.events.length ∧
      ¬ Current service Sample.tornFleet.store ∧
      (service.execute Sample.tornFleet.store Sample.registerAnew.env
        Sample.registerAnew.command).result = .ok .done) ∧
    Sample.spoiltFleet.store.events.length = 2 ∧
    Sample.spoiltFleet.store.wallets
      = [Relational.walletRow ⟨Sample.wallet, .movingFunds, none⟩] ∧
    ¬ ∃ serial, Rearranged serial Sample.registrations ∧
      Serial DurableStore.blank serial Sample.spoiltFleet.store := by
  have spoilt : Sample.spoiltFleet.store.events.length = 2 ∧
      Sample.spoiltFleet.store.wallets
        = [Relational.walletRow ⟨Sample.wallet, .movingFunds, none⟩] := by
    decide +kernel
  refine ⟨?_, spoilt.1, spoilt.2, ?_⟩
  · have checked : (((Sample.tornFleet.members 1).bind Member.service?).any fun service =>
        decide (service.log.events.length = Sample.tornFleet.store.events.length ∧
          Store.load Sample.tornFleet.store ≠ .ok (service.state, service.log.events) ∧
          (service.execute Sample.tornFleet.store Sample.registerAnew.env
            Sample.registerAnew.command).result = .ok .done)) = true := by
      decide +kernel
    obtain ⟨service, loaded, told⟩ := (Option.any_eq_true ..).mp checked
    obtain ⟨m, found, own⟩ := Option.bind_eq_some_iff.mp loaded
    obtain ⟨logged, differs, answered⟩ := of_decide_eq_true told
    cases m with
    | reading terms left read => cases own
    | serving other =>
      cases own
      exact ⟨service, found, logged, fun current => differs current.load, answered⟩
  · rintro ⟨serial, rearranged, run⟩
    obtain ⟨write, refused⟩ : (∀ job ∈ Sample.registrations, job.writes = true) ∧
        (replay (DurableStore.blank : Relational)
          (Sample.registrations.map fun job => (job.terms, job.order))).isNone = true := by
      decide +kernel
    -- Both write, so they can only be replayed in the order in which they were accepted.
    rw [rearranged.eq_of_writes write] at run
    rw [run.replay_eq] at refused
    cases refused

end Custody
