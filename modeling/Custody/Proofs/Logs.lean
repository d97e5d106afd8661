/-
  Custody.Proofs.Logs
  ────────────────────────────────
  **THE LOG OF A FLEET.**

  A load may be torn, but its events are read by one query, and by the last.
  So whatever else a service has, its log is a beginning of that of the store,
  and the numbers of events see to it that only a service with the whole log
  adds to it.

  Main facts:
    * `Logged.whole_of_commit` — only a service with the whole log gets events
                                 into the store;
    * `Logged.act`             — an action adds to the log what it reports;
    * `sequenced_run`          — what a fleet may count on after any actions.
-/
import Custody.Proofs.Fleets

namespace Custody

/-! ## §1. Stores with a log. -/

/-- A store whose events are read by the last query of a load. -/
class LoggedStore (σ : Type) [Store σ] [QueriedStore σ] [DurableStore σ] [SequencedStore σ] where
  /-- Whether these are the events in the store. -/
  Logs : σ → List LoggedEvent → Prop
  logs_blank : Logs DurableStore.blank []
  size_eq {store : σ} {events : List LoggedEvent} :
    Logs store events → DurableStore.size store = events.length
  numbers_eq {store : σ} {events : List LoggedEvent} :
    Logs store events → SequencedStore.numbers store = numbersOf events
  commit {store next : σ} {events staged : List LoggedEvent} {delta : Delta}
    {balances : List (Identity × UInt64)} :
    Logs store events → Store.commit store delta staged balances = .ok next →
      Logs next (events ++ staged)
  last {store : σ} {events : List LoggedEvent} {before : List (Query σ)} {query : Query σ}
    {read next : State × List LoggedEvent} :
    QueriedStore.first :: QueriedStore.rest = before ++ [query] → Logs store events →
      Numbered events → DurableStore.HasRoom σ events.length → query store read = .ok next →
      next.2 = events

instance : LoggedStore Volatile where
  Logs store events := store.events = events
  logs_blank := rfl
  size_eq held := congrArg List.length held
  numbers_eq held := congrArg numbersOf held
  commit held landed := by
    obtain ⟨-, rfl⟩ := (Volatile.commit_eq_ok_iff ..).mp landed
    rw [← held]
    rfl
  last := by
    intro store events before query read next queries held _ _ made
    -- There is no query but the first.
    obtain ⟨-, only⟩ | ⟨-, none_left⟩ := List.append_eq_singleton_iff.mp queries.symm
    · cases List.singleton_inj.mp only
      cases made
      exact held
    · cases none_left

namespace Relational

/-- The rows of events that were added stand behind those that were there. -/
theorem addEvents_rows {rows next : Store.Relation} {staged : List LoggedEvent}
    (added : addEvents rows staged = .ok next) : next = rows ++ staged.map eventRow := by
  induction staged generalizing rows with
  | nil =>
    cases added
    exact (List.append_nil _).symm
  | cons e rest ih =>
    unfold addEvents at added
    split at added
    case isTrue => cases added
    case isFalse =>
      rw [ih added, List.append_assoc]
      rfl

/-- The rows of events stand under the numbers of the events. -/
theorem rowNumbers_map (events : List LoggedEvent) :
    rowNumbers (events.map eventRow) = numbersOf events := by
  induction events with
  | nil => rfl
  | cons e rest ih =>
    show rowNumbers ([eventRow e] ++ rest.map eventRow) = _
    unfold rowNumbers at ih ⊢
    rw [List.filterMap_append, ih]
    rfl

end Relational

instance : LoggedStore Relational where
  Logs db events := db.events = events.map Relational.eventRow
  logs_blank := rfl
  size_eq held := by
    show List.length _ = _
    rw [held, List.length_map]
  numbers_eq held := by
    show Relational.rowNumbers _ = _
    rw [held, Relational.rowNumbers_map]
  commit held landed := by
    rw [Relational.addEvents_rows (Relational.commit_eq_ok landed), held, List.map_append]
  last := by
    intro db events before query read next queries held numbered low made
    -- The last of the seven queries is that of the events.
    have same := congrArg List.getLast? queries
    rw [List.getLast?_append, List.getLast?_singleton, Option.some_or] at same
    cases Option.some.inj same
    obtain ⟨records, found, put⟩ := bind_ok_iff.mp made
    dsimp only at found
    rw [held, Relational.sortedEvents_eq numbered low, Relational.read_events] at found
    cases found
    cases put
    rfl

/-! ## §2. Fleets and their log. -/

/-- What the member has of the log, once its load has got there: a beginning. -/
def Member.Trails {σ : Type} [Store σ] [QueriedStore σ] (events : List LoggedEvent) :
    Member σ → Prop
  | .reading _ left read =>
    (∃ before, QueriedStore.first :: QueriedStore.rest = before ++ left) ∧
      (left = [] → read.2 <+: events)
  | .serving service => service.log.events <+: events

/-- A beginning of the log stays one as the log grows. -/
theorem Member.Trails.extend {σ : Type} [Store σ] [QueriedStore σ] {events : List LoggedEvent}
    {m : Member σ} (trails : m.Trails events) (more : List LoggedEvent) :
    m.Trails (events ++ more) := by
  cases m with
  | reading terms left read =>
    exact ⟨trails.1, fun none_left => (trails.2 none_left).trans (List.prefix_append ..)⟩
  | serving service => exact List.IsPrefix.trans trails (List.prefix_append ..)

namespace Fleet

section Blank

variable {σ : Type} [Store σ] [DurableStore σ]

/-- A fleet without members over a store without contents. -/
def blank : Fleet σ := ⟨fun _ => none, DurableStore.blank⟩

/-- There are fewer events in the store than half of the numbers, and there is room for them. -/
structure Roomy (f : Fleet σ) : Prop where
  few : DurableStore.size f.store < 2 ^ 63
  room : DurableStore.HasRoom σ (DurableStore.size f.store)

/-- Before anything has happened no load is under way. -/
theorem settled_blank : (blank : Fleet σ).Settled := fun _ _ found => by cases found

end Blank

variable {σ : Type} [Store σ] [QueriedStore σ] {f : Fleet σ} {i : Nat} {service : Service}
  {a : Action} {events : List LoggedEvent}

/-- An order with nothing to report changes nothing, whether it is accepted or not. -/
theorem act_of_idle [SequencedStore σ] (found : f.members i = some (.serving service))
    {order : Order} {t : Transition Receipt}
    (proposed : service.propose order.env order.command = .ok t) (quiet : t.events = []) :
    f.act (.order i order) = f := by
  obtain ⟨unmoved, unwritten⟩ :
      (service.execute f.store order.env order.command).service = service ∧
        (service.execute f.store order.env order.command).store = f.store :=
    Service.execute_of_idle proposed quiet
  refine act_order_same found ?_
  show World.mk (service.execute f.store order.env order.command).service _ = _
  rw [unmoved, unwritten]

variable [DurableStore σ]

/-- **The store never gets smaller.** -/
theorem size_le_act (f : Fleet σ) (a : Action) :
    DurableStore.size f.store ≤ DurableStore.size (f.act a).store := by
  cases a with
  | start i terms => exact Nat.le_refl _
  | query i =>
    unfold act
    dsimp only
    split <;> exact Nat.le_refl _
  | finish i =>
    unfold act
    dsimp only
    split <;> exact Nat.le_refl _
  | order i order =>
    rcases f.order_cases i order with ⟨same, -⟩ | ⟨service, found⟩
    · rw [same]
    · rcases (World.mk service f.store).answer_cases order with
        ⟨-, -, same⟩ | ⟨t, -, -, advanced⟩
      · rw [act_order_same found same]
      · rw [act_order found]
        show DurableStore.size f.store ≤ DurableStore.size (World.carry _ order).store
        rw [DurableStore.size_commit advanced.store]
        exact Nat.le_add_right _ _

/-- Nor does it in the course of a run. -/
theorem size_le_run (f : Fleet σ) (actions : List Action) :
    DurableStore.size f.store ≤ DurableStore.size (f.run actions).store := by
  induction actions generalizing f with
  | nil => exact Nat.le_refl _
  | cons a rest ih => exact Nat.le_trans (f.size_le_act a) (ih (f.act a))

/-- Where there is room in the end, there was room before. -/
theorem Roomy.of_run {actions : List Action} (roomy : (f.run actions).Roomy) : f.Roomy where
  few := Nat.lt_of_le_of_lt (f.size_le_run actions) roomy.few
  room := DurableStore.hasRoom_of_le (f.size_le_run actions) roomy.room

variable [SequencedStore σ] [LoggedStore σ]

/-- The store has these events, and every member a beginning of them. -/
structure Logged (f : Fleet σ) (events : List LoggedEvent) : Prop where
  logs : LoggedStore.Logs f.store events
  numbered : Numbered events
  trails : ∀ i m, f.members i = some m → m.Trails events

/-- Without members and contents there are no events. -/
theorem Logged.blank : (Fleet.blank : Fleet σ).Logged [] where
  logs := LoggedStore.logs_blank
  numbered := Books.Audited.empty.numbered
  trails _ _ found := by cases found

/-- Where no job is done, the log is as it was. -/
theorem Logged.silent (logged : f.Logged events) :
    f.Logged (events ++ (none : Option Job).toList.flatMap (·.events)) := by
  show f.Logged (events ++ [])
  rw [List.append_nil]
  exact logged

/-- A member is seated that has a beginning of the log. -/
theorem Logged.seat (logged : f.Logged events) {m : Option (Member σ)}
    (trails : ∀ x, m = some x → x.Trails events) : (f.seat i m).Logged events where
  logs := logged.logs
  numbered := logged.numbered
  trails j other found := by
    rcases members_seat found with seated | before
    · exact trails other seated
    · exact logged.trails j other before

/-- The query of a load that succeeds leaves a member with a beginning of the log. -/
theorem Logged.trails_query (logged : f.Logged events) (roomy : f.Roomy) {terms : Params}
    {query : Query σ} {before left : List (Query σ)} {read : State × List LoggedEvent}
    (queries : QueriedStore.first :: QueriedStore.rest = before ++ query :: left) (x : Member σ)
    (made : (query f.store read).toOption.map (.reading terms left) = some x) :
    x.Trails events := by
  obtain ⟨next, succeeded, rfl⟩ := Option.map_eq_some_iff.mp made
  have found : query f.store read = .ok next := by
    cases outcome : query f.store read with
    | error fault =>
      rw [outcome] at succeeded
      cases succeeded
    | ok other =>
      rw [outcome] at succeeded
      cases succeeded
      rfl
  refine ⟨⟨before ++ [query], ?_⟩, ?_⟩
  · rw [queries, List.append_assoc]
    rfl
  · rintro rfl
    -- It was the last query, so the events are all those of the store.
    have room : DurableStore.HasRoom σ events.length := by
      rw [← LoggedStore.size_eq logged.logs]
      exact roomy.room
    have whole := LoggedStore.last queries logged.logs logged.numbered room found
    exact ⟨[], (List.append_nil _).trans whole⟩

/-- **Only a service with the whole log gets events into the store**: those of a service that has
less of it would begin with a number that is taken. -/
theorem Logged.whole_of_commit (logged : f.Logged events) (roomy : f.Roomy)
    (found : f.members i = some (.serving service)) {delta : Delta} {reported : List Event}
    {time : UInt64} {balances : List (Identity × UInt64)} {next : σ} (some_event : reported ≠ [])
    (landed : Store.commit f.store delta (service.log.stage reported time) balances = .ok next) :
    service.log.events = events := by
  obtain ⟨missing, all⟩ : service.log.events <+: events := logged.trails i _ found
  cases missing with
  | nil => rw [← all, List.append_nil]
  | cons e rest =>
    exfalso
    have few : events.length < 2 ^ 63 := by
      rw [← LoggedStore.size_eq logged.logs]
      exact roomy.few
    -- The event of the store at the place where the log of the service ends.
    have at_end : events[service.log.events.length]? = some e := by
      rw [← all]
      simp
    have own : Numbered service.log.events := by
      have numbered := logged.numbered
      rw [← all] at numbered
      exact numbered.of_append
    have taken : service.log.nextSeq ∈ numbersOf events := by
      rw [EventLog.nextSeq_of_numbered own, ← logged.numbered _ e at_end]
      exact List.mem_map.mpr ⟨e, List.mem_of_getElem? at_end, rfl⟩
    cases reported with
    | nil => exact some_event rfl
    | cons first rest =>
      exact SequencedStore.taken (LoggedStore.numbers_eq logged.logs) logged.numbered few taken
        landed

/-- An order to a member that serves adds to the log what it reports. -/
theorem Logged.order (logged : f.Logged events) (roomy : f.Roomy)
    (found : f.members i = some (.serving service)) (order : Order) :
    (f.act (.order i order)).Logged
      (events ++ (service.job? f.store order).toList.flatMap (·.events)) := by
  rcases (World.mk service f.store).answer_cases order with
    ⟨fault, refused, same⟩ | ⟨t, proposed, answered, advanced⟩
  · rw [act_order_same found same, Service.job?_of_error refused]
    exact logged.silent
  · by_cases quiet : t.events = []
    · have works := Service.works_of_ok answered
      rw [act_of_idle found proposed quiet, Service.job?_of_idle proposed quiet works]
      show Logged _ (events ++ ([] ++ []))
      rw [List.append_nil, List.append_nil]
      exact logged
    · have whole := logged.whole_of_commit roomy found quiet advanced.store
      rw [act_order found, Service.job?_of_ok answered advanced.log]
      show Logged _ (events ++ (service.log.stage t.events order.env.now ++ []))
      rw [List.append_nil]
      subst whole
      refine ⟨LoggedStore.commit logged.logs advanced.store,
        EventLog.numbered_stage logged.numbered t.events order.env.now, fun j other seated => ?_⟩
      rcases members_seat seated with own | before
      · cases own
        show ((World.mk service f.store).carry order).service.log.events <+: _
        exact ⟨[], (List.append_nil _).trans advanced.log⟩
      · exact (logged.trails j other before).extend _

/-- **An action adds to the log what it reports.** -/
theorem Logged.act (logged : f.Logged events) (roomy : f.Roomy) :
    (f.act a).Logged (events ++ (f.job? a).toList.flatMap (·.events)) := by
  cases a with
  | start i terms =>
    exact (logged.seat (logged.trails_query roomy (List.nil_append _).symm)).silent
  | query i =>
    refine Logged.silent ?_
    unfold Fleet.act
    dsimp only
    split
    case h_1 terms query left read found =>
      obtain ⟨⟨before, queries⟩, -⟩ := logged.trails i _ found
      exact logged.seat (logged.trails_query roomy queries)
    case h_2 => exact logged
  | finish i =>
    refine Logged.silent ?_
    unfold Fleet.act
    dsimp only
    split
    case h_1 terms state read found =>
      refine logged.seat fun x made => ?_
      obtain ⟨balances, -, rfl⟩ := Option.map_eq_some_iff.mp made
      exact (logged.trails i _ found).2 rfl
    case h_2 => exact logged
  | order i order =>
    rcases f.order_cases i order with ⟨same, none_done⟩ | ⟨service, found⟩
    · rw [same, none_done]
      exact logged.silent
    · rw [job?_order found]
      exact logged.order roomy found order

/-! ## §3. Services that lack events. -/

/-- Whoever has less of the log is refused whatever it has to report. -/
theorem Logged.refuses (logged : f.Logged events) (roomy : f.Roomy)
    (found : f.members i = some (.serving service))
    (shorter : service.log.events.length < DurableStore.size f.store) {order : Order}
    {t : Transition Receipt} (proposed : service.propose order.env order.command = .ok t)
    (reports : t.events ≠ []) :
    (∃ fault, (service.execute f.store order.env order.command).result = .error fault) ∧
      f.act (.order i order) = f := by
  rcases (World.mk service f.store).answer_cases order with
    ⟨fault, refused, same⟩ | ⟨t', proposed', -, advanced⟩
  · exact ⟨⟨fault, refused⟩, act_order_same found same⟩
  · -- Had it been accepted, the service would have the whole log.
    have again : service.propose order.env order.command = .ok t' := proposed'
    rw [proposed] at again
    cases again
    have whole := logged.whole_of_commit roomy found reports advanced.store
    rw [LoggedStore.size_eq logged.logs, whole] at shorter
    exact absurd shorter (Nat.lt_irrefl _)

/-- An order to a service that has less of the log changes nothing. -/
theorem Logged.act_order_shorter (logged : f.Logged events) (roomy : f.Roomy)
    (found : f.members i = some (.serving service))
    (shorter : service.log.events.length < DurableStore.size f.store) (order : Order) :
    f.act (.order i order) = f := by
  rcases (World.mk service f.store).answer_cases order with ⟨-, -, same⟩ | ⟨t, proposed, -, -⟩
  · exact act_order_same found same
  · by_cases quiet : t.events = []
    · exact act_of_idle found proposed quiet
    · exact (logged.refuses roomy found shorter proposed quiet).2

/-- A service that has less of the log stays as it is, unless it is loaded anew. -/
theorem Logged.members_act_shorter (logged : f.Logged events) (roomy : f.Roomy)
    (found : f.members i = some (.serving service))
    (shorter : service.log.events.length < DurableStore.size f.store)
    (unread : ∀ terms, a ≠ .start i terms) : (f.act a).members i = some (.serving service) := by
  by_cases own : i = a.target
  · have same : f.act a = f := by
      cases a with
      | start j terms =>
        cases own
        exact absurd rfl (unread terms)
      | query j =>
        cases own
        exact act_query_of_whole found rfl
      | finish j =>
        cases own
        have found : f.members j = some (.serving service) := found
        simp only [Fleet.act, found]
      | order j order =>
        cases own
        exact logged.act_order_shorter roomy found shorter order
    rw [same]
    exact found
  · rw [f.members_act own]
    exact found

/-- It stays so through a whole run, and never catches up. -/
theorem Logged.run_shorter {actions : List Action} (logged : f.Logged events)
    (roomy : (f.run actions).Roomy) (found : f.members i = some (.serving service))
    (shorter : service.log.events.length < DurableStore.size f.store)
    (unread : ∀ terms, .start i terms ∉ actions) :
    (f.run actions).members i = some (.serving service) ∧
      service.log.events.length < DurableStore.size (f.run actions).store := by
  induction actions generalizing f events with
  | nil => exact ⟨found, shorter⟩
  | cons a rest ih =>
    have before : f.Roomy := Roomy.of_run roomy
    have found' := logged.members_act_shorter before found shorter fun terms same =>
      unread terms (same ▸ List.mem_cons_self)
    have shorter' := Nat.lt_of_lt_of_le shorter (f.size_le_act a)
    exact ih (logged.act before) roomy found' shorter' fun terms mem =>
      unread terms (List.mem_cons_of_mem a mem)

/-! ## §4. Whole runs. -/

/-- After a run the log has grown by what was reported. -/
theorem Logged.run {actions : List Action} (logged : f.Logged events)
    (roomy : (f.run actions).Roomy) :
    (f.run actions).Logged (events ++ (f.accepted actions).flatMap (·.events)) := by
  induction actions generalizing f events with
  | nil =>
    show f.Logged (events ++ [])
    rw [List.append_nil]
    exact logged
  | cons a rest ih =>
    have before : f.Roomy := Roomy.of_run roomy
    have further := ih (logged.act before) roomy
    rw [List.append_assoc] at further
    unfold accepted
    rw [List.flatMap_append]
    exact further

/-- What a fleet may count on after `jobs` have been accepted, whether loads were torn or not. -/
structure Sequenced (f : Fleet σ) (jobs : List Job) : Prop where
  /-- The store has all events that were reported, and no others. -/
  log : LoggedStore.Logs f.store (jobs.flatMap (·.events))
  /-- Whoever gets events into the store had all events before. -/
  whole : ∀ i service, f.members i = some (.serving service) →
    ∀ delta reported time balances next, reported ≠ [] →
      Store.commit f.store delta (service.log.stage reported time) balances = .ok next →
      service.log.events = jobs.flatMap (·.events)
  /-- Whoever lacks events is refused what it has to report, and that has no effect, -/
  refused : ∀ i service, f.members i = some (.serving service) →
    service.log.events.length < DurableStore.size f.store →
    ∀ order t, service.propose order.env order.command = .ok t → t.events ≠ [] →
      (∃ fault, (service.execute f.store order.env order.command).result = .error fault) ∧
        f.act (.order i order) = f
  /-- and lacks events through whatever happens but its being loaded anew. -/
  stays : ∀ i service, f.members i = some (.serving service) →
    service.log.events.length < DurableStore.size f.store →
    ∀ actions, (∀ terms, .start i terms ∉ actions) → (f.run actions).Roomy →
      (f.run actions).members i = some (.serving service) ∧
        service.log.events.length < DurableStore.size (f.run actions).store
  /-- Who reports nothing writes nothing. -/
  idle : ∀ i service, f.members i = some (.serving service) →
    ∀ order t, service.propose order.env order.command = .ok t → t.events = [] →
      f.act (.order i order) = f

/-- **After any actions a fleet can count on its log.** -/
theorem sequenced_run {actions : List Action} (roomy : (blank.run actions : Fleet σ).Roomy) :
    (blank.run actions : Fleet σ).Sequenced ((blank : Fleet σ).accepted actions) := by
  have logged := Logged.blank.run roomy
  rw [List.nil_append] at logged
  constructor
  case log => exact logged.logs
  case whole =>
    intro i service found delta reported time balances next some_event landed
    exact logged.whole_of_commit roomy found some_event landed
  case refused =>
    intro i service found shorter order t proposed reports
    exact logged.refuses roomy found shorter proposed reports
  case stays =>
    intro i service found shorter later unread roomy'
    exact logged.run_shorter roomy' found shorter unread
  case idle =>
    intro i service found order t proposed quiet
    exact act_of_idle found proposed quiet

end Fleet

end Custody
