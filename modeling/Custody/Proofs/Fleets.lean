/-
  Custody.Proofs.Fleets
  ────────────────────────────────
  **SEVERAL SERVICES OVER ONE STORE.**

  Any number of services may be loaded from one store, at any time, and be
  given orders in any order.  None of them learns of what the others commit.

  A commit is one step, and so is each query of a load; between one query and
  the next the others may commit.  Such a load is torn: it has the later rows
  of some relations and the earlier ones of others, which the store never held
  together.

  Main facts:
    * `run_load`        — a load that nobody interrupts is that of the store;
    * `InOneGo.untorn`  — if the queries of each load follow each other at
                          once, then no load is torn;
    * `InOneGo.zero`    — they do if a load is a single query.
-/
import Custody.Proofs.Serials

namespace Custody

/-! ## §1. Fleets. -/

/-- A service, or as much of one as has been read. -/
inductive Member (σ : Type) where
  /-- Of the queries that read state and events some have been made, and these are left. -/
  | reading (terms : Params) (left : List (Query σ)) (read : State × List LoggedEvent)
  | serving (service : Service)

namespace Member

variable {σ : Type}

/-- The queries that are left of a member's load. -/
def left : Member σ → List (Query σ)
  | .reading _ left _ => left
  | .serving _ => []

/-- The state that a member has, as far as it is known. -/
def state : Member σ → State
  | .reading _ _ read => read.1
  | .serving service => service.state

/-- The service that a member is, once it has been loaded. -/
def service? : Member σ → Option Service
  | .reading .. => none
  | .serving service => some service

/-- The events that a member has. -/
def events : Member σ → List LoggedEvent
  | .reading _ _ read => read.2
  | .serving service => service.log.events

end Member

/-- Services over one store. -/
structure Fleet (σ : Type) where
  members : Nat → Option (Member σ)
  store : σ

/-- What can happen in a fleet. -/
inductive Action where
  /-- A member is loaded anew under these parameters: the first query is made. -/
  | start (i : Nat) (terms : Params)
  /-- The next query of its load is made. -/
  | query (i : Nat)
  /-- When state and events have been read, the balances are, and the member serves. -/
  | finish (i : Nat)
  /-- A member is given an order. -/
  | order (i : Nat) (order : Order)

/-- The member that an action is about. -/
def Action.target : Action → Nat
  | .start i _ | .query i | .finish i | .order i _ => i

/-- The actions that read state and events, with `n` queries after the first. -/
def Action.reads (n i : Nat) (terms : Params) : List Action :=
  .start i terms :: List.replicate n (.query i)

namespace Fleet

variable {σ : Type}

/-- The fleet with another member, or none, in a place. -/
def seat (f : Fleet σ) (i : Nat) (m : Option (Member σ)) : Fleet σ where
  members j := if j = i then m else f.members j
  store := f.store

/-- Who was seated is in the place. -/
theorem seat_self (f : Fleet σ) (i : Nat) (m : Option (Member σ)) :
    (f.seat i m).members i = m := if_pos rfl

/-- The other places are as they were. -/
theorem members_seat_of_ne (f : Fleet σ) {i j : Nat} (m : Option (Member σ)) (other : j ≠ i) :
    (f.seat i m).members j = f.members j := if_neg other

/-- A member of the fleet is the one that was seated or was there before. -/
theorem members_seat {f : Fleet σ} {i j : Nat} {m : Option (Member σ)} {other : Member σ}
    (found : (f.seat i m).members j = some other) : m = some other ∨ f.members j = some other := by
  by_cases own : j = i
  · left
    rw [own, seat_self] at found
    exact found
  · right
    rw [← found, f.members_seat_of_ne m own]

/-- A member that takes its own place changes nothing. -/
theorem seat_same {f : Fleet σ} {i : Nat} {m : Option (Member σ)} (found : f.members i = m) :
    f.seat i m = f := by
  obtain ⟨members, store⟩ := f
  unfold seat
  congr 1
  funext j
  by_cases own : j = i
  · rw [if_pos own, own]
    exact found.symm
  · rw [if_neg own]

/-- Only the last to be seated stays. -/
theorem seat_seat (f : Fleet σ) (i : Nat) (m m' : Option (Member σ)) :
    (f.seat i m).seat i m' = f.seat i m' := by
  unfold seat
  congr 1
  funext j
  by_cases own : j = i
  · rw [if_pos own, if_pos own]
  · rw [if_neg own, if_neg own]
    exact if_neg own

variable [Store σ] [QueriedStore σ]

/-- What becomes of the fleet.  A load that fails leaves its place empty. -/
def act (f : Fleet σ) : Action → Fleet σ
  | .start i terms =>
    f.seat i ((QueriedStore.first f.store (State.empty, [])).toOption.map
      (.reading terms QueriedStore.rest))
  | .query i =>
    match f.members i with
    | some (.reading terms (query :: left) read) =>
      f.seat i ((query f.store read).toOption.map (.reading terms left))
    | _ => f
  | .finish i =>
    match f.members i with
    | some (.reading terms [] (state, events)) =>
      f.seat i ((Store.loadBalances f.store).toOption.map fun balances =>
        .serving ⟨terms, state, ⟨events⟩, (Ledger.opened terms.bridge).restore balances⟩)
    | _ => f
  | .order i order =>
    match f.members i with
    | some (.serving service) =>
      let w := (World.mk service f.store).carry order
      { f.seat i (some (.serving w.service)) with store := w.store }
    | _ => f

/-- What becomes of it after some actions. -/
def run (f : Fleet σ) (actions : List Action) : Fleet σ := actions.foldl act f

@[simp] theorem run_nil (f : Fleet σ) : f.run [] = f := rfl

@[simp] theorem run_cons (f : Fleet σ) (a : Action) (rest : List Action) :
    f.run (a :: rest) = (f.act a).run rest := rfl

/-- Actions are done one after the other. -/
theorem run_append (f : Fleet σ) (actions more : List Action) :
    f.run (actions ++ more) = (f.run actions).run more := List.foldl_append ..

/-- The job that an action is, if it is an order that is accepted. -/
def job? (f : Fleet σ) : Action → Option Job
  | .order i order =>
    match f.members i with
    | some (.serving service) => service.job? f.store order
    | _ => none
  | _ => none

/-- The orders that are accepted in the course of some actions. -/
def accepted (f : Fleet σ) : List Action → List Job
  | [] => []
  | a :: rest => (f.job? a).toList ++ (f.act a).accepted rest

/-- An action leaves the other members as they are. -/
theorem members_act (f : Fleet σ) {i : Nat} {a : Action} (other : i ≠ a.target) :
    (f.act a).members i = f.members i := by
  cases a with
  | start j terms => exact members_seat_of_ne f _ other
  | query j =>
    unfold act
    dsimp only
    split
    · exact members_seat_of_ne f _ other
    · rfl
  | finish j =>
    unfold act
    dsimp only
    split
    · exact members_seat_of_ne f _ other
    · rfl
  | order j order =>
    unfold act
    dsimp only
    split
    · exact members_seat_of_ne f _ other
    · rfl

/-- So do actions one after the other. -/
theorem members_run (f : Fleet σ) {i : Nat} {actions : List Action}
    (others : ∀ a ∈ actions, i ≠ a.target) : (f.run actions).members i = f.members i := by
  induction actions generalizing f with
  | nil => rfl
  | cons a rest ih =>
    rw [run_cons, ih (f.act a) fun b mem => others b (List.mem_cons_of_mem a mem)]
    exact f.members_act (others a List.mem_cons_self)

/-- What an order to a member that serves makes of the fleet. -/
theorem act_order {f : Fleet σ} {i : Nat} {service : Service}
    (found : f.members i = some (.serving service)) (order : Order) :
    f.act (.order i order)
      = { f.seat i (some (.serving ((World.mk service f.store).carry order).service)) with
          store := ((World.mk service f.store).carry order).store } := by
  simp only [act, found]

/-- An order that moves neither the service nor the store moves nothing. -/
theorem act_order_same {f : Fleet σ} {i : Nat} {service : Service}
    (found : f.members i = some (.serving service)) {order : Order}
    (same : (World.mk service f.store).carry order = ⟨service, f.store⟩) :
    f.act (.order i order) = f := by
  rw [act_order found, same]
  exact seat_same found

omit [QueriedStore σ] in
/-- The job that an order to a member that serves is. -/
theorem job?_order {f : Fleet σ} {i : Nat} {service : Service}
    (found : f.members i = some (.serving service)) (order : Order) :
    f.job? (.order i order) = service.job? f.store order := by
  simp only [job?, found]

/-- An order finds a service, or changes nothing and is no job. -/
theorem order_cases (f : Fleet σ) (i : Nat) (order : Order) :
    (f.act (.order i order) = f ∧ f.job? (.order i order) = none) ∨
      ∃ service, f.members i = some (.serving service) := by
  cases found : f.members i with
  | none => exact .inl ⟨by simp only [act, found], by simp only [job?, found]⟩
  | some m =>
    cases m with
    | reading terms left read =>
      exact .inl ⟨by simp only [act, found], by simp only [job?, found]⟩
    | serving service => exact .inr ⟨service, rfl⟩

/-! ## §2. Loads, query by query. -/

/-- The next query of a load that succeeds. -/
theorem act_query {f : Fleet σ} {i : Nat} {terms : Params} {query : Query σ}
    {left : List (Query σ)} {read next : State × List LoggedEvent}
    (found : f.members i = some (.reading terms (query :: left) read))
    (made : query f.store read = .ok next) :
    f.act (.query i) = f.seat i (some (.reading terms left next)) := by
  simp only [act, found, made]
  rfl

/-- Where no queries are left, no query is made. -/
theorem act_query_of_whole {f : Fleet σ} {i : Nat} {m : Member σ} (found : f.members i = some m)
    (whole : m.left = []) : f.act (.query i) = f := by
  cases m with
  | serving service => simp only [act, found]
  | reading terms left read =>
    have none_left : left = [] := whole
    subst none_left
    simp only [act, found]

/-- Where there is no member, no query is made. -/
theorem act_query_of_none {f : Fleet σ} {i : Nat} (found : f.members i = none) :
    f.act (.query i) = f := by
  simp only [act, found]

/-- The queries that are left, made one right after the other. -/
theorem run_queries {f : Fleet σ} {i : Nat} {terms : Params} {left : List (Query σ)}
    {read loaded : State × List LoggedEvent}
    (found : f.members i = some (.reading terms left read))
    (made : Query.all f.store left read = .ok loaded) :
    f.run (List.replicate left.length (.query i)) = f.seat i (some (.reading terms [] loaded)) := by
  induction left generalizing f read with
  | nil =>
    cases made
    exact (seat_same found).symm
  | cons query rest ih =>
    obtain ⟨next, first, others⟩ := bind_ok_iff.mp made
    show (f.act (.query i)).run (List.replicate rest.length (.query i)) = _
    rw [act_query found first, ih (f := f.seat i _) (seat_self ..) others, seat_seat]

/-- **A member that is loaded in one go is the service that is loaded.** -/
theorem run_load (f : Fleet σ) (i : Nat) {terms : Params} {service : Service}
    (loaded : Service.load terms f.store = .ok service) :
    (f.run (Action.reads (QueriedStore.rest : List (Query σ)).length i terms)).act (.finish i)
      = f.seat i (some (.serving service)) := by
  obtain ⟨state, events, balances, held, kept, rfl⟩ := (Service.load_eq_ok_iff ..).mp loaded
  rw [QueriedStore.load_eq] at held
  obtain ⟨next, first, others⟩ := bind_ok_iff.mp held
  have started : f.act (.start i terms)
      = f.seat i (some (.reading terms QueriedStore.rest next)) := by
    simp only [act, first]
    rfl
  unfold Action.reads
  rw [run_cons, started, run_queries (seat_self ..) others, seat_seat]
  unfold act
  dsimp only
  rw [seat_self]
  show (f.seat i _).seat i ((Store.loadBalances f.store).toOption.map _) = _
  rw [kept, seat_seat]
  rfl

/-! ## §3. Torn loads. -/

/-- No load is between two of its queries. -/
def Settled (f : Fleet σ) : Prop := ∀ i m, f.members i = some m → m.left = []

/-- Whether an action gets events into the store. -/
def writes (f : Fleet σ) (a : Action) : Bool := (f.job? a).any Job.writes

/-- No events get into the store between two queries of a load. -/
def Untorn (f : Fleet σ) : List Action → Prop
  | [] => True
  | a :: rest => (f.writes a = true → f.Settled) ∧ (f.act a).Untorn rest

/-- No load is torn by actions that tear none before or after. -/
theorem untorn_append {f : Fleet σ} {actions more : List Action} (first : f.Untorn actions)
    (second : (f.run actions).Untorn more) : f.Untorn (actions ++ more) := by
  induction actions generalizing f with
  | nil => exact second
  | cons a rest ih => exact ⟨first.1, ih first.2 second⟩

/-- Actions among which there are no orders tear no load. -/
theorem untorn_of_silent {f : Fleet σ} {actions : List Action}
    (silent : ∀ a ∈ actions, ∀ i order, a ≠ .order i order) : f.Untorn actions := by
  induction actions generalizing f with
  | nil => trivial
  | cons a rest ih =>
    refine ⟨fun writes => ?_, ih fun b mem => silent b (List.mem_cons_of_mem a mem)⟩
    cases a with
    | order i order => exact absurd rfl (silent _ List.mem_cons_self i order)
    | start | query | finish => cases writes

omit [Store σ] [QueriedStore σ] in
/-- A member without queries left is seated. -/
theorem Settled.seat {f : Fleet σ} (settled : f.Settled) (i : Nat) {m : Option (Member σ)}
    (whole : ∀ x, m = some x → x.left = []) : (f.seat i m).Settled := by
  intro j other found
  rcases members_seat found with rfl | before
  · exact whole other rfl
  · exact settled j other before

/-- Only with its first query does a load get under way. -/
theorem Settled.act {f : Fleet σ} (settled : f.Settled) {a : Action}
    (further : ∀ i terms, a ≠ .start i terms) : (f.act a).Settled := by
  cases a with
  | start i terms => exact absurd rfl (further i terms)
  | query i =>
    cases found : f.members i with
    | none =>
      rw [act_query_of_none found]
      exact settled
    | some m =>
      rw [act_query_of_whole found (settled i m found)]
      exact settled
  | finish i =>
    unfold Fleet.act
    dsimp only
    split
    · refine settled.seat i fun x seated => ?_
      obtain ⟨balances, -, rfl⟩ := Option.map_eq_some_iff.mp seated
      rfl
    · exact settled
  | order i order =>
    unfold Fleet.act
    dsimp only
    split
    · exact settled.seat i fun x seated => by
        cases seated
        rfl
    · exact settled

/-- How many queries are left of the load of a member. -/
def due (f : Fleet σ) (i : Nat) : Nat := ((f.members i).map fun m => m.left.length).getD 0

omit [Store σ] [QueriedStore σ] in
/-- No load is under way if nobody has queries left. -/
theorem settled_of_due {f : Fleet σ} (none_due : ∀ i, f.due i = 0) : f.Settled := by
  intro i m found
  have none_left := none_due i
  unfold due at none_left
  rw [found] at none_left
  exact List.eq_nil_of_length_eq_zero none_left

omit [Store σ] [QueriedStore σ] in
/-- If no load is under way, then nobody has queries left. -/
theorem Settled.due_eq_zero {f : Fleet σ} (settled : f.Settled) (i : Nat) : f.due i = 0 := by
  unfold due
  cases found : f.members i with
  | none => rfl
  | some m =>
    show m.left.length = 0
    rw [settled i m found]
    rfl

omit [Store σ] [QueriedStore σ] in
/-- Whoever is being loaded has the queries left that are left of the load. -/
theorem due_seat_reading (f : Fleet σ) (i : Nat) (terms : Params) (left : List (Query σ))
    (read : Option (State × List LoggedEvent)) :
    (f.seat i (read.map (.reading terms left))).due i ≤ left.length := by
  unfold due
  rw [seat_self]
  cases read with
  | none => exact Nat.zero_le _
  | some read => exact Nat.le_refl _

/-- A query is one query less, whether it succeeds or not. -/
theorem due_query (f : Fleet σ) (i : Nat) : (f.act (.query i)).due i ≤ f.due i - 1 := by
  cases found : f.members i with
  | none => simp [due, act, found]
  | some m =>
    cases m with
    | serving service => simp [due, act, found, Member.left]
    | reading terms left read =>
      cases left with
      | nil => simp [due, act, found, Member.left]
      | cons query rest =>
        have before : f.due i = rest.length + 1 := by
          unfold due
          rw [found]
          rfl
        rw [before]
        simp only [act, found]
        exact f.due_seat_reading i terms rest _

/-- After as many queries as were left, none is. -/
theorem due_queries (f : Fleet σ) (i n : Nat) :
    (f.run (List.replicate n (.query i))).due i ≤ f.due i - n := by
  induction n generalizing f with
  | zero => exact Nat.le_refl _
  | succ n ih =>
    have first := f.due_query i
    have others := ih (f.act (.query i))
    show ((f.act (.query i)).run (List.replicate n (.query i))).due i ≤ _
    omega

/-- **A load that is read in one go leaves no load under way.** -/
theorem Settled.reads {f : Fleet σ} (settled : f.Settled) (i : Nat) (terms : Params) :
    (f.run (Action.reads (QueriedStore.rest : List (Query σ)).length i terms)).Settled := by
  refine settled_of_due fun j => ?_
  by_cases own : j = i
  · subst own
    have started : (f.act (.start j terms)).due j
        ≤ (QueriedStore.rest : List (Query σ)).length := f.due_seat_reading ..
    have none_left := (f.act (.start j terms)).due_queries j
      (QueriedStore.rest : List (Query σ)).length
    exact Nat.eq_zero_of_le_zero (Nat.le_trans none_left (by omega))
  · have same : (f.run (Action.reads (QueriedStore.rest : List (Query σ)).length i terms)).members j
        = f.members j := by
      refine members_run f fun a mem => ?_
      rcases List.mem_cons.mp mem with rfl | queried
      · exact own
      · rw [(List.mem_replicate.mp queried).2]
        exact own
    unfold due
    rw [same]
    exact settled.due_eq_zero j

/-- Actions in which the queries of each load, `n` after the first, follow each other at once. -/
inductive InOneGo (n : Nat) : List Action → Prop
  | nil : InOneGo n []
  | reads (i : Nat) (terms : Params) {rest : List Action} (others : InOneGo n rest) :
      InOneGo n (Action.reads n i terms ++ rest)
  | query (i : Nat) {rest : List Action} (others : InOneGo n rest) : InOneGo n (.query i :: rest)
  | finish (i : Nat) {rest : List Action} (others : InOneGo n rest) : InOneGo n (.finish i :: rest)
  | order (i : Nat) (order : Order) {rest : List Action} (others : InOneGo n rest) :
      InOneGo n (.order i order :: rest)

/-- **A load of a single query is always made in one go.** -/
theorem InOneGo.zero (actions : List Action) : InOneGo 0 actions := by
  induction actions with
  | nil => exact .nil
  | cons a rest ih =>
    cases a with
    | start i terms => exact .reads i terms ih
    | query i => exact .query i ih
    | finish i => exact .finish i ih
    | order i order => exact .order i order ih

/-- **If the queries of each load follow each other at once, then no load is torn.** -/
theorem InOneGo.untorn {f : Fleet σ} {actions : List Action}
    (inOneGo : InOneGo (QueriedStore.rest : List (Query σ)).length actions) (settled : f.Settled) :
    f.Untorn actions := by
  induction inOneGo generalizing f with
  | nil => trivial
  | reads i terms _ ih =>
    refine untorn_append (untorn_of_silent fun a mem j order same => ?_)
      (ih (settled.reads i terms))
    subst same
    rcases List.mem_cons.mp mem with same | queried
    · cases same
    · cases (List.mem_replicate.mp queried).2
  | query | finish | order =>
    rename_i ih
    exact ⟨fun _ => settled, ih (settled.act fun _ _ same => by cases same)⟩

end Fleet

end Custody
