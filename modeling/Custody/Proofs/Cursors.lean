/-
  Custody.Proofs.Cursors
  ────────────────────────────────
  **READING ON IN THE LOG.**

  Wherever a run ends, the events of the log are numbered from one on, and what
  is logged stays.  On a log whose numbers ascend, halving finds the place of
  the first event after a cursor, so reading on gives the events after it and
  no others.  A client that reads page by page, from one cursor to the next and
  then to the end, reads every event once.

  Main facts:
    * `halve_bounds`     — halving ends between the passed events and the others;
    * `since_eq_filter`  — reading on gives the events after the cursor;
    * `flatten_pages`    — the pages between cursors are what reading on gives;
    * `log_gapless`      — so it is wherever a run ends.
-/
import Mathlib.Algebra.Group.Nat.Defs
import Mathlib.Tactic.ByContra
import Custody.Proofs.Durability

namespace Custody

/-! ## §1. The place of the first event after a number. -/

/-- Events whose numbers ascend. -/
def SeqAscending (events : List LoggedEvent) : Prop := events.Pairwise fun a b => a.seq < b.seq

/-- Whether there is an event at a place that is not after a number. -/
def passedAt (events : List LoggedEvent) (after : UInt64) (i : Nat) : Bool :=
  (events[i]?).any fun e => e.seq ≤ after

section Places

variable {events : List LoggedEvent} {after : UInt64}

/-- At a place in the log it is the number there that decides. -/
theorem passedAt_of_lt {i : Nat} (inside : i < events.length) :
    passedAt events after i = decide (events[i].seq ≤ after) := by
  rw [passedAt, List.getElem?_eq_getElem inside]
  rfl

/-- What stands before an event that is passed is passed. -/
theorem passedAt_mono (ascending : SeqAscending events) {i j : Nat} (before : i ≤ j)
    (passed : passedAt events after j = true) : passedAt events after i = true := by
  obtain rfl | before := Nat.eq_or_lt_of_le before
  · exact passed
  · have inside : j < events.length := by
      by_contra outside
      rw [passedAt, List.getElem?_eq_none (Nat.not_lt.mp outside)] at passed
      cases passed
    rw [passedAt_of_lt inside, decide_eq_true_eq] at passed
    rw [passedAt_of_lt (Nat.lt_trans before inside), decide_eq_true_eq]
    have smaller := List.pairwise_iff_getElem.mp ascending i j (Nat.lt_trans before inside) inside
      before
    exact UInt64.le_trans (UInt64.le_of_lt smaller) passed

/-- Among several events the one in the middle tells which half to go on with. -/
theorem halve_of_many {base size : Nat} (many : 1 < size) :
    EventLog.halve events after base size =
      EventLog.halve events after
        (if passedAt events after (base + size / 2) = true then base + size / 2 else base)
        (size - size / 2) := by
  rw [EventLog.halve, if_neg (Nat.not_le.mpr many)]
  rfl

/-- **Halving ends between the passed events and the others**, if those before `base` are passed and
those behind the `size` from there on are not. -/
theorem halve_bounds (ascending : SeqAscending events) {base size : Nat}
    (below : ∀ i < base, passedAt events after i = true)
    (above : ∀ i, base + size ≤ i → passedAt events after i = false) :
    (∀ i < EventLog.halve events after base size, passedAt events after i = true) ∧
      ∀ i, EventLog.halve events after base size < i → passedAt events after i = false := by
  induction size using Nat.strongRecOn generalizing base with
  | ind size ih =>
    by_cases many : 1 < size
    · rw [halve_of_many many]
      by_cases passed : passedAt events after (base + size / 2) = true
      -- The middle is passed: so is all before it, and what was not passed is still out of reach.
      · rw [if_pos passed]
        apply ih (size - size / 2) (by omega)
        · intro i before
          exact passedAt_mono ascending (Nat.le_of_lt before) passed
        · intro i behind
          exact above i (by omega)
      -- The middle is not passed: nor is anything behind it.
      · rw [if_neg passed]
        apply ih (size - size / 2) (by omega)
        · exact below
        · intro i behind
          by_contra reached
          rw [Bool.not_eq_false] at reached
          exact passed (passedAt_mono ascending (by omega) reached)
    · rw [EventLog.halve, if_pos (Nat.not_lt.mp many)]
      refine ⟨below, fun i behind => above i ?_⟩
      omega

/-- What stands before the place found is passed, and nothing from there on is. -/
theorem firstAfter_bounds (ascending : SeqAscending events) (after : UInt64) :
    (∀ i < EventLog.firstAfter events after, passedAt events after i = true) ∧
      ∀ i, EventLog.firstAfter events after ≤ i → passedAt events after i = false := by
  have outside (i : Nat) (long : 0 + events.length ≤ i) : passedAt events after i = false := by
    rw [Nat.zero_add] at long
    rw [passedAt, List.getElem?_eq_none long]
    rfl
  obtain ⟨below, above⟩ := halve_bounds ascending
    (fun i before => absurd before (Nat.not_lt_zero i)) outside
  have found : EventLog.firstAfter events after =
      if passedAt events after (EventLog.halve events after 0 events.length) = true
      then EventLog.halve events after 0 events.length + 1
      else EventLog.halve events after 0 events.length := rfl
  rw [found]
  -- The place where halving ends is passed itself, or the first that is not.
  by_cases passed :
      passedAt events after (EventLog.halve events after 0 events.length) = true
  · rw [if_pos passed]
    refine ⟨fun i before => ?_, fun i behind => above i behind⟩
    exact passedAt_mono ascending (Nat.le_of_lt_succ before) passed
  · rw [if_neg passed]
    refine ⟨below, fun i behind => ?_⟩
    obtain rfl | behind := Nat.eq_or_lt_of_le behind
    · exact Bool.not_eq_true _ ▸ passed
    · exact above i behind

end Places

namespace EventLog

/-- **Reading on gives the events after the cursor**, and no others. -/
theorem since_eq_filter {log : EventLog} (ascending : SeqAscending log.events) (after : UInt64) :
    log.since after = log.events.filter fun e => after < e.seq := by
  obtain ⟨below, above⟩ := firstAfter_bounds ascending after
  have within := firstAfter_le log.events after
  unfold since
  generalize firstAfter log.events after = place at below above within
  have front : (log.events.take place).filter (fun e => after < e.seq) = [] := by
    rw [List.filter_eq_nil_iff]
    intro e mem
    obtain ⟨i, inside, rfl⟩ := List.mem_take_iff_getElem.mp mem
    have passed := below i (by omega)
    rw [passedAt_of_lt (by omega), decide_eq_true_eq] at passed
    simpa using passed
  have back : (log.events.drop place).filter (fun e => after < e.seq) = log.events.drop place := by
    rw [List.filter_eq_self]
    intro e mem
    obtain ⟨i, inside, rfl⟩ := List.mem_drop_iff_getElem.mp mem
    have ahead := above (place + i) (Nat.le_add_right _ _)
    rw [passedAt_of_lt (by omega), decide_eq_false_iff_not] at ahead
    simpa using ahead
  calc log.events.drop place
      = (log.events.take place ++ log.events.drop place).filter (fun e => after < e.seq) := by
        rw [List.filter_append, front, back, List.nil_append]
    _ = log.events.filter (fun e => after < e.seq) := by rw [List.take_append_drop]

/-! ## §2. Pages. -/

/-- What a client reads that goes on from one cursor to the next and from the last to the end: a
page for each cursor. -/
def pages (log : EventLog) (after : UInt64) : List UInt64 → List (List LoggedEvent)
  | [] => [log.since after]
  | next :: rest => ((log.since after).filter fun e => e.seq ≤ next) :: log.pages next rest

/-- SeqAscending events up to a number and those after it are all of them, in their order. -/
theorem filter_append_filter {events : List LoggedEvent} (ascending : SeqAscending events)
    (next : UInt64) :
    (events.filter fun e => e.seq ≤ next) ++ (events.filter fun e => next < e.seq) = events := by
  induction events with
  | nil => rfl
  | cons e rest ih =>
    obtain ⟨first, others⟩ := List.pairwise_cons.mp ascending
    by_cases passed : e.seq ≤ next
    · have behind : ¬ next < e.seq := UInt64.not_lt.mpr passed
      rw [List.filter_cons_of_pos (by simpa using passed),
        List.filter_cons_of_neg (by simpa using behind), List.cons_append, ih others]
    · -- The first event is after the number, so all of them are.
      have ahead : ∀ e' ∈ e :: rest, next < e'.seq := by
        intro e' mem
        obtain rfl | later := List.mem_cons.mp mem
        · exact UInt64.not_le.mp passed
        · exact UInt64.lt_trans (UInt64.not_le.mp passed) (first e' later)
      have none_passed : (e :: rest).filter (fun e => e.seq ≤ next) = [] := by
        rw [List.filter_eq_nil_iff]
        intro e' mem
        simpa using ahead e' mem
      have all_ahead : (e :: rest).filter (fun e => next < e.seq) = e :: rest := by
        rw [List.filter_eq_self]
        intro e' mem
        simpa using ahead e' mem
      rw [none_passed, all_ahead, List.nil_append]

/-- **The pages between cursors are what reading on gives.** -/
theorem flatten_pages {log : EventLog} (ascending : SeqAscending log.events) {after : UInt64}
    {cursors : List UInt64} (rising : (after :: cursors).Pairwise (· ≤ ·)) :
    (log.pages after cursors).flatten = log.since after := by
  induction cursors generalizing after with
  | nil => rw [pages, List.flatten_cons, List.flatten_nil, List.append_nil]
  | cons next rest ih =>
    obtain ⟨first, others⟩ := List.pairwise_cons.mp rising
    -- What comes after the next cursor comes after this one too.
    have further : log.since next = (log.since after).filter fun e => next < e.seq := by
      rw [since_eq_filter ascending, since_eq_filter ascending, List.filter_filter]
      apply List.filter_congr
      intro e _
      have both : next < e.seq → after < e.seq :=
        fun ahead => UInt64.lt_of_le_of_lt (first next List.mem_cons_self) ahead
      by_cases ahead : next < e.seq
      · simp [ahead, both ahead]
      · simp [ahead]
    have page : SeqAscending (log.since after) := by
      rw [since_eq_filter ascending]
      exact ascending.filter _
    rw [pages, List.flatten_cons, ih others, further]
    exact filter_append_filter page next

/-- What a client can rely on that reads the log: the events are numbered from one on, reading on
gives the events after the cursor, and pages lose and repeat nothing. -/
structure Gapless (log : EventLog) : Prop where
  numbers : log.events.map (·.seq.toNat) = List.range' 1 log.events.length
  since (after : UInt64) : log.since after = log.events.filter fun e => after < e.seq
  pages {cursors : List UInt64} : (0 :: cursors).Pairwise (· ≤ ·) →
    (log.pages 0 cursors).flatten = log.events

/-- **A log whose numbers go from one on is gapless**, as long as there are words for them. -/
theorem Gapless.of_numbered {log : EventLog} (numbered : Numbered log.events)
    (few : log.events.length < 2 ^ 64) : log.Gapless := by
  have number {i : Nat} (inside : i < log.events.length) : log.events[i].seq.toNat = i + 1 :=
    numbered.toNat_seq few (List.getElem?_eq_getElem inside)
  have ascending : SeqAscending log.events := by
    unfold SeqAscending
    rw [List.pairwise_iff_getElem]
    intro i j inside inside' before
    rw [UInt64.lt_iff_toNat_lt, number inside, number inside']
    exact Nat.succ_lt_succ before
  refine ⟨?_, since_eq_filter ascending, fun rising => ?_⟩
  · apply List.ext_getElem
    · rw [List.length_map, List.length_range']
    · intro i inside _
      rw [List.length_map] at inside
      rw [List.getElem_map, number inside, List.getElem_range']
      omega
  · rw [flatten_pages ascending rising, since_eq_filter ascending, List.filter_eq_self]
    intro e mem
    obtain ⟨i, inside, rfl⟩ := List.mem_iff_getElem.mp mem
    have positive : (0 : UInt64) < log.events[i].seq := by
      rw [UInt64.lt_iff_toNat_lt, number inside]
      exact Nat.succ_pos i
    simpa using positive

end EventLog

/-! ## §3. Wherever a run ends. -/

namespace World

variable {σ : Type} [Store σ] {params : Params} {orders : List Order} {w : World σ}

/-- Every log that is reached has no gaps. -/
theorem Reached.numbered (reached : w.Reached params orders) :
    Numbered w.service.log.events := by
  refine reached.invariant (fun service => Numbered service.log.events)
    Books.Audited.empty.numbered ?_
  intro service order t ledger _ numbered _ _
  exact EventLog.numbered_stage numbered t.events order.env.now

/-- What is logged stays while orders are served. -/
theorem serve_log_prefix (w : World σ) (orders : List Order) :
    w.service.log.events <+: (w.serve orders).service.log.events := by
  induction orders generalizing w with
  | nil => exact List.prefix_refl _
  | cons order rest ih =>
    have one : w.service.log.events <+: (w.carry order).service.log.events :=
      w.service.execute_log_prefix w.store order.env order.command
    exact one.trans (ih (w.carry order))

end World

/-- **The log is gapless, and paging loses nothing.**  Wherever a run ends, with refused commands,
failed commits and reloads anywhere in it, the events bear the words from one on in their order,
whatever is ordered next only adds to the log, and as long as there are words to number the events
with, a client reads every event after its cursor and, page by page, every event once. -/
theorem log_gapless {σ : Type} [Store σ] {params : Params} {orders : List Order} {w : World σ}
    (reached : w.Reached params orders) :
    w.service.log.events.map (·.seq)
        = (List.range w.service.log.events.length).map (fun i => UInt64.ofNat (i + 1)) ∧
      (∀ more, w.service.log.events <+: (w.serve more).service.log.events) ∧
      (w.service.log.events.length < 2 ^ 64 → w.service.log.Gapless) := by
  have numbered := reached.numbered
  refine ⟨?_, w.serve_log_prefix, EventLog.Gapless.of_numbered numbered⟩
  apply List.ext_getElem
  · rw [List.length_map, List.length_map, List.length_range]
  · intro i inside _
    rw [List.length_map] at inside
    rw [List.getElem_map, List.getElem_map, List.getElem_range]
    exact numbered i _ (List.getElem?_eq_getElem inside)

namespace Sample

/-- The run with a sweep that is refused before it and a commit that fails in it. -/
def stumbling : List Order :=
  ⟨env 1, .settleSweep ⟨"alice"⟩ (sweep first none)⟩ :: orders.take 1
    ++ ⟨{ env 2 with storeFault := some (.database "disk full") },
      .reveal ⟨"alice"⟩ ⟨plain, none⟩⟩ :: orders.drop 1

/-- Where that run ends, with a reload between any two orders. -/
def stumbled : World Volatile :=
  (World.opened {}).run (stumbling.flatMap fun order => [.order order, .reload])

end Sample

/-- Thirteen events are logged; a client that goes on from 5, from 5 again and from 9 reads pages of
five, none, four and four events. -/
theorem log_gapless_sample :
    Sample.stumbled.Reached {} Sample.stumbling ∧
      ((Sample.stumbled.service.log.pages 0 [5, 5, 9]).map List.length = [5, 0, 4, 4] ∧
        Sample.stumbled.service.log.events.length = 13) ∧
      Sample.stumbled.service.log.Gapless := by
  have reached : Sample.stumbled.Reached {} Sample.stumbling := .resumed rfl trivial
  have read : (Sample.stumbled.service.log.pages 0 [5, 5, 9]).map List.length = [5, 0, 4, 4] ∧
      Sample.stumbled.service.log.events.length = 13 := by
    decide +kernel
  refine ⟨reached, read, (log_gapless reached).2.2 ?_⟩
  rw [read.2]
  decide

end Custody
