/-
  Custody.Event.Log
  ────────────────────────────────
  **THE LOG OF COMMITTED EVENTS.**

  Events are numbered one after the other in the order of their commits.  A
  client that has read up to a number asks for what comes after it; the place
  is found by halving, which is right because the numbers ascend.

  Main facts:
    * `seq_stage`        — staged events continue the numbering;
    * `number_events`    — numbering changes nothing of the events;
    * `firstAfter_le`    — the place found lies in the log.
-/
import Custody.Event

namespace Custody

/-- Logged events, oldest first. -/
structure EventLog where
  events : List LoggedEvent
deriving DecidableEq, Repr

namespace EventLog

/-- The log without events. -/
def empty : EventLog := ⟨[]⟩

/-! ## §1. Numbering. -/

/-- The number after the last of some events. -/
def nextAfter (events : List LoggedEvent) : UInt64 :=
  match events.getLast? with
  | some last => last.seq + 1
  | none => 1

/-- The number of the next event. -/
def nextSeq (log : EventLog) : UInt64 := nextAfter log.events

/-- Numbers events from `seq` on. -/
def number (seq time : UInt64) : List Event → List LoggedEvent
  | [] => []
  | event :: rest => ⟨seq, time, event⟩ :: number (seq + 1) time rest

/-- The events as they would be appended, without appending them. -/
def stage (log : EventLog) (events : List Event) (time : UInt64) : List LoggedEvent :=
  number log.nextSeq time events

/-- Appends staged events. -/
def append (log : EventLog) (staged : List LoggedEvent) : EventLog :=
  ⟨log.events ++ staged⟩

/-- Numbered events are the events that were to be numbered. -/
theorem number_events (seq time : UInt64) (events : List Event) :
    (number seq time events).map (·.event) = events := by
  induction events generalizing seq with
  | nil => rfl
  | cons event rest ih => simp [number, ih]

/-- The first staged event has the number that is next in the log. -/
theorem seq_stage (log : EventLog) (first : Event) (rest : List Event) (time : UInt64) :
    (log.stage (first :: rest) time).head?.map (·.seq) = some log.nextSeq := rfl

/-! ## §2. Reading on. -/

/-- Halves the `size` events from `base` on until one is left: the last of them that is not after
`after`, or the first if all are. -/
def halve (events : List LoggedEvent) (after : UInt64) (base size : Nat) : Nat :=
  if size ≤ 1 then base
  else
    let half := size / 2
    let middle := base + half
    let passed := (events[middle]?).any fun e => e.seq ≤ after
    halve events after (if passed then middle else base) (size - half)
termination_by size
decreasing_by omega

/-- The place of the first event after a number. -/
def firstAfter (events : List LoggedEvent) (after : UInt64) : Nat :=
  let base := halve events after 0 events.length
  if (events[base]?).any fun e => e.seq ≤ after then base + 1 else base

/-- The events after a number. -/
def since (log : EventLog) (after : UInt64) : List LoggedEvent :=
  log.events.drop (firstAfter log.events after)

/-- Halving some events ends at one of them. -/
theorem halve_lt (events : List LoggedEvent) (after : UInt64) (base size : Nat)
    (h : 0 < size) : halve events after base size < base + size := by
  induction size using Nat.strongRecOn generalizing base with
  | ind size ih =>
    unfold halve
    split
    case isTrue => omega
    case isFalse large =>
      have upper := ih (size - size / 2) (by omega) (base + size / 2) (by omega)
      have lower := ih (size - size / 2) (by omega) base (by omega)
      simp only
      split <;> omega

/-- The first event after a number lies in the log or right behind it. -/
theorem firstAfter_le (events : List LoggedEvent) (after : UInt64) :
    firstAfter events after ≤ events.length := by
  unfold firstAfter
  cases events with
  | nil => simp [halve]
  | cons first rest =>
    have := halve_lt (first :: rest) after 0 (first :: rest).length (by simp)
    simp only
    split <;> omega

end EventLog

end Custody
