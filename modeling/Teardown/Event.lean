/-
# Events and cues

What can be seen of a party at work, and what sets it going again when it waits.  An event is an
occurrence together with its place; in a process with a single party every place is the root.

Both are kept apart from what a party is.  A statement about a run speaks of its events only, and
whoever carries a run out gives it its cues, one at a time.  A reply is given as a function of the
request, so that it need not say again which request it answers.
-/
import Teardown.Activity
import Teardown.Plan

namespace Teardown

/-! ## 1. Occurrences -/

/-- What can be seen of a run. -/
inductive Occurrence (R : Type) (A : R → Type)
  | noted (record : Record)
  | asked (request : R)
  | replied (request : R) (reply : Outcome (A request))
  | rested (due : Moment)
  | opened
  | began
  | ended (outcome : Outcome Unit)
  | cancelled

/-! ## 2. Cues -/

/-- What sets a waiting party going again. -/
inductive Cue (R : Type) (A : R → Type)
  | reply (answer : (request : R) → Outcome (A request))
  | wake
  | interrupt
  | start
  | settle

/-! ## 3. Events -/

/-- An occurrence with its place in the plan. -/
structure Event (R : Type) (A : R → Type) where
  place : Place
  occurrence : Occurrence R A

/-- The same event, seen from a group that has the node as its part `i`. -/
def Event.inside {R : Type} {A : R → Type} (i : Nat) (e : Event R A) : Event R A :=
  { e with place := i :: e.place }

/-- Occurrences at the root. -/
def eventsHere {R : Type} {A : R → Type} (happened : List (Occurrence R A)) : List (Event R A) :=
  happened.map fun occurrence => ⟨[], occurrence⟩

end Teardown
