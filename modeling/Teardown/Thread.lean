/-
# Threads

A thread is an activity under way.  It stands still wherever it has to wait: for the answer to a
request, for the answer to the question of a watch, for the end of a rest; or it is done.  A turn
takes it from one such place to the next.  What happens in a turn is listed as occurrences, in
order; a turn is not interrupted, so the conditions are the same throughout.

`Thread.resume` says which turns are possible: a reply where one is awaited, a wake-up when the
rest is over, an interruption of a rest when the run is cancelled.  A request in flight is not
interrupted; whoever has asked waits for the answer.

The watch of an activity is unfolded here into its rounds, each with a question, its answer and a
rest.  The activity itself sees only what the watch comes to.

* §1  the type.
* §2  turns, by what the thread was waiting for.
-/
import Teardown.Event

namespace Teardown

/-! ## 1. The type -/

/-- An activity under way. -/
inductive Thread (R : Type) (A : R → Type) (α : Type)
  | asking (request : R) (next : Except Fault (A request) → Activity R A α)
  | looking (watch : Watch R A) (state : WatchState) (next : Except Fault Unit → Activity R A α)
  | resting (watch : Watch R A) (state : WatchState) (due : Moment)
      (next : Except Fault Unit → Activity R A α)
  | done (outcome : Outcome α)

variable {R : Type} {A : R → Type} {α : Type}

/-! ## 2. Turns -/

namespace Activity

/-- Carries out an activity up to the first thing that has to be waited for. -/
def proceed (c : Conditions) : Activity R A α → List (Occurrence R A) × Thread R A α
  | .finish outcome => ([], .done outcome)
  | .note record next =>
    let (happened, thread) := next.proceed c
    (.noted record :: happened, thread)
  | .ask request next => ([.asked request], .asking request next)
  | .watch w next =>
    match w.enter c (w.start c.now) with
    | some state => ([.noted w.opening, .asked w.request], .looking w state next)
    | none =>
      let (happened, thread) := (next (.error w.interrupted)).proceed c
      (.noted w.opening :: happened, thread)

end Activity

namespace Thread

/-- A turn that begins with a break-off. -/
def broken (text : Option String) : List (Occurrence R A) × Thread R A α :=
  ([], .done (.panic text))

def afterWatch (c : Conditions) (next : Except Fault Unit → Activity R A α) :
    Outcome Unit → List (Occurrence R A) × Thread R A α
  | .ok value => (next (.ok value)).proceed c
  | .fault cause => (next (.error cause)).proceed c
  | .panic text => broken text

def afterReply (c : Conditions) {request : R} (next : Except Fault (A request) → Activity R A α) :
    Outcome (A request) → List (Occurrence R A) × Thread R A α
  | .ok answer => (next (.ok answer)).proceed c
  | .fault cause => (next (.error cause)).proceed c
  | .panic text => broken text

/-- Goes on after the answer to the question of a watch. -/
def afterLook (c : Conditions) (w : Watch R A) (s : WatchState)
    (next : Except Fault Unit → Activity R A α) (answer : Except Fault (A w.request)) :
    List (Occurrence R A) × Thread R A α :=
  let (records, step) := w.receive c s answer
  let (happened, thread) :=
    match step with
    | .over outcome => afterWatch c next outcome
    | .rest state due => ([.rested due], .resting w state due next)
  (records.map .noted ++ happened, thread)

/-- Goes on with a watch that has the next delay, or breaks off if there is none. -/
def lookAgain (c : Conditions) (w : Watch R A) (next : Except Fault Unit → Activity R A α) :
    Except Duration.Overflow WatchState → List (Occurrence R A) × Thread R A α
  | .error cause => afterWatch c next (.overflow cause)
  | .ok state =>
    match w.enter c state with
    | some state => ([.asked w.request], .looking w state next)
    | none => (next (.error w.interrupted)).proceed c

def afterRest (c : Conditions) (w : Watch R A) (s : WatchState)
    (next : Except Fault Unit → Activity R A α) : List (Occurrence R A) × Thread R A α :=
  lookAgain c w next (w.leave s)

/-- The turn that a cue gives to a thread, if the thread waits for such a cue. -/
def resume (c : Conditions) : Cue R A → Thread R A α →
    Option (List (Occurrence R A) × Thread R A α)
  | .reply answer, .asking request next =>
    let (happened, thread) := afterReply c next (answer request)
    some (.replied request (answer request) :: happened, thread)
  | .reply answer, .looking w s next =>
    let (happened, thread) :=
      match answer w.request with
      | .ok value => afterLook c w s next (.ok value)
      | .fault cause => afterLook c w s next (.error cause)
      | .panic text => broken text
    some (.replied w.request (answer w.request) :: happened, thread)
  | .wake, .resting w s due next =>
    if due ≤ c.now then some (afterRest c w s next) else none
  | .interrupt, .resting w _ _ next =>
    if c.cancelled then some ((next (.error w.interrupted)).proceed c) else none
  | _, _ => none

def outcome? : Thread R A α → Option (Outcome α)
  | .done outcome => some outcome
  | _ => none

/-- The end of the rest that a thread takes. -/
def due? : Thread R A α → Option Moment
  | .resting _ _ due _ => some due
  | _ => none

/-- A thread that is done has no further turn. -/
@[simp] theorem resume_done (c : Conditions) (cue : Cue R A) (o : Outcome α) :
    (Thread.done o : Thread R A α).resume c cue = none := by
  cases cue <;> rfl

end Thread

end Teardown
