/-
# Processes on a clock

A process is anything that moves in turns: one thread, or the run of a whole plan.  A situation is
a process together with the time and with whether it is cancelled.  It changes by moves: a cue
sets a part of the process going, the process is cancelled, time passes, or the process is
dropped, after which nothing of it moves any more.

Time never passes the end of a rest, and it does not pass while a cancelled rest is still being
taken; everything else may take any time and come in any order.  So a property of all sequences of
moves holds for every speed of the remote side and every interleaving of the lanes.

A move that is not possible has no situation after it (`after?`), and a sequence of moves is
followed only if each of them is possible (`follow`).  The theorems about runs have `follow` as
their hypothesis; they are about what can happen, and they exclude nothing that can.
-/
import Teardown.Run

namespace Teardown

/-- A process that moves in turns. -/
structure Process (R : Type) (A : R → Type) (σ : Type) where
  resume : Conditions → Place → Cue R A → σ → Option (List (Event R A) × σ)
  dues : σ → List Moment

/-- A change of a situation. -/
inductive Move (R : Type) (A : R → Type)
  | resume (place : Place) (cue : Cue R A) (factor : Binary64)
  | cancel
  | pass (length : Duration)
  | drop

/-- A process at a moment. -/
structure Situation (σ : Type) where
  state : σ
  now : Moment
  cancelled : Bool
  dropped : Bool

/-- An event with its time. -/
structure Entry (R : Type) (A : R → Type) where
  moment : Moment
  event : Event R A

namespace Situation

variable {R : Type} {A : R → Type} {σ : Type}

/-- Whether so much time can pass. -/
def mayPass (process : Process R A σ) (s : Situation σ) (length : Duration) : Bool :=
  s.dropped ||
    let dues := process.dues s.state
    dues.all (fun due => decide (s.now + length ≤ due)) && (!s.cancelled || dues.isEmpty)

/-- The situation after a move, with what happened in it, if the move is possible. -/
def after? (process : Process R A σ) (s : Situation σ) :
    Move R A → Option (List (Entry R A) × Situation σ)
  | .resume place cue factor =>
    if s.dropped then none
    else (process.resume ⟨s.now, s.cancelled, factor⟩ place cue s.state).map fun (happened, state) =>
      (happened.map (⟨s.now, ·⟩), { s with state })
  | .cancel => some ([⟨s.now, [], .cancelled⟩], { s with cancelled := true })
  | .pass length =>
    if s.mayPass process length then some ([], { s with now := s.now + length }) else none
  | .drop => some ([], { s with dropped := true })

/-- The situation after a sequence of moves, with all that happened, if every move is possible. -/
def follow (process : Process R A σ) (s : Situation σ) :
    List (Move R A) → Option (List (Entry R A) × Situation σ)
  | [] => some ([], s)
  | move :: moves => do
    let (happened, s) ← s.after? process move
    let (more, s) ← s.follow process moves
    some (happened ++ more, s)

end Situation

/-! ## Threads and runs as processes -/

/-- A thread as a process with one place. -/
def Thread.process (R : Type) (A : R → Type) (α : Type) : Process R A (Thread R A α) where
  resume c place cue thread :=
    if place.isEmpty then
      (thread.resume c cue).map fun (happened, thread) => (eventsHere happened, thread)
    else none
  dues thread := thread.due?.toList

/-- The run of a plan as a process. -/
def Run.process : Process Request Request.Answer Run where
  resume c place cue run := (run.resume c cue place).map fun turn => (turn.happened, turn.run)
  dues := Run.dues

end Teardown
