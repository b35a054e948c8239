/-
# Runs of a plan

A run is a plan under way.  Every node is either waiting for its first turn, or under way, or
closed with an outcome.  A sequential group goes on with its next part in the very turn in which
the part before it ends well; before each part it looks whether the run is cancelled.  A parallel
group hands each part to a lane of its own, which gets its first turn when it is set going
(`Cue.start`), and is settled when all parts are closed (`Cue.settle`); it does not look whether
the run is cancelled, since every task does so for itself.

A failure ends a sequential group and passes through it unchanged, a panic too.  A parallel group
carries every part to its end and collects the failures in the order of the parts; there a panic
turns into a failure.

* §1  the type, and turns.  A turn lists its events with the places relative to the node, and each
      group on the way up puts its own part in front.
* §2  tasks.  A task notes what it is about, carries out its action as a thread, and notes how it
      ended.
* §3  parallel groups, with the outcome that their parts come to (`combine`).
* §4  first turns, by recursion on the plan.
* §5  later turns, by recursion on the place of the cue.
-/
import Teardown.Task
import Teardown.Plan
import Teardown.Thread

namespace Teardown

/-! ## 1. The type -/

/-- An event of a run. -/
abbrev RunEvent := Event Request Request.Answer

/-- A plan under way. -/
inductive Run
  | waiting (plan : Plan Task)
  | working (task : Task) (thread : Thread Request Request.Answer Unit)
  | sequence (index : Nat) (current : Run) (rest : List (Plan Task))
  | parallel (parts : List Run)
  | closed (outcome : Outcome Unit)

/-- What a turn brings: the events in order, and the run after them. -/
structure Turn where
  happened : List RunEvent
  run : Run

namespace Turn

/-- A turn that closes the node. -/
def close (outcome : Outcome Unit) : Turn := ⟨[⟨[], .ended outcome⟩], .closed outcome⟩

/-- A turn with events before its own. -/
def after (happened : List RunEvent) (turn : Turn) : Turn :=
  { turn with happened := happened ++ turn.happened }

/-- The turn of a sequential group whose current part has had a turn: if the part ended well, the
group goes on, and if it ended otherwise, so does the group. -/
def ofPart (index : Nat) (rest : List (Plan Task)) (turn : Turn) (later : Unit → Turn) : Turn :=
  let happened := turn.happened.map (Event.inside index)
  match turn.run with
  | .closed (.ok _) => (later ()).after happened
  | .closed outcome => (close outcome).after happened
  | run => ⟨happened, .sequence index run rest⟩

end Turn

namespace Run

/-! ## 2. Tasks -/

/-- The fault of a task or group that did not go on because the run was cancelled. -/
def cancelledAt (context : String) : Outcome Unit := .fault (.cancelled context)

def taskRecords (task : Task) : Outcome Unit → List Record
  | .ok _ => [task.completed]
  | .fault cause => [task.failed cause]
  | .panic _ => []

/-- The turn of a task, given what its thread did. -/
def taskTurn (task : Task) :
    List (Occurrence Request Request.Answer) × Thread Request Request.Answer Unit → Turn
  | (happened, .done outcome) =>
    (Turn.close outcome).after
      (eventsHere (happened ++ (taskRecords task outcome).map .noted))
  | (happened, thread) => ⟨eventsHere happened, .working task thread⟩

def launchTask (c : Conditions) (task : Task) : Turn :=
  if c.cancelled then Turn.close (cancelledAt task.info)
  else (taskTurn task (task.action.proceed c)).after
    (eventsHere [.began, .noted task.running])

/-! ## 3. Parallel groups -/

/-- The part of the program that speaks about groups. -/
def target : String := "strata_stack::tasks::tree"

def startingParts (count : Nat) : Record :=
  ⟨.debug, target, "Starting parallel tasks", [("children", .number count)]⟩

def finishedParts (count failed : Nat) : Record :=
  ⟨.debug, target, "Parallel tasks finished",
    [("children", .number count), ("failed", .number failed)]⟩

/-- What the outcome of a part contributes to the failures of its group. -/
def partFault? (index : Nat) : Outcome Unit → Option Fault
  | .ok _ => none
  | .fault cause => some cause
  | .panic text =>
    some (.internal "executor"
      ("task " ++ toString index ++ " panicked: " ++ text.getD "unknown panic"))

def partFaults (index : Nat) : List (Outcome Unit) → List Fault
  | [] => []
  | outcome :: outcomes =>
    match partFault? index outcome with
    | some cause => cause :: partFaults (index + 1) outcomes
    | none => partFaults (index + 1) outcomes

/-- The outcome of a parallel group. -/
def combine (outcomes : List (Outcome Unit)) : Outcome Unit :=
  match partFaults 0 outcomes with
  | [] => .ok ()
  | faults => .fault (.aggregate faults)

def settle (outcomes : List (Outcome Unit)) : Turn :=
  (Turn.close (combine outcomes)).after
    (eventsHere [.noted (finishedParts outcomes.length (partFaults 0 outcomes).length)])

/-- The outcome of a run that is closed. -/
def outcome? : Run → Option (Outcome Unit)
  | .closed outcome => some outcome
  | _ => none

/-- The outcomes of several runs, if all of them are closed. -/
def outcomes? : List Run → Option (List (Outcome Unit))
  | [] => some []
  | run :: runs => do
    let outcome ← run.outcome?
    let outcomes ← outcomes? runs
    some (outcome :: outcomes)

/-- The events that hand the parts from a given one on to lanes of their own. -/
def opening (index : Nat) : (count : Nat) → List RunEvent
  | 0 => []
  | count + 1 => ⟨[index], .opened⟩ :: opening (index + 1) count

def launchParts (parts : List (Plan Task)) : Turn :=
  let started := eventsHere [.noted (startingParts parts.length)]
  if parts.isEmpty then (settle []).after started
  else ⟨started ++ opening 0 parts.length, .parallel (parts.map .waiting)⟩

/-! ## 4. First turns -/

mutual

/-- The first turn of a plan. -/
def launch (c : Conditions) : Plan Task → Turn
  | .leaf task => launchTask c task
  | .group .sequential _ parts => launchFrom c 0 parts
  | .group .parallel _ parts => launchParts parts

/-- The turn of a sequential group from a part on. -/
def launchFrom (c : Conditions) (index : Nat) : List (Plan Task) → Turn
  | [] => Turn.close (.ok ())
  | part :: rest =>
    if c.cancelled then Turn.close (cancelledAt "sequential task tree")
    else Turn.ofPart index rest (launch c part) fun _ => launchFrom c (index + 1) rest

end

/-! ## 5. Later turns -/

/-- The turn that a cue gives to the node at a place, if the node waits for such a cue. -/
def resumeAt (c : Conditions) (cue : Cue Request Request.Answer) : Place → Run → Option Turn
  | [], .waiting plan =>
    match cue with
    | .start => some (launch c plan)
    | _ => none
  | [], .working task thread => (thread.resume c cue).map (taskTurn task)
  | [], .parallel parts =>
    match cue with
    | .settle => (outcomes? parts).map settle
    | _ => none
  | i :: place, .sequence index current rest =>
    if i = index then
      (resumeAt c cue place current).map fun turn =>
        Turn.ofPart index rest turn fun _ => launchFrom c (index + 1) rest
    else none
  | i :: place, .parallel parts => do
    let part ← parts[i]?
    let turn ← resumeAt c cue place part
    some ⟨turn.happened.map (Event.inside i), .parallel (parts.set i turn.run)⟩
  | _, _ => none

/-- The turn that a cue gives to a run at a place. -/
def resume (run : Run) (c : Conditions) (cue : Cue Request Request.Answer) (place : Place) :
    Option Turn := resumeAt c cue place run

mutual

/-- The ends of all rests that are being taken. -/
def dues : Run → List Moment
  | .working _ thread => thread.due?.toList
  | .sequence _ current _ => current.dues
  | .parallel parts => duesOf parts
  | _ => []

def duesOf : List Run → List Moment
  | [] => []
  | run :: runs => run.dues ++ duesOf runs

end

end Run

end Teardown
