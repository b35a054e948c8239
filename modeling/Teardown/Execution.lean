/-
# Executions

An execution carries out a whole plan and reports on it: how many tasks there are, and at the end
how long they took and what failed.  A plan without tasks is not carried out at all.

It adds nothing but records to the run that it holds.  The turns of the execution are those of the
run, with an opening record before the first and a closing one after the last; if a task breaks
off, the closing record is missing, since the report breaks off as well.  So what is proved of
runs holds of executions too, but for an empty plan, which is over at once.
-/
import Teardown.Process

namespace Teardown

/-- A plan that is being carried out with a report on it. -/
structure Execution where
  tasks : Nat
  started : Moment
  run : Run

namespace Execution

/-! ## 1. Records -/

def record (level : Level) (message : String) (tasks : Nat)
    (more : List (String × FieldValue)) : Record :=
  ⟨level, Run.target, message, ("tasks", .number tasks) :: more⟩

def nothingToDo : Record := ⟨.info, Run.target, "No tasks to run", []⟩

def opening (tasks : Nat) : Record := record .info "Executing task tree" tasks []

/-- How long an execution took.  Of the milliseconds a record shows what fits 64 bits. -/
def elapsedField (elapsed : Duration) : String × FieldValue :=
  ("elapsed_ms", .number (elapsed.millis % wordBound))

/-- The record with which an execution ends, unless it breaks off. -/
def closing (tasks : Nat) (elapsed : Duration) : Outcome Unit → List Record
  | .ok _ =>
    [record .info "All tasks completed" tasks [elapsedField elapsed]]
  | .fault cause =>
    [record .error "Task tree failed" tasks
      [elapsedField elapsed, ("failures", .number cause.failures.length),
       ("error", .text cause.message)]]
  | .panic _ => []

/-! ## 2. Turns -/

/-- The execution after a turn of its run, with the closing record if the run is closed. -/
def ofTurn (c : Conditions) (tasks : Nat) (started : Moment) (turn : Turn) :
    List RunEvent × Execution :=
  let records := (turn.run.outcome?.map (closing tasks (c.now - started))).getD []
  (turn.happened ++ eventsHere (records.map .noted), ⟨tasks, started, turn.run⟩)

/-- The first turn of an execution. -/
def start (c : Conditions) (plan : Plan Task) : List RunEvent × Execution :=
  if plan.isEmpty then
    (eventsHere [.noted nothingToDo], ⟨0, c.now, .closed (.ok ())⟩)
  else
    let (happened, execution) := ofTurn c plan.size c.now (Run.launch c plan)
    (eventsHere [.noted (opening plan.size)] ++ happened, execution)

/-- The turn that a cue gives to an execution. -/
def resume (c : Conditions) (place : Place) (cue : Cue Request Request.Answer) (e : Execution) :
    Option (List RunEvent × Execution) :=
  (e.run.resume c cue place).map (ofTurn c e.tasks e.started)

def outcome? (e : Execution) : Option (Outcome Unit) := e.run.outcome?

/-- Executions as a process. -/
def process : Process Request Request.Answer Execution where
  resume c place cue e := e.resume c place cue
  dues e := e.run.dues

end Execution

end Teardown
