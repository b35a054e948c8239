/-
# Reports of a rehearsal

What a rehearsal leaves behind: how it ended, when, what was written down, and the remote side as
it is then.  A plan may be made and executed in one go, on one clock; then a plan that cannot be
made is the end of it.

A run that was dropped is observed for some time more, to show that nothing of it goes on.
-/
import Teardown.Deletion
import Teardown.Rehearsal.World
import Teardown.Rehearsal.Updates

namespace Teardown.Rehearsal

/-- What a rehearsal leaves behind.  One that was dropped has no outcome. -/
structure Report (α W : Type) where
  outcome : Option (Outcome α)
  millis : Nat
  lines : List (Place × Line)
  world : W

namespace Report

variable {α W : Type}

def ofStage {R σ : Type} (outcome? : σ → Option (Outcome α)) (stage : Stage R σ W) :
    Report α W where
  outcome := if stage.situation.dropped then none else outcome? stage.situation.state
  millis := stage.millis
  lines := stage.lines.reverse
  world := stage.world

/-- How much longer a run is observed that may have been dropped, in milliseconds. -/
def silence : Nat := 100000000

def afterSilence (r : Report α W) : Report α W := { r with millis := r.millis + silence }

def lanes (r : Report α W) : List (List Line) := Rehearsal.lanes r.lines

end Report

/-! ## 1. Single activities -/

/-- The report of an action against a scripted world. -/
def perform {α : Type} (view : View) (world : World) (action : Action α)
    (cancelAt : Option Nat) : Report α World :=
  .ofStage Thread.outcome? (rehearseActivity World.remote view world 0 action cancelAt)

/-- The report of an action on updates against a scripted world. -/
def performUpdate {α : Type} (writeText : String → String) (view : View) (world : UpdateWorld)
    (action : UpdateAction α) (cancelAt : Option Nat) : Report α UpdateWorld :=
  .ofStage Thread.outcome?
    (rehearseActivity (UpdateWorld.remote writeText) view world 0 action cancelAt)

/-! ## 2. Plans -/

/-- How a plan is carried out. -/
inductive Manner
  | executed
  | run

/-- The report of carrying out a plan.  Where it may be dropped, it is observed for some time more. -/
def carryOut {W : Type} (remote : TeardownRemote W) (view : View) (world : W) (start : Nat)
    (plan : Plan Task) (manner : Manner) (interventions : Stage.Interventions) :
    Report Unit W :=
  let report : Report Unit W :=
    match manner with
    | .executed => .ofStage Execution.outcome?
        (rehearseExecution remote view world start plan interventions)
    | .run => .ofStage Run.outcome? (rehearseRun remote view world start plan interventions)
  if interventions.dropAt.isSome then report.afterSilence else report

/-- The report of executing a plan that was made before, with what was written down while it was
made. -/
def executeAfter (view : View) (made : Report (Plan Task) World) (plan : Plan Task)
    (cancelAt : Option Nat) : Report Unit World :=
  let report := carryOut World.remote view made.world made.millis plan .executed ⟨cancelAt, none⟩
  { report with lines := made.lines ++ report.lines }

end Teardown.Rehearsal
