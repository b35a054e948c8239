/-
# Rehearsing a plan

The two ways in which a plan is rehearsed: as an execution with its report, or as a bare run.  The
parties of the process are the places of the plan, and the places at which a rehearsal lets
somebody go on are those of its lanes.
-/
import Teardown.Execution
import Teardown.Rehearsal.Stage

namespace Teardown.Rehearsal

variable {W : Type}

/-- A remote side of a teardown. -/
abbrev TeardownRemote (W : Type) := Remote Request Request.Answer W

/-- A rehearsal of the execution of a plan. -/
def rehearseExecution (remote : TeardownRemote W) (view : View) (world : W) (start : Nat)
    (plan : Plan Task) (interventions : Stage.Interventions) : Stage Request Execution W :=
  rehearse ⟨Execution.process, remote, fun place => plan.lane place, view,
    fun e => e.outcome?.isSome⟩ world start (fun c => Execution.start c plan) interventions

/-- A rehearsal of the run of a plan. -/
def rehearseRun (remote : TeardownRemote W) (view : View) (world : W) (start : Nat)
    (plan : Plan Task) (interventions : Stage.Interventions) : Stage Request Run W :=
  rehearse ⟨Run.process, remote, fun place => plan.lane place, view,
    fun run => run.outcome?.isSome⟩ world start
    (fun c => let turn := Run.launch c plan; (turn.happened, turn.run)) interventions

end Teardown.Rehearsal
