/-
# The program

What a run does: it reads its command line and its settings, sets up the log, makes the plan that
is asked for from an inventory, and prints it.  Nothing is ever deleted, since a plan is only
made.

Whatever goes wrong ends the run.  The stages come in a fixed order, so the first that fails
decides what is reported; and what was written to the log before stays written.

The run is a function of what it can see: the files at the paths that it is given, the variables
that it looks at, and the arguments.  Which paths these are is known from the arguments and the
variables alone (`pathsRead`), before any file is opened.

Main fact: `run_congr`, a run depends on no other files than those whose paths it is given.

* §1  plans, from what is asked for and an inventory.
* §2  runs.
* §3  what a run depends on.
-/
import Teardown.CommandLine.Invocation
import Teardown.Deletion
import Teardown.Inventory
import Teardown.Log.Filter
import Teardown.Log.Line
import Teardown.Settings.File

namespace Teardown

/-- What a run can see: files and variables. -/
structure Surroundings where
  files : Files
  environment : Environment

/-- The variables that a run looks at. -/
def variableNames : List String :=
  ["STRATA_CONFIG", "STRATA_INVENTORY", Settings.timeoutVariable, Settings.formatVariable,
   LogFilter.variableName]

/-! ## 1. Plans -/

/-- The names that are selected; none at all stand for no selection. -/
def selection (names : List String) : Option NameSet :=
  if names.isEmpty then none else some (.ofList names)

/-- Refuses names that are not those of accounts. -/
def checkAccounts : List String → Action Unit
  | [] => return ()
  | name :: names => do
    let _ ← (Activity.ofExcept (Account.parse name) : Action Account)
    checkAccounts names

def Operation.plan (c : Cluster) : Operation → Action (Plan Task)
  | .deleteCluster wait cleanUp => c.deleteAll wait cleanUp
  | .deleteNodeGroups only wait => c.deleteNodeGroups (selection only) wait false
  | .deleteServiceAccounts only wait => do
    checkAccounts only
    c.deleteServiceAccounts (selection only) wait
  | .deleteProvider => c.deleteProvider

namespace Invocation

/-- The settings of an invocation: file, then environment, then the line. -/
def load (i : Invocation) (s : Surroundings) : Except Problem Settings :=
  (Problem.ofOutcome (Settings.load s.files i.settings s.environment)).map fun settings =>
    settings.withFormat i.logFormat

def loadInventory (i : Invocation) (s : Surroundings) : Except Problem (String × Inventory) :=
  match i.inventory with
  | none => .error (.invalid "--inventory is required")
  | some path => (Inventory.load s.files path).map fun inventory => (path, inventory)

def plan (i : Invocation) (s : Surroundings) (wait : WaitSettings) :
    List Record × Except Problem (Plan Task) :=
  match i.loadInventory s with
  | .error problem => ([], .error problem)
  | .ok (path, inventory) =>
    let (records, outcome) :=
      (i.operation.plan ⟨inventory.cluster, wait⟩).answered inventory.answer
    (inventory.loaded path :: records, Problem.ofOutcome (outcome.getD (.panic none)))

end Invocation

/-- A plan as it is printed, with the number of its tasks. -/
def printedPlan (plan : Plan Task) : String := plan.render Task.describe

def planned (plan : Plan Task) : Record :=
  ⟨.info, "strata_cli::commands::plan", "Built teardown plan", [("tasks", .number plan.size)]⟩

/-! ## 2. Runs -/

/-- How a run ends. -/
inductive Conclusion
  | done
  | unused (usage : CommandLine.Usage)
  | failed (problem : Problem)

/-- The number that a run ends with. -/
def Conclusion.exitCode : Conclusion → Nat
  | .done => 0
  | .unused .help => 0
  | .unused .version => 0
  | .unused _ => 2
  | .failed (.breakdown _) => 101
  | .failed _ => 1

def versionText : String := "strata 0.1.0"

/-- A run of an invocation: what it writes and how it ends. -/
def Invocation.run (i : Invocation) (s : Surroundings) : List Output × Conclusion :=
  match i.load s with
  | .error problem => ([], .failed problem)
  | .ok settings =>
    match LogFilter.setUp false settings.log s.environment with
    | .error cause => ([], .failed (.fault cause))
    | .ok filter =>
      let write (records : List Record) : List Output :=
        (records.filter filter.allows).flatMap (Record.written settings.log.format)
      let (records, made) := i.plan s settings.wait
      match made with
      | .error problem => (write records, .failed problem)
      | .ok plan => (write (records ++ [planned plan]) ++ Output.lines (printedPlan plan), .done)

/-- A run with the arguments of a command line. -/
def run (s : Surroundings) (arguments : List String) : List Output × Conclusion :=
  match Invocation.read s.environment arguments with
  | .ok invocation => invocation.run s
  | .error .version => ([.line versionText], .unused .version)
  | .error usage => ([], .unused usage)

/-- The paths of the files that a run may read. -/
def pathsRead (environment : Environment) (arguments : List String) : List String :=
  match Invocation.read environment arguments with
  | .ok i => i.settings.toList ++ i.inventory.toList
  | .error _ => []

/-! ## 3. What a run depends on -/

theorem Settings.ofFile_congr {a b : Files} {path : String} (h : a path = b path) :
    Settings.ofFile a path = Settings.ofFile b path := by
  simp only [Settings.ofFile, Files.text, h]

theorem Inventory.load_congr {a b : Files} {path : String} (h : a path = b path) :
    Inventory.load a path = Inventory.load b path := by
  simp only [Inventory.load, Files.text, h]

/-- A run depends on no other files than those at `pathsRead`. -/
theorem run_congr {a b : Files} (environment : Environment) (arguments : List String)
    (h : ∀ path ∈ pathsRead environment arguments, a path = b path) :
    run ⟨a, environment⟩ arguments = run ⟨b, environment⟩ arguments := by
  unfold run
  unfold pathsRead at h
  cases hi : Invocation.read environment arguments with
  | error usage => cases usage <;> rfl
  | ok i =>
    rw [hi] at h
    have hload : i.load ⟨a, environment⟩ = i.load ⟨b, environment⟩ := by
      unfold Invocation.load Settings.load
      cases hs : i.settings with
      | none => rfl
      | some path => simp only [Settings.ofFile_congr (h path (by simp [hs]))]
    have hinventory : i.loadInventory ⟨a, environment⟩ = i.loadInventory ⟨b, environment⟩ := by
      unfold Invocation.loadInventory
      cases hs : i.inventory with
      | none => rfl
      | some path => simp only [Inventory.load_congr (h path (by simp [hs]))]
    simp only [Invocation.run, Invocation.plan, hload, hinventory]

end Teardown
