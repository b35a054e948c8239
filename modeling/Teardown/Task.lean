/-
# Tasks

A task is one call with an effect: the deletion of a stack, with or without waiting for its end;
the deletion of the identity provider; the clean-up of a node group; the deletion of an account,
for which a connection to the cluster is made only when the task is carried out; or an operation
that the caller supplies.  `Task.action` says what carrying out a task does; the name of an
account is read at that moment, too.

A stack is deleted in the same way wherever it is deleted: the request is made once, and if its
end is awaited, a watch asks for the stack by its name from then on.  A stack that is not found
any more has been deleted.

A task is data.  What it does is an activity that depends on nothing but the task, so the plan of
a teardown can be printed, compared and carried out alike.

* §1  deleting a stack.
* §2  tasks, and their lines in a plan.
* §3  carrying out.
* §4  the records about a task: one when it begins, and one when it has ended well or failed.
-/
import Teardown.Request

namespace Teardown

/-! ## 1. Deleting a stack -/

namespace Stack

/-- Whether a stack that was asked for is gone, and what its state means for a deletion. -/
def deletionProgress (answer : Option Stack) : Observation :=
  let status := (answer.map Stack.status).getD .deleteComplete
  let verdict :=
    match status with
    | .deleteComplete => Verdict.success
    | .deleteFailed => .failure
    | _ => .undecided
  ⟨status.word, verdict⟩

def deletionWatch (stack : Stack) (settings : WaitSettings) : Watch Request Request.Answer where
  resource := stack.name
  operation := "waiting for stack deletion"
  request := .describeStack stack.name
  observe := deletionProgress
  settings := settings

/-- Asks for the deletion of a stack. -/
def delete (stack : Stack) : Action Receipt := do
  let receipt : Receipt ← (Request.deleteStack stack).send
  Activity.say ⟨.info, "strata_stack::collection", "Stack deletion requested",
    [("stack", .text stack.name), ("operation_id", .text receipt.id)]⟩
  return receipt

/-- Asks for the deletion of a stack and waits until it is over. -/
def deleteAndWait (stack : Stack) (settings : WaitSettings) : Action Unit := do
  let _ ← stack.delete
  Activity.await (stack.deletionWatch settings)

end Stack

/-! ## 2. Tasks -/

/-- What a task does. -/
inductive Work
  | deleteStack (stack : Stack) (wait : Option WaitSettings)
  | deleteProvider
  | cleanUp (nodeGroup : String)
  | deleteAccount (account : String)
  | supplied (number : Nat) (argument : Option String)
deriving DecidableEq

/-- A task: what it is about, and what it does. -/
structure Task where
  info : String
  work : Work
deriving DecidableEq

namespace Task

/-- The part of the program that speaks about tasks. -/
def target : String := "strata_stack::tasks::task"

/-- Whether a task waits for the end of what it began. -/
def isBlocking (task : Task) : Bool :=
  match task.work with
  | .deleteStack _ (some _) => true
  | _ => false

/-- The line of a task in a plan. -/
def describe (task : Task) : String :=
  if task.isBlocking then task.info ++ " [wait]" else task.info

def kind (task : Task) : String :=
  match task.work with
  | .deleteStack _ (some _) => "StackSync"
  | .deleteStack _ none => "StackAsync"
  | .deleteProvider | .supplied _ none => "NoParam"
  | .cleanUp _ | .supplied _ (some _) => "NamedParam"
  | .deleteAccount _ => "Kubernetes"

def inspect (task : Task) : String :=
  Fault.inspectParts "Task" [("kind", Text.quote task.kind), ("info", Text.quote task.info)]

/-! ## 3. Carrying out -/

/-- Connects to the cluster and deletes an account there. -/
def deleteAccount (account : String) : Action Unit := do
  let _ : Unit ← Request.connect.send
  let account ← Activity.ofExcept (Account.parse account)
  (Request.deleteAccount account).send

/-- Asks for the deletion of a stack and reports that the request was accepted. -/
def requestDeletion (stack : Stack) : Action Unit := do
  let receipt ← stack.delete
  Activity.say ⟨.debug, target, "Stack operation accepted",
    [("stack", .text receipt.stack), ("operation_id", .text receipt.id)]⟩

/-- What a task does when it is carried out. -/
def action (task : Task) : Action Unit :=
  match task.work with
  | .deleteStack stack (some settings) => stack.deleteAndWait settings
  | .deleteStack stack none => requestDeletion stack
  | .deleteProvider => Request.deleteProvider.send
  | .cleanUp nodeGroup => (Request.cleanUp nodeGroup).send
  | .deleteAccount account => deleteAccount account
  | .supplied number argument => (Request.perform number argument).send

/-! ## 4. Records -/

def record (task : Task) (level : Level) (message : String)
    (more : List (String × FieldValue)) : Record :=
  ⟨level, target, message, ("task", .text task.info) :: more⟩

def running (task : Task) : Record := task.record .debug "Running task" []

def completed (task : Task) : Record := task.record .info "Task completed" []

def failed (task : Task) (cause : Fault) : Record :=
  task.record .warn "Task failed" [("error", .text cause.message)]

end Task

/-! ## Worked examples -/

example : (Stack.deletionProgress none).verdict = .success := rfl

example : (Stack.deletionProgress (some (.plain "s" .cluster .rollbackComplete))).verdict =
    .undecided := rfl

end Teardown
