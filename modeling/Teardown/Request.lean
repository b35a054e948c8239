/-
# Requests to the remote side

Everything that a teardown can ask of others: of the service that keeps the stacks, of the
identity provider of the cluster, of the cluster itself, and of operations that the caller
supplies.  The type of an answer depends on the request, so nobody has to say what it means if an
answer does not fit its question.

Three of them only look: at the stacks of one kind, at one stack, and at whether there is a
provider.  The making of a plan asks for nothing but the first and the third.  All others come from
the tasks of a plan that is being carried out, the second too, since a task that waits for a stack
asks how it is.
-/
import Teardown.Activity
import Teardown.Stack

namespace Teardown

/-- What the remote side returns when it accepts an operation on a stack. -/
structure Receipt where
  stack : String
  id : String
deriving DecidableEq, Inhabited

/-- A request to the remote side. -/
inductive Request
  | describeStacks (cluster : String) (kind : StackKind)
  | describeStack (name : String)
  | deleteStack (stack : Stack)
  | providerExists
  | deleteProvider
  | connect
  | deleteAccount (account : Account)
  | cleanUp (nodeGroup : String)
  | perform (number : Nat) (argument : Option String)
deriving DecidableEq

namespace Request

/-- The type of the answer to a request.  A stack that no longer exists is described by `none`. -/
def Answer : Request → Type
  | .describeStacks .. => List Stack
  | .describeStack _ => Option Stack
  | .deleteStack _ => Receipt
  | .providerExists => Bool
  | .deleteProvider | .connect | .deleteAccount _ | .cleanUp _ | .perform .. => Unit

end Request

/-- What a party to a teardown does. -/
abbrev Action (α : Type) := Activity Request Request.Answer α

/-- Makes a request; a refusal is handed on. -/
def Request.send (q : Request) : Action q.Answer := Activity.request q

end Teardown
