/-
# Outcomes

An operation ends well with a value, or with a fault, or it breaks off: a panic carries its text
if it has one.  A panic is not a fault, since it passes through everything that merely hands
faults on; only a parallel group turns the panic of one of its parts into a fault.

The library has one panic of its own, a number of seconds that has no duration
(`Outcome.overflow`).  Every other one comes from the remote side, which may break off instead of
answering.
-/
import Teardown.Fault

namespace Teardown

/-- How an operation ends. -/
inductive Outcome (α : Type)
  | ok (value : α)
  | fault (cause : Fault)
  | panic (text : Option String)
deriving Inhabited

namespace Outcome

variable {α β : Type}

/-- The outcome of a computation that may fail. -/
def ofExcept : Except Fault α → Outcome α
  | .ok value => .ok value
  | .error cause => .fault cause

/-- The outcome with its value changed. -/
def map (f : α → β) : Outcome α → Outcome β
  | .ok value => .ok (f value)
  | .fault cause => .fault cause
  | .panic text => .panic text

def isOk : Outcome α → Bool
  | .ok _ => true
  | _ => false

/-- A panic over a number of seconds that has no duration. -/
def overflow (cause : Duration.Overflow) : Outcome α := .panic (some cause.message)

end Outcome

end Teardown
