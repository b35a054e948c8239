/-
# Problems of a run

What can keep the program from doing what it was asked to do: a fault of the teardown itself, a
file that cannot be read, a document that is not what it should be, an inventory that contradicts
itself, or a request that lacks something.

A problem is what a run of the program ends with, and a fault is what an action ends with.  The
two meet where a plan is made: its fault becomes a problem, and if it breaks off, so does the
program.
-/
import Teardown.Files
import Teardown.Outcome

namespace Teardown

/-- A problem of a run. -/
inductive Problem
  | fault (cause : Fault)
  | unreadable (cause : ReadFault)
  | malformed (text : Option String)
  | inventory (path message : String)
  | invalid (message : String)
  | breakdown (text : Option String)
deriving Inhabited

namespace Problem

/-- The wording of a problem.  A document of which nothing is known has none. -/
def message? : Problem → Option String
  | .fault cause => some cause.message
  | .unreadable cause => some ("io error: " ++ cause.message)
  | .malformed text => text.map ("yaml error: " ++ ·)
  | .inventory path message => some ("invalid inventory " ++ path ++ ": " ++ message)
  | .invalid message => some ("validation error: " ++ message)
  | .breakdown text => text

/-- The structure of a problem, as far as it is of interest. -/
def inspect : Problem → String
  | .fault cause => "Strata(" ++ cause.inspect ++ ")"
  | .unreadable cause => "Io(" ++ cause.inspect ++ ")"
  | .malformed _ => "Yaml"
  | .inventory path message => Fault.inspectParts "InvalidInventory"
      [("path", Text.quote path), ("message", Text.quote message)]
  | .invalid message => Fault.inspectParts "Validation" [("message", Text.quote message)]
  | .breakdown _ => "Breakdown"

/-- The value of an outcome, or the problem that it is. -/
def ofOutcome {α : Type} : Outcome α → Except Problem α
  | .ok value => .ok value
  | .fault cause => .error (.fault cause)
  | .panic text => .error (.breakdown text)

end Problem

end Teardown
