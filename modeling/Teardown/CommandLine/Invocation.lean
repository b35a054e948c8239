/-
# Invocations

What a command line asks for: which operation is to be planned, for which inventory, and where the
settings come from.

An invocation is made only of a line that was read to its end.  What the line and the environment
leave out stays open here, and what follows from that is for the program to say.

* §1  operations, and what is asked for besides.
* §2  the structure of an invocation, as text.
* §3  what a line comes to, from the name of its last command and the options that count.
-/
import Teardown.CommandLine.Reader

namespace Teardown

/-! ## 1. Operations and invocations -/

/-- An operation that can be planned. -/
inductive Operation
  | deleteCluster (wait cleanUp : Bool)
  | deleteNodeGroups (only : List String) (wait : Bool)
  | deleteServiceAccounts (only : List String) (wait : Bool)
  | deleteProvider
deriving DecidableEq, Inhabited

/-- What a command line asks for. -/
structure Invocation where
  settings : Option String
  logFormat : Option LogFormat
  inventory : Option String
  operation : Operation
deriving DecidableEq, Inhabited

/-! ## 2. Structure -/

/-- A path between quotes; a single quote is escaped, too. -/
def inspectPath (path : String) : String :=
  let inner := path.toList.flatMap fun c => if c = '\'' then ['\\', '\''] else Text.quoteChar c
  String.ofList ('"' :: inner ++ ['"'])

/-- A value that may be missing. -/
def inspectMaybe {α : Type} (inspect : α → String) : Option α → String
  | none => "None"
  | some value => "Some(" ++ inspect value ++ ")"

namespace Operation

def inspect : Operation → String
  | .deleteCluster wait cleanUp => Fault.inspectParts "DeleteCluster"
      [("wait", toString wait), ("with_cleanup", toString cleanUp)]
  | .deleteNodeGroups only wait => Fault.inspectParts "DeleteNodegroups"
      [("only", Text.quoteList only), ("wait", toString wait)]
  | .deleteServiceAccounts only wait => Fault.inspectParts "DeleteServiceaccounts"
      [("only", Text.quoteList only), ("wait", toString wait)]
  | .deleteProvider => "DeleteOidc"

end Operation

namespace Invocation

def inspect (i : Invocation) : String :=
  let plan := Fault.inspectParts "PlanArgs"
    [("inventory", inspectMaybe inspectPath i.inventory), ("operation", i.operation.inspect)]
  Fault.inspectParts "Cli"
    [("config", inspectMaybe inspectPath i.settings),
     ("log_format", inspectMaybe LogFormat.inspect i.logFormat), ("command", "Plan(" ++ plan ++ ")")]

/-! ## 3. Reading -/

open CommandLine

/-- The first value that counts of an option. -/
def valueOf? (levels : List (String × List Given)) (option : String) : Option String :=
  (chosen levels option).bind fun given => given.values.head?

/-- The operation of a line, from the name of its last command. -/
def operationOf (levels : List (String × List Given)) (name : String) : Operation :=
  let isGiven (option : String) : Bool := (chosen levels option).isSome
  let only := ((chosen levels "only").map Given.values).getD []
  match name with
  | "delete-cluster" => .deleteCluster (isGiven "wait") (isGiven "with-cleanup")
  | "delete-nodegroups" => .deleteNodeGroups only (isGiven "wait")
  | "delete-serviceaccounts" => .deleteServiceAccounts only (isGiven "wait")
  | _ => .deleteProvider

/-- What a command line asks for. -/
def read (environment : Environment) (arguments : List String) : Except Usage Invocation := do
  let levels ← CommandLine.read environment arguments
  .ok {
    settings := valueOf? levels "config"
    logFormat := (valueOf? levels "log-format").bind fun word => (LogFormat.parse word).toOption
    inventory := valueOf? levels "inventory"
    operation := operationOf levels ((levels.getLast?.map Prod.fst).getD "") }

end Invocation

/-! ## Worked examples -/

example : inspectPath "a'b" = "\"a\\'b\"" := by decide +kernel

example : (Invocation.read ⟨[]⟩ ["plan", "delete-nodegroups", "--only", "a,,b"]).toOption =
    some ⟨none, none, none, .deleteNodeGroups ["a", "", "b"] false⟩ := by decide +kernel

end Teardown
