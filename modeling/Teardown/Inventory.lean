/-
# Inventories

An inventory is a picture of a cluster at one point in time: its name, its stacks, and whether its
identity provider exists.  It is read from a file, and it has to make sense before it is used: it
names its cluster, and no two of its stacks have the same name (`contradiction?`).

It can take the part of the remote side: it answers every question, and it refuses everything that
would change something, with a fault that says what was to be changed.  So a plan that was made
from an inventory can be carried out against it without harm, and each of its tasks that is begun
fails.
-/
import Teardown.Document
import Teardown.Problem
import Teardown.Request
import Teardown.Yaml.Shape

namespace Teardown

/-- A picture of a cluster. -/
structure Inventory where
  cluster : String
  hasProvider : Bool
  listing : List Stack
deriving Inhabited

namespace Inventory

/-! ## 1. Reading -/

/-- The shape of an inventory; only the name has to be there. -/
def schema : Schema :=
  .record "Inventory"
    (.field "cluster" true .text <|
     .field "oidc_provider" false .flag <|
     .field "stacks" false (.list Stack.schema) .none)

def ofDatum (d : Datum) : Inventory where
  cluster := d.textAt "cluster"
  hasProvider := ((d.field? "oidc_provider").bind Datum.flag?).getD false
  listing := (d.itemsAt "stacks").map Stack.ofDatum

/-- The first name that stands more than once in a list, at its second place. -/
def repeated? : (seen names : List String) → Option String
  | _, [] => none
  | seen, name :: names =>
    if seen.contains name then some name else repeated? (name :: seen) names

/-- What contradicts itself in an inventory, if anything does. -/
def contradiction? (i : Inventory) : Option String :=
  if (Text.trim i.cluster).isEmpty then some "cluster name must not be empty"
  else (repeated? [] (i.listing.map Stack.name)).map ("duplicate stack " ++ Text.quote ·)

/-- The inventory of a file. -/
def load (files : Files) (path : String) : Except Problem Inventory :=
  match files.text path with
  | .error cause => .error (.unreadable cause)
  | .ok text =>
    match Yaml.read schema text.toList with
    | .error complaint => .error (.malformed complaint.text?)
    | .ok datum =>
      let inventory := ofDatum datum
      match inventory.contradiction? with
      | some message => .error (.inventory path message)
      | none => .ok inventory

def loaded (i : Inventory) (path : String) : Record :=
  ⟨.debug, "strata_cli::inventory", "Loaded inventory",
    [("path", .text path), ("cluster", .text i.cluster), ("stacks", .number i.listing.length)]⟩

/-! ## 2. Answers -/

def refusal (i : Inventory) (change : String) : Fault :=
  .stackApi i.cluster (change ++ " is not possible against an inventory snapshot")

/-- What a request would change, or the answer to a question. -/
def answer (i : Inventory) : (request : Request) → Except Fault request.Answer
  | .describeStacks cluster kind =>
    .ok (if cluster = i.cluster then i.listing.filter fun stack => stack.kind = kind else [])
  | .describeStack name => .ok (i.listing.find? fun stack => stack.name = name)
  | .providerExists => .ok i.hasProvider
  | .deleteStack stack => .error (i.refusal ("deleting stack " ++ stack.name))
  | .deleteProvider => .error (i.refusal "deleting the OIDC provider")
  | .connect => .error (i.refusal "connecting to the cluster")
  | .deleteAccount account => .error (i.refusal ("deleting serviceaccount " ++ account.text))
  | .cleanUp nodeGroup => .error (i.refusal ("cleaning up nodegroup " ++ nodeGroup))
  | .perform .. => .error (i.refusal "performing an operation")

end Inventory

end Teardown
