/-
# Plans of deletion

How a cluster is taken down, as plans.  Node groups go first, all in parallel; one that is stuck
in a failed deletion is cleaned up before, if that is wanted.  Service accounts go in parallel,
each as a pair: the stack of its role, then the account in the cluster.  The identity provider
goes when all accounts are gone, and the control plane comes last.

Making a plan only looks at what there is.  Either the plan is complete, or the first thing that
could not be looked up is reported.  While it is made, each listed stack that is passed over has a
record, and after these each selected name that no stack carries.

The parts are named one by one (`nodeGroupPart`, `accountPart`, `providerTask`,
`controlPlaneTask`), so that a statement about a plan can say which task stands where.  A part
without any task is left out of the plan that it belongs to (`nestedPart`); the identity provider
is the exception, since its part always has a task.

* §1  what it means to be selected, and the records about names that no stack carries.
* §2-4  node groups, service accounts and the identity provider, each with its parts, its records
        and its plan.
* §5  whole clusters: the plans before, and the control plane at the end.
-/
import Teardown.Cluster
import Teardown.Plan

namespace Teardown

/-! ## 1. Selection -/

/-- Whether a name is selected; without a selection every name is. -/
def isSelected (only : Option NameSet) (name : String) : Bool :=
  match only with
  | none => true
  | some names => decide (name ∈ names)

/-- The part of the program that speaks while plans are made. -/
def planningTarget : String := "strata_stack::delete_tasks"

/-- The records about selected names that no stack carries, in order. -/
def unmatched (only : Option NameSet) (found : List String) (kind : String) : List Record :=
  match only with
  | none => []
  | some names => (names.diff (.ofList found)).toList.map fun name =>
      ⟨.warn, planningTarget, "Requested for deletion but no stack exists",
        [("kind", .text kind), ("name", .text name)]⟩

namespace Cluster

def deletionTask (c : Cluster) (info : String) (stack : Stack) (wait : Bool) : Task :=
  ⟨info, .deleteStack stack (if wait then some c.wait else none)⟩

/-! ## 2. Node groups -/

/-- Whether a node group is cleaned up before its deletion. -/
def needsCleanUp (stack : Stack) (cleanUp : Bool) : Bool :=
  cleanUp && decide (stack.status = .deleteFailed)

def cleanUpTask (name : String) : Task :=
  ⟨"cleanup for nodegroup " ++ Text.quote name, .cleanUp name⟩

def nodeGroupTask (c : Cluster) (wait : Bool) (stack : Stack) : Task :=
  c.deletionTask ("delete nodegroup " ++ Text.quote stack.nodeGroupName) stack wait

def nodeGroupPart (c : Cluster) (wait cleanUp : Bool) (stack : Stack) : Plan Task :=
  let deletion := c.nodeGroupTask wait stack
  if needsCleanUp stack cleanUp then
    .group .sequential true [.leaf (cleanUpTask stack.nodeGroupName), .leaf deletion]
  else .leaf deletion

def nodeGroupRecords (only : Option NameSet) (cleanUp : Bool) (stack : Stack) : List Record :=
  let fields := [("nodegroup", FieldValue.text stack.nodeGroupName)]
  if !isSelected only stack.nodeGroupName then
    [⟨.info, planningTarget, "Skipping nodegroup not selected for deletion", fields⟩]
  else if needsCleanUp stack cleanUp then
    [⟨.debug, planningTarget, "Nodegroup stuck in DELETE_FAILED, adding cleanup", fields⟩]
  else []

/-- The plan that deletes node groups: the selected ones, or all. -/
def deleteNodeGroups (c : Cluster) (only : Option NameSet) (wait cleanUp : Bool) :
    Action (Plan Task) := do
  let groups ← c.nodeGroups
  Activity.sayAll (unmatched only (groups.map Stack.nodeGroupName) "nodegroup" ++
    groups.flatMap (nodeGroupRecords only cleanUp))
  let selected := groups.filter fun stack => isSelected only stack.nodeGroupName
  return .group .parallel false (selected.map (c.nodeGroupPart wait cleanUp))

/-! ## 3. Service accounts -/

def roleTask (c : Cluster) (wait : Bool) (stack : Stack) : Task :=
  c.deletionTask ("delete IAM role for serviceaccount " ++ Text.quote stack.accountName) stack wait

/-- The task that deletes the account of a role stack in the cluster. -/
def accountTask (stack : Stack) : Task :=
  ⟨"delete serviceaccount " ++ Text.quote stack.accountName, .deleteAccount stack.accountName⟩

def accountPart (c : Cluster) (wait : Bool) (stack : Stack) : Plan Task :=
  .group .sequential true [.leaf (c.roleTask wait stack), .leaf (accountTask stack)]

def accountRecords (only : Option NameSet) (stack : Stack) : List Record :=
  if isSelected only stack.accountName then []
  else [⟨.info, planningTarget, "Skipping serviceaccount not selected for deletion",
    [("serviceaccount", .text stack.accountName)]⟩]

/-- The plan that deletes service accounts: the selected ones, or all. -/
def deleteServiceAccounts (c : Cluster) (only : Option NameSet) (wait : Bool) :
    Action (Plan Task) := do
  let roles ← c.serviceAccounts
  Activity.sayAll (unmatched only (roles.map Stack.accountName) "iamserviceaccount" ++
    roles.flatMap (accountRecords only))
  let selected := roles.filter fun stack => isSelected only stack.accountName
  return .group .parallel false (selected.map (c.accountPart wait))

/-! ## 4. Identity provider -/

/-- The fault of a cluster without an identity provider. -/
def withoutProvider : Fault :=
  .precondition "unable to delete iamserviceaccount(s) without IAM OIDC provider enabled"

/-- The parts of a plan that has tasks, as one nested part. -/
def nestedPart (plan : Plan Task) : List (Plan Task) :=
  if plan.isEmpty then [] else [plan.asNested]

def providerTask : Task := ⟨"delete IAM OIDC provider", .deleteProvider⟩

/-- The plan that deletes all service accounts, waiting for each role, and then the provider. -/
def deleteProvider (c : Cluster) : Action (Plan Task) := do
  let isThere : Bool ← Request.providerExists.send
  if !isThere then Activity.fail withoutProvider
  else
    let accounts ← c.deleteServiceAccounts none true
    return .group .sequential false
      (nestedPart accounts ++ [.leaf providerTask])

/-! ## 5. Whole clusters -/

def controlPlaneTask (c : Cluster) (wait : Bool) (stack : Stack) : Task :=
  c.deletionTask ("delete cluster control plane " ++ Text.quote c.name) stack wait

/-- The plan that deletes a cluster.  Everything but the control plane is waited for in any case. -/
def deleteAll (c : Cluster) (wait cleanUp : Bool) : Action (Plan Task) := do
  let groups ← c.deleteNodeGroups none true cleanUp
  let identity ← c.deleteProvider
  let controlPlane ← c.controlPlane
  return .group .sequential false
    (nestedPart groups ++ nestedPart identity ++ [.leaf (c.controlPlaneTask wait controlPlane)])

end Cluster

end Teardown
