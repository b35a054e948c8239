/-
# Clusters and their stacks

What a cluster is known by, and the stacks that belong to it.  The remote side is asked for the
stacks of one kind at a time, by the name of the cluster, and the order of its answer is kept:
plans are made in that order.

A stack whose deletion is complete may still be listed for a while; it does not count.  The record
about a listing has both numbers, so that it can be seen how many were left out.  A cluster
without a live stack of its own has no control plane, and whoever needs one is told so by a fault.
-/
import Teardown.Task

namespace Teardown

/-- A cluster, with the settings for waiting on the deletion of its stacks. -/
structure Cluster where
  name : String
  wait : WaitSettings
deriving DecidableEq

namespace Cluster

/-- The record about the stacks of a kind. -/
def described (c : Cluster) (kind : StackKind) (total live : Nat) : Record :=
  ⟨.debug, "strata_stack::collection", "Described stacks",
    [("cluster", .text c.name), ("kind", .text kind.text), ("total", .number total),
     ("live", .number live)]⟩

/-- The stacks of a kind that still exist, in the order in which they are listed. -/
def liveStacks (c : Cluster) (kind : StackKind) : Action (List Stack) := do
  let listing : List Stack ← (Request.describeStacks c.name kind).send
  let live := listing.filter Stack.isLive
  Activity.say (c.described kind listing.length live.length)
  return live

def nodeGroups (c : Cluster) : Action (List Stack) := c.liveStacks .nodeGroup

def serviceAccounts (c : Cluster) : Action (List Stack) := c.liveStacks .serviceAccount

/-- The stack of the control plane: the first one that is listed. -/
def controlPlane (c : Cluster) : Action Stack := do
  match ← c.liveStacks .cluster with
  | stack :: _ => return stack
  | [] => Activity.fail (.notFound "stack" (clusterStackName c.name))

end Cluster

end Teardown
