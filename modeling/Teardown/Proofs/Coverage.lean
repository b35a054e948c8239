/-
# What a plan covers

A plan that is made from an inventory covers the inventory.  The plan for a cluster deletes every
live node group and every live service account once, in the order of the inventory, and the first
live control plane, and no other stack.  The plan for the provider takes the role and the account
of every live service account, and then the provider.  There is no plan only if the provider is
missing or, for a cluster, the control plane.  `plan_coverage` puts this together.

An inventory answers all questions, so the plan for it is the one for its live stacks
(`Inventory.made_deleteCluster`, `Inventory.made_deleteProvider`).  That no stack is deleted twice
rests on the check of inventories, which refuses two stacks of one name (`Inventory.nodup_names`),
and on each stack being of one kind.  Every inventory that is read has passed that check
(`Inventory.contradiction?_of_load`).

* §1, §2  the tasks of a plan, part by part, and how many there are.  The clean-up of a stuck node
  group is a task more, and no deletion.
* §3  the plan for an inventory.
* §4  names: what the check of an inventory refuses.
* §5  both statements of coverage, and what an invocation makes of them.

Where several live control planes are listed, the plan deletes the first one only.
-/
import Mathlib.Data.List.Nodup
import Teardown.Program
import Teardown.Proofs.Planning

namespace Teardown

/-! ## 1. What a plan deletes -/

/-- The stack that a task deletes. -/
def Task.deletion? (task : Task) : Option Stack :=
  match task.work with
  | .deleteStack stack _ => some stack
  | _ => none

/-- The stacks that a plan deletes, from left to right. -/
def Plan.deletions (plan : Plan Task) : List Stack := plan.tasks.filterMap Task.deletion?

/-- The tasks of parts that are made from the members of a list. -/
theorem Plan.tasksOf_map {α ℓ : Type} (part : α → Plan ℓ) (members : List α) :
    tasksOf (members.map part) = members.flatMap fun member => (part member).tasks := by
  induction members with
  | nil => rfl
  | cons member members ih => rw [List.map_cons, tasksOf, ih, List.flatMap_cons]

namespace Cluster

variable {c : Cluster} {wait cleanUp : Bool} {groups roles : List Stack} {stack : Stack}

theorem tasks_nodeGroupPart :
    (c.nodeGroupPart wait cleanUp stack).tasks =
      if needsCleanUp stack cleanUp then
        [cleanUpTask stack.nodeGroupName, c.nodeGroupTask wait stack]
      else [c.nodeGroupTask wait stack] := by
  unfold nodeGroupPart
  split <;> rfl

theorem tasks_identityPlan :
    (c.identityPlan roles).tasks =
      roles.flatMap (fun role => [c.roleTask true role, accountTask role]) ++ [providerTask] := by
  rw [identityPlan, Plan.tasks, Plan.tasksOf_append, tasksOf_nestedPart, accountsPlan, Plan.tasks,
    Plan.tasksOf_map]
  rfl

/-- The tasks for a cluster: those of the node groups, of the identity and of the control plane. -/
theorem tasks_wholePlan :
    (c.wholePlan wait cleanUp groups roles stack).tasks =
      groups.flatMap (fun group => (c.nodeGroupPart true cleanUp group).tasks) ++
        ((c.identityPlan roles).tasks ++ [c.controlPlaneTask wait stack]) := by
  rw [wholePlan, Plan.tasks, Plan.tasksOf_append, tasksOf_nestedPart, groupsPlan, Plan.tasks,
    Plan.tasksOf_map]
  rfl

/-- Every node group, every role and the control plane are deleted once, in this order. -/
theorem deletions_wholePlan :
    (c.wholePlan wait cleanUp groups roles stack).deletions = groups ++ roles ++ [stack] := by
  have hgroup (group : Stack) :
      (c.nodeGroupPart true cleanUp group).tasks.filterMap Task.deletion? = [group] := by
    rw [tasks_nodeGroupPart]
    split <;> rfl
  have hrole (role : Stack) :
      [c.roleTask true role, accountTask role].filterMap Task.deletion? = [role] := rfl
  have hrest : [providerTask, c.controlPlaneTask wait stack].filterMap Task.deletion? = [stack] :=
    rfl
  rw [Plan.deletions, tasks_wholePlan, tasks_identityPlan, List.append_assoc _ [providerTask],
    List.singleton_append, List.filterMap_append, List.filterMap_append, List.filterMap_flatMap,
    List.filterMap_flatMap, hrest, ← List.append_assoc]
  simp only [hgroup, hrole, List.flatMap_singleton']

/-! ## 2. How many tasks there are -/

/-- A task for each node group, and one more for each that is cleaned up. -/
theorem length_flatMap_nodeGroupPart :
    (groups.flatMap fun group => (c.nodeGroupPart wait cleanUp group).tasks).length =
      groups.length + groups.countP (needsCleanUp · cleanUp) := by
  induction groups with
  | nil => rfl
  | cons group groups ih =>
    rw [List.flatMap_cons, List.length_append, ih, tasks_nodeGroupPart, List.countP_cons,
      List.length_cons]
    split <;> simp <;> omega

theorem countP_needsCleanUp :
    groups.countP (needsCleanUp · cleanUp) =
      if cleanUp then groups.countP (fun group => decide (group.status = .deleteFailed)) else 0 := by
  cases cleanUp <;> simp [needsCleanUp]

/-- Two tasks for each service account, and one for the provider. -/
theorem size_identityPlan : (c.identityPlan roles).size = 2 * roles.length + 1 := by
  rw [← Plan.length_tasks, tasks_identityPlan]
  simp [List.length_flatMap, Nat.mul_comm]

/-- The tasks for a cluster, counted. -/
theorem size_wholePlan :
    (c.wholePlan wait cleanUp groups roles stack).size =
      groups.length +
        (if cleanUp then groups.countP (fun group => decide (group.status = .deleteFailed)) else 0) +
        2 * roles.length + 2 := by
  rw [← Plan.length_tasks, tasks_wholePlan, List.length_append, List.length_append,
    length_flatMap_nodeGroupPart, countP_needsCleanUp, Plan.length_tasks, size_identityPlan,
    List.length_singleton]
  omega

end Cluster

/-! ## 3. Plans for an inventory -/

namespace Inventory

variable {i : Inventory} {settings : WaitSettings} {wait cleanUp : Bool}

/-- The live stacks of a kind, in the order of the inventory. -/
def live (i : Inventory) (kind : StackKind) : List Stack :=
  i.listing.filter fun stack => stack.kind = kind ∧ stack.isLive

def asCluster (i : Inventory) (settings : WaitSettings) : Cluster := ⟨i.cluster, settings⟩

/-- The plan of an operation for an inventory. -/
def made (i : Inventory) (settings : WaitSettings) (operation : Operation) :
    Except Problem (Plan Task) :=
  Problem.ofOutcome
    ((((operation.plan (i.asCluster settings)).answered i.answer).2).getD (.panic none))

theorem made_of_yields {operation : Operation} {plan : Plan Task}
    (h : (operation.plan (i.asCluster settings)).Yields i.answer plan) :
    i.made settings operation = .ok plan := by
  rw [Activity.Yields] at h
  rw [made, h]
  rfl

theorem answer_describeStacks (settings : WaitSettings) (kind : StackKind) :
    i.answer (.describeStacks (i.asCluster settings).name kind) =
      .ok (i.listing.filter fun stack => stack.kind = kind) :=
  congrArg Except.ok (if_pos rfl)

theorem liveStacks_yields (kind : StackKind) :
    ((i.asCluster settings).liveStacks kind).Yields i.answer (i.live kind) := by
  refine Cluster.liveStacks_yields.2 ⟨_, answer_describeStacks settings kind, ?_⟩
  simp [live, List.filter_filter, Bool.and_comm]

/-- What is listed as live is live in the inventory. -/
theorem eq_live {kind : StackKind} {listed : List Stack}
    (h : ((i.asCluster settings).liveStacks kind).Yields i.answer listed) :
    listed = i.live kind :=
  Outcome.ok.inj (Option.some.inj (h.symm.trans (liveStacks_yields kind)))

theorem made_deleteProvider :
    i.made settings .deleteProvider =
      if i.hasProvider then
        .ok (.group .sequential false
          (Cluster.nestedPart ((i.asCluster settings).accountsPlan (i.live .serviceAccount)) ++
            [.leaf Cluster.providerTask]))
      else .error (.fault Cluster.withoutProvider) := by
  cases hprovider : i.hasProvider with
  | true =>
    have haccounts : ((i.asCluster settings).deleteServiceAccounts none true).Yields i.answer _ :=
      Cluster.deleteServiceAccounts_yields.2
        ⟨i.live .serviceAccount, liveStacks_yields .serviceAccount, rfl⟩
    rw [Cluster.filter_isSelected_none] at haccounts
    exact made_of_yields (Cluster.deleteProvider_yields.2
      ⟨congrArg Except.ok hprovider, _, haccounts, rfl⟩)
  | false =>
    have hexists : i.answer .providerExists = .ok false := congrArg Except.ok hprovider
    have hrefused : ((Operation.deleteProvider.plan (i.asCluster settings)).answered i.answer).2 =
        some (.fault Cluster.withoutProvider) :=
      (Activity.yields_request.2 hexists).outcome_bind
    rw [made, hrefused]
    rfl

/-- **The plan for the cluster of an inventory.** -/
theorem made_deleteCluster :
    i.made settings (.deleteCluster wait cleanUp) =
      if i.hasProvider then
        match i.live .cluster with
        | [] => .error (.fault (.notFound "stack" (clusterStackName i.cluster)))
        | stack :: _ => .ok ((i.asCluster settings).wholePlan wait cleanUp (i.live .nodeGroup)
            (i.live .serviceAccount) stack)
      else .error (.fault Cluster.withoutProvider) := by
  have hdescribed (kind : StackKind) : ∃ listing : List Stack,
      i.answer (.describeStacks (i.asCluster settings).name kind) = .ok listing :=
    ⟨_, answer_describeStacks settings kind⟩
  cases hprovider : i.hasProvider with
  | false =>
    have hrefused := Cluster.deleteAll_refused (c := i.asCluster settings) wait cleanUp
      (hdescribed .nodeGroup) (congrArg Except.ok hprovider)
    rw [made, Operation.plan, hrefused]
    rfl
  | true =>
    have hexists : i.answer .providerExists = .ok true := congrArg Except.ok hprovider
    cases hplanes : i.live .cluster with
    | nil =>
      rcases Cluster.deleteAll_planned wait cleanUp hdescribed hexists with ⟨plan, hplan⟩ | hgone
      · obtain ⟨_, _, stack, -, -, hplane, -⟩ := Cluster.deleteAll_eq hplan
        obtain ⟨others, hlive⟩ := Cluster.controlPlane_yields.1 hplane
        exact absurd ((eq_live hlive).trans hplanes) (by simp)
      · rw [made, Operation.plan, hgone]
        rfl
    | cons plane others =>
      have hplane : (i.asCluster settings).controlPlane.Yields i.answer plane :=
        Cluster.controlPlane_yields.2 ⟨others, hplanes ▸ liveStacks_yields .cluster⟩
      have hyields : ((i.asCluster settings).deleteAll wait cleanUp).Yields i.answer _ :=
        Cluster.deleteAll_yields.2 ⟨_, _, plane,
          Cluster.deleteNodeGroups_yields.2 ⟨_, liveStacks_yields .nodeGroup, rfl⟩,
          Cluster.deleteProvider_yields.2 ⟨hexists, _, Cluster.deleteServiceAccounts_yields.2
            ⟨_, liveStacks_yields .serviceAccount, rfl⟩, rfl⟩, hplane, rfl⟩
      obtain ⟨groups, roles, stack, hgroups, hroles, hstack, hplan⟩ := Cluster.deleteAll_eq hyields
      obtain ⟨others', hstacks⟩ := Cluster.controlPlane_yields.1 hstack
      obtain ⟨rfl, -⟩ := List.cons.inj ((eq_live hstacks).trans hplanes)
      rw [hplan, eq_live hgroups, eq_live hroles] at hyields
      exact made_of_yields hyields

/-! ## 4. Names -/

/-- No name is repeated exactly if none stands twice in the list, or among those seen already. -/
theorem repeated?_eq_none_iff {names : List String} : ∀ {seen : List String},
    repeated? seen names = none ↔ names.Nodup ∧ ∀ name ∈ names, name ∉ seen := by
  induction names with
  | nil => simp [repeated?]
  | cons name names ih =>
    intro seen
    rw [repeated?]
    split
    · rename_i hseen
      have hmem : name ∈ seen := by simpa using hseen
      simp [hmem]
    · rename_i hfresh
      have hnew : name ∉ seen := by simpa using hfresh
      rw [ih, List.nodup_cons]
      constructor
      · rintro ⟨hnodup, hothers⟩
        refine ⟨⟨fun hmem => hothers name hmem List.mem_cons_self, hnodup⟩, fun other hother => ?_⟩
        rcases List.mem_cons.1 hother with rfl | hother
        · exact hnew
        · exact fun hseen => hothers other hother (List.mem_cons_of_mem _ hseen)
      · rintro ⟨⟨hfirst, hnodup⟩, hothers⟩
        refine ⟨hnodup, fun other hother hmem => ?_⟩
        rcases List.mem_cons.1 hmem with rfl | hseen
        · exact hfirst hother
        · exact hothers other (List.mem_cons_of_mem _ hother) hseen

/-- An inventory contradicts itself if its cluster has no name, or two of its stacks the same. -/
theorem contradiction?_eq_none_iff :
    i.contradiction? = none ↔
      (Text.trim i.cluster).isEmpty = false ∧ (i.listing.map Stack.name).Nodup := by
  unfold contradiction?
  split
  · rename_i hempty
    simp [hempty]
  · rename_i hcluster
    rw [Option.map_eq_none_iff, repeated?_eq_none_iff]
    simp [hcluster]

/-- Two stacks of an inventory that does not contradict itself have different names. -/
theorem nodup_names (h : i.contradiction? = none) : (i.listing.map Stack.name).Nodup :=
  (contradiction?_eq_none_iff.1 h).2

theorem mem_live {kind : StackKind} {stack : Stack} :
    stack ∈ i.live kind ↔ stack ∈ i.listing ∧ stack.kind = kind ∧ stack.isLive := by
  simp [live]

/-- The stacks that go with a cluster have different names. -/
theorem nodup_live_names (h : i.contradiction? = none) {plane : Stack}
    (hplane : plane ∈ i.live .cluster) :
    ((i.live .nodeGroup ++ i.live .serviceAccount ++ [plane]).map Stack.name).Nodup := by
  have hnames := nodup_names h
  have hlisting : i.listing.Nodup := hnames.of_map
  have hsub : ∀ stack ∈ i.live .nodeGroup ++ i.live .serviceAccount ++ [plane],
      stack ∈ i.listing := by
    intro stack hstack
    rcases List.mem_append.1 hstack with hstack | hstack
    · rcases List.mem_append.1 hstack with hstack | hstack
      · exact (mem_live.1 hstack).1
      · exact (mem_live.1 hstack).1
    · exact List.mem_singleton.1 hstack ▸ (mem_live.1 hplane).1
  -- A name belongs to one stack, so it is enough that no stack is there twice.
  refine List.Nodup.map_on
    (fun a ha b hb => List.inj_on_of_nodup_map hnames (hsub a ha) (hsub b hb)) ?_
  have hkinds {kind kind' : StackKind} (hne : kind ≠ kind') :
      ∀ stack ∈ i.live kind, stack ∉ i.live kind' := fun stack hstack hstack' =>
    hne ((mem_live.1 hstack).2.1.symm.trans (mem_live.1 hstack').2.1)
  refine List.nodup_append'.2 ⟨List.nodup_append'.2 ⟨hlisting.filter _, hlisting.filter _, ?_⟩,
    List.nodup_singleton plane, ?_⟩
  · exact fun stack hstack => hkinds (by simp) stack hstack
  · intro stack hstack hlast
    obtain rfl := List.mem_singleton.1 hlast
    rcases List.mem_append.1 hstack with hstack | hstack
    · exact hkinds (by simp) stack hplane hstack
    · exact hkinds (by simp) stack hplane hstack

/-- An inventory that was read does not contradict itself. -/
theorem contradiction?_of_load {files : Files} {path : String}
    (h : Inventory.load files path = .ok i) : i.contradiction? = none := by
  unfold Inventory.load at h
  split at h
  · cases h
  · split at h
    · cases h
    · dsimp only at h
      split at h
      · cases h
      · rename_i hnone
        obtain rfl := Except.ok.inj h
        exact hnone

end Inventory

/-- What an invocation plans is the plan for the inventory that it loads. -/
theorem Invocation.plan_eq_made {invocation : Invocation} {s : Surroundings}
    {path : String} {i : Inventory} (h : invocation.loadInventory s = .ok (path, i))
    (settings : WaitSettings) :
    (invocation.plan s settings).2 = i.made settings invocation.operation := by
  simp only [Invocation.plan, h]
  rfl

/-! ## 5. Coverage -/

namespace Inventory

variable {i : Inventory} {settings : WaitSettings} {wait cleanUp : Bool}

/-- What the plan for the cluster of an inventory covers, and when there is none.  The deletions are
all those of live node groups and live service accounts, in the order of the inventory, and that of
the first live control plane. -/
structure CoversCluster (i : Inventory) (settings : WaitSettings) (wait cleanUp : Bool) : Prop where
  withoutProvider : i.made settings (.deleteCluster wait cleanUp) =
    .error (.fault Cluster.withoutProvider) ↔ i.hasProvider = false
  withoutControlPlane : i.made settings (.deleteCluster wait cleanUp) =
    .error (.fault (.notFound "stack" (clusterStackName i.cluster))) ↔
      i.hasProvider = true ∧ i.live .cluster = []
  refused : (∃ problem, i.made settings (.deleteCluster wait cleanUp) = .error problem) ↔
    i.hasProvider = false ∨ i.live .cluster = []
  deletions : ∀ plan, i.made settings (.deleteCluster wait cleanUp) = .ok plan →
    ∃ plane others, i.live .cluster = plane :: others ∧
      plan.deletions = i.live .nodeGroup ++ i.live .serviceAccount ++ [plane]
  names : ∀ plan, i.made settings (.deleteCluster wait cleanUp) = .ok plan →
    (plan.deletions.map Stack.name).Nodup
  size : ∀ plan, i.made settings (.deleteCluster wait cleanUp) = .ok plan →
    plan.size = (i.live .nodeGroup).length +
      (if cleanUp then
        (i.live .nodeGroup).countP fun group => decide (group.status = .deleteFailed)
      else 0) + 2 * (i.live .serviceAccount).length + 2

/-- What the plan for the provider of an inventory covers, and when there is none: the role and the
account of every live service account, in the order of the inventory, and then the provider. -/
structure CoversProvider (i : Inventory) (settings : WaitSettings) : Prop where
  refused : (∃ problem, i.made settings .deleteProvider = .error problem) ↔ i.hasProvider = false
  withoutProvider : i.made settings .deleteProvider = .error (.fault Cluster.withoutProvider) ↔
    i.hasProvider = false
  tasks : ∀ plan, i.made settings .deleteProvider = .ok plan →
    plan.tasks = (i.live .serviceAccount).flatMap (fun role =>
      [(i.asCluster settings).roleTask true role, Cluster.accountTask role]) ++
        [Cluster.providerTask]
  size : ∀ plan, i.made settings .deleteProvider = .ok plan →
    plan.size = 2 * (i.live .serviceAccount).length + 1

theorem eq_wholePlan {plan : Plan Task}
    (h : i.made settings (.deleteCluster wait cleanUp) = .ok plan) :
    ∃ plane others, i.live .cluster = plane :: others ∧
      plan = (i.asCluster settings).wholePlan wait cleanUp (i.live .nodeGroup)
        (i.live .serviceAccount) plane := by
  rw [made_deleteCluster] at h
  split at h
  · split at h
    · cases h
    · rename_i plane others hplanes
      exact ⟨plane, others, hplanes, (Except.ok.inj h).symm⟩
  · cases h

/-- The plan for a cluster covers the inventory. -/
theorem coversCluster (h : i.contradiction? = none) : i.CoversCluster settings wait cleanUp where
  withoutProvider := by
    rw [made_deleteCluster]
    cases i.hasProvider <;> cases i.live .cluster <;> simp [Cluster.withoutProvider]
  withoutControlPlane := by
    rw [made_deleteCluster]
    cases i.hasProvider <;> cases i.live .cluster <;> simp [Cluster.withoutProvider]
  refused := by
    rw [made_deleteCluster]
    cases i.hasProvider <;> cases i.live .cluster <;> simp
  deletions plan hplan := by
    obtain ⟨plane, others, hplanes, rfl⟩ := eq_wholePlan hplan
    exact ⟨plane, others, hplanes, Cluster.deletions_wholePlan⟩
  names plan hplan := by
    obtain ⟨plane, others, hplanes, rfl⟩ := eq_wholePlan hplan
    rw [Cluster.deletions_wholePlan]
    exact nodup_live_names h (hplanes ▸ List.mem_cons_self)
  size plan hplan := by
    obtain ⟨plane, others, -, rfl⟩ := eq_wholePlan hplan
    exact Cluster.size_wholePlan

/-- The plan for the provider covers the inventory. -/
theorem coversProvider : i.CoversProvider settings where
  refused := by
    rw [made_deleteProvider]
    cases i.hasProvider <;> simp
  withoutProvider := by
    rw [made_deleteProvider]
    cases i.hasProvider <;> simp
  tasks plan hplan := by
    rw [made_deleteProvider] at hplan
    split at hplan
    · obtain rfl := Except.ok.inj hplan
      exact Cluster.tasks_identityPlan
    · cases hplan
  size plan hplan := by
    rw [made_deleteProvider] at hplan
    split at hplan
    · obtain rfl := Except.ok.inj hplan
      exact Cluster.size_identityPlan
    · cases hplan

end Inventory

/-- **A plan covers its inventory**, if the inventory does not contradict itself; and this plan is what
an invocation makes that loads the inventory. -/
theorem plan_coverage {i : Inventory} (hvalid : i.contradiction? = none) (settings : WaitSettings) :
    (∀ wait cleanUp, i.CoversCluster settings wait cleanUp) ∧ i.CoversProvider settings ∧
      ∀ (invocation : Invocation) (s : Surroundings) (path : String),
        invocation.loadInventory s = .ok (path, i) →
        (invocation.plan s settings).2 = i.made settings invocation.operation :=
  ⟨fun _ _ => Inventory.coversCluster hvalid, Inventory.coversProvider,
    fun _ _ _ hload => Invocation.plan_eq_made hload settings⟩

namespace Sample

/-- An inventory with a node group that is stuck, one that is gone, and a service account. -/
def inventory : Inventory :=
  ⟨"demo", true,
    [.plain (clusterStackName "demo") .cluster .createComplete,
     .plain "strata-demo-nodegroup-a" .nodeGroup .deleteComplete,
     .plain "strata-demo-nodegroup-b" .nodeGroup .deleteFailed,
     .plain "strata-demo-addon-iamserviceaccount-default-app" .serviceAccount .createComplete]⟩

end Sample

/-- The plan for the cluster of the inventory. -/
theorem plan_coverage_of_inventory :
    Sample.inventory.contradiction? = none ∧
      ∃ plan, Sample.inventory.made .standard (.deleteCluster true true) = .ok plan ∧
        plan.deletions.map Stack.name =
          ["strata-demo-nodegroup-b", "strata-demo-addon-iamserviceaccount-default-app",
            "strata-demo-cluster"] ∧
        plan.size = 6 := by
  have hvalid : Sample.inventory.contradiction? = none := by decide +kernel
  obtain ⟨hcluster, -, -⟩ := plan_coverage hvalid .standard
  refine ⟨hvalid, ?_⟩
  cases hplan : Sample.inventory.made .standard (.deleteCluster true true) with
  | error problem =>
    have hrefused := (hcluster true true).refused.1 ⟨problem, hplan⟩
    exact absurd hrefused (by decide +kernel)
  | ok plan =>
    obtain ⟨plane, others, hplanes, hdeletions⟩ := (hcluster true true).deletions plan hplan
    refine ⟨plan, rfl, ?_, ?_⟩
    · obtain ⟨rfl, -⟩ := List.cons.inj hplanes
      rw [hdeletions]
      rfl
    · rw [(hcluster true true).size plan hplan]
      rfl

end Teardown
