/-
# What plans are made of

Making a plan only asks questions, so the plan is settled by the answers.  With `Activity.Yields
answer a v` an activity ends with the value `v` if its requests are answered as `answer` says; it
comes with one lemma for each way of putting activities together.  Every builder then has one
lemma that says which plans it yields, and from which answers: `deleteNodeGroups_yields`,
`deleteServiceAccounts_yields`, `deleteProvider_yields` and `deleteAll_yields`.  Where all stacks
can be listed, there is no plan for a cluster only if the provider or the control plane is missing
(`deleteAll_refused`, `deleteAll_planned`).

* §1  values under given answers.
* §2, §3  listings, and the plans that are made of them.
* §4  the plan for a whole cluster, written out as a function of its stacks (`Cluster.wholePlan`,
      `deleteAll_eq`).  This is the form in which other modules speak of it, so a change of a
      builder stops here.
* §5  when there is no plan.

The answers are a function of the requests here.  A remote side that changes while a plan is made
could answer the same request in two ways, but no builder asks the same thing twice.
-/
import Teardown.Deletion
import Teardown.Proofs.Places

namespace Teardown

/-! ## 1. Values under given answers -/

namespace Activity

variable {R : Type} {A : R → Type} {α β : Type}

/-- The activity ends with a value if every request is answered in this way. -/
def Yields (answer : (q : R) → Except Fault (A q)) (a : Activity R A α) (value : α) : Prop :=
  (a.answered answer).2 = some (.ok value)

variable {answer : (q : R) → Except Fault (A q)}

@[simp] theorem yields_pure {value value' : α} :
    (Pure.pure value : Activity R A α).Yields answer value' ↔ value = value' := by
  change some (Outcome.ok value) = some (.ok value') ↔ _
  simp

@[simp] theorem yields_fail {cause : Fault} {value : α} :
    ¬ (fail cause : Activity R A α).Yields answer value := by
  simp [Yields, fail, answered]

/-- A sequence yields what its second part makes of the value of the first. -/
@[simp] theorem yields_bind {a : Activity R A α} {k : α → Activity R A β} {value : β} :
    (a >>= k).Yields answer value ↔ ∃ mid, a.Yields answer mid ∧ (k mid).Yields answer value := by
  change (a.bind k).Yields answer value ↔ _
  induction a with
  | finish outcome =>
    cases outcome with
    | ok mid =>
      constructor
      · exact fun h => ⟨mid, rfl, h⟩
      · rintro ⟨mid', hmid, h⟩
        obtain rfl : mid = mid' := by simpa [Yields, answered] using hmid
        exact h
    | fault cause => simp [Yields, bind, answered]
    | panic text => simp [Yields, bind, answered]
  | note record next ih => exact ih
  | ask q next ih => exact ih (answer q)
  | watch w next _ => simp [Yields, bind, answered]

@[simp] theorem yields_say {record : Record} {value : Unit} :
    (say record : Activity R A Unit).Yields answer value := rfl

@[simp] theorem yields_sayAll {records : List Record} {value : Unit} :
    (sayAll records : Activity R A Unit).Yields answer value := by
  induction records with
  | nil => rfl
  | cons record records ih => exact ih

@[simp] theorem yields_request {q : R} {value : A q} :
    (request q : Activity R A (A q)).Yields answer value ↔ answer q = .ok value := by
  simp only [Yields, request, answered, ofExcept]
  cases answer q with
  | ok granted => simp [Outcome.ofExcept]
  | error cause => simp [Outcome.ofExcept]

section Outcomes

variable {a : Activity R A α} {k : α → Activity R A β}

/-- A sequence ends as its second part does with the value of the first. -/
theorem Yields.outcome_bind {value : α} (h : a.Yields answer value) :
    ((a >>= k).answered answer).2 = ((k value).answered answer).2 := by
  change ((a.bind k).answered answer).2 = _
  induction a with
  | finish outcome =>
    obtain rfl : outcome = .ok value := Option.some.inj h
    rfl
  | note record next ih => exact ih h
  | ask q next ih => exact ih (answer q) h
  | watch w next _ => exact absurd h (by simp [Yields, answered])

/-- A sequence whose first part fails, fails with the same fault. -/
theorem outcome_bind_fault {cause : Fault} (h : (a.answered answer).2 = some (.fault cause)) :
    ((a >>= k).answered answer).2 = some (.fault cause) := by
  change ((a.bind k).answered answer).2 = _
  induction a with
  | finish outcome =>
    obtain rfl : outcome = .fault cause := Option.some.inj h
    rfl
  | note record next ih => exact ih h
  | ask q next ih => exact ih (answer q) h
  | watch w next _ => exact absurd h (by simp [answered])

end Outcomes

end Activity

/-! ## 2. Stacks -/

namespace Cluster

variable {c : Cluster} {answer : (q : Request) → Except Fault q.Answer} {wait cleanUp : Bool}
  {plan : Plan Task}

/-- The live stacks of a kind are those of the listing that still exist. -/
theorem liveStacks_yields {kind : StackKind} {live : List Stack} :
    (c.liveStacks kind).Yields answer live ↔
      ∃ listing : List Stack, answer (.describeStacks c.name kind) = .ok listing ∧
        live = listing.filter Stack.isLive := by
  constructor
  · intro h
    obtain ⟨listing, hlisting, h⟩ := Activity.yields_bind.1 h
    obtain ⟨-, -, h⟩ := Activity.yields_bind.1 h
    exact ⟨listing, Activity.yields_request.1 hlisting, (Activity.yields_pure.1 h).symm⟩
  · rintro ⟨listing, hlisting, rfl⟩
    have hlive : (Activity.say
          (c.described kind listing.length (listing.filter Stack.isLive).length) >>=
        fun _ => pure (listing.filter Stack.isLive)).Yields answer _ :=
      Activity.yields_bind.2 ⟨(), Activity.yields_say, Activity.yields_pure.2 rfl⟩
    exact Activity.yields_bind.2 ⟨listing, Activity.yields_request.2 hlisting, hlive⟩

theorem controlPlane_yields {stack : Stack} :
    c.controlPlane.Yields answer stack ↔
      ∃ others, (c.liveStacks .cluster).Yields answer (stack :: others) := by
  simp only [controlPlane, Activity.yields_bind]
  constructor
  · rintro ⟨live, hlive, h⟩
    cases live with
    | nil => exact absurd h (by simp)
    | cons first others =>
      obtain rfl := Activity.yields_pure.1 h
      exact ⟨others, hlive⟩
  · rintro ⟨others, hlive⟩
    exact ⟨stack :: others, hlive, Activity.yields_pure.2 rfl⟩

/-! ## 3. Plans -/

/-- The plan for node groups has one part for each live stack that is selected, in order. -/
theorem deleteNodeGroups_yields {only : Option NameSet} :
    (c.deleteNodeGroups only wait cleanUp).Yields answer plan ↔
      ∃ groups, c.nodeGroups.Yields answer groups ∧
        plan = .group .parallel false
          ((groups.filter fun stack => isSelected only stack.nodeGroupName).map
            (c.nodeGroupPart wait cleanUp)) := by
  simp only [deleteNodeGroups, Activity.yields_bind, Activity.yields_sayAll, Activity.yields_pure,
    true_and, exists_const, eq_comm]

/-- The plan for service accounts has one pair for each live role stack selected, in order. -/
theorem deleteServiceAccounts_yields {only : Option NameSet} :
    (c.deleteServiceAccounts only wait).Yields answer plan ↔
      ∃ roles, c.serviceAccounts.Yields answer roles ∧
        plan = .group .parallel false
          ((roles.filter fun stack => isSelected only stack.accountName).map
            (c.accountPart wait)) := by
  simp only [deleteServiceAccounts, Activity.yields_bind, Activity.yields_sayAll,
    Activity.yields_pure, true_and, exists_const, eq_comm]

/-- The plan for the provider: all service accounts, if there are any, and then the provider. -/
theorem deleteProvider_yields :
    c.deleteProvider.Yields answer plan ↔
      answer .providerExists = .ok true ∧
        ∃ accounts, (c.deleteServiceAccounts none true).Yields answer accounts ∧
          plan = .group .sequential false (nestedPart accounts ++ [.leaf providerTask]) := by
  constructor
  · intro h
    obtain ⟨isThere, hanswer, h⟩ := Activity.yields_bind.1 h
    have hanswer := Activity.yields_request.1 hanswer
    cases isThere with
    | false => exact absurd h Activity.yields_fail
    | true =>
      obtain ⟨accounts, haccounts, h⟩ := Activity.yields_bind.1 h
      exact ⟨hanswer, accounts, haccounts, (Activity.yields_pure.1 h).symm⟩
  · rintro ⟨hanswer, accounts, haccounts, rfl⟩
    refine Activity.yields_bind.2 ⟨true, Activity.yields_request.2 hanswer, ?_⟩
    exact Activity.yields_bind.2 ⟨accounts, haccounts, Activity.yields_pure.2 rfl⟩

/-- The plan for a cluster: node groups, then the identity, then the control plane. -/
theorem deleteAll_yields :
    (c.deleteAll wait cleanUp).Yields answer plan ↔
      ∃ groups identity stack, (c.deleteNodeGroups none true cleanUp).Yields answer groups ∧
        c.deleteProvider.Yields answer identity ∧ c.controlPlane.Yields answer stack ∧
        plan = .group .sequential false
          (nestedPart groups ++ nestedPart identity ++
            [.leaf (c.controlPlaneTask wait stack)]) := by
  simp only [deleteAll, Activity.yields_bind, Activity.yields_pure]
  constructor
  · rintro ⟨groups, hgroups, identity, hidentity, stack, hstack, rfl⟩
    exact ⟨groups, identity, stack, hgroups, hidentity, hstack, rfl⟩
  · rintro ⟨groups, identity, stack, hgroups, hidentity, hstack, rfl⟩
    exact ⟨groups, hgroups, identity, hidentity, stack, hstack, rfl⟩

@[simp] theorem filter_isSelected_none (listing : List Stack) (name : Stack → String) :
    listing.filter (fun stack => isSelected none (name stack)) = listing := by
  simp [isSelected]

end Cluster

/-! ## 4. Whole clusters -/

/-- The tasks of a plan are kept when it becomes a part; a plan without tasks has none to keep. -/
@[simp] theorem Cluster.tasksOf_nestedPart (plan : Plan Task) :
    Plan.tasksOf (nestedPart plan) = plan.tasks := by
  unfold nestedPart
  split
  · rename_i hempty
    rw [Plan.isEmpty_iff.1 hempty]
    rfl
  · simp [Plan.tasksOf]

namespace Cluster

variable {c : Cluster} {answer : (q : Request) → Except Fault q.Answer} {wait cleanUp : Bool}
  {plan : Plan Task}

def groupsPlan (c : Cluster) (cleanUp : Bool) (groups : List Stack) : Plan Task :=
  .group .parallel false (groups.map (c.nodeGroupPart true cleanUp))

def accountsPlan (c : Cluster) (roles : List Stack) : Plan Task :=
  .group .parallel false (roles.map (c.accountPart true))

/-- The part of a plan that deletes service accounts and the provider. -/
def identityPlan (c : Cluster) (roles : List Stack) : Plan Task :=
  .group .sequential true (nestedPart (c.accountsPlan roles) ++ [.leaf providerTask])

/-- The plan for a cluster with these stacks. -/
def wholePlan (c : Cluster) (wait cleanUp : Bool) (groups roles : List Stack) (stack : Stack) :
    Plan Task :=
  .group .sequential false (nestedPart (c.groupsPlan cleanUp groups) ++
    [c.identityPlan roles, .leaf (c.controlPlaneTask wait stack)])

/-- **The plan for a cluster, written out.** -/
theorem deleteAll_eq (h : (c.deleteAll wait cleanUp).Yields answer plan) :
    ∃ groups roles stack, c.nodeGroups.Yields answer groups ∧
      c.serviceAccounts.Yields answer roles ∧ c.controlPlane.Yields answer stack ∧
      plan = c.wholePlan wait cleanUp groups roles stack := by
  obtain ⟨_, identity, stack, hgroups, hidentity, hstack, rfl⟩ := deleteAll_yields.1 h
  obtain ⟨groups, hlisted, rfl⟩ := deleteNodeGroups_yields.1 hgroups
  obtain ⟨-, _, haccounts, rfl⟩ := deleteProvider_yields.1 hidentity
  obtain ⟨roles, hroles, rfl⟩ := deleteServiceAccounts_yields.1 haccounts
  rw [filter_isSelected_none, filter_isSelected_none]
  refine ⟨groups, roles, stack, hlisted, hroles, hstack, ?_⟩
  -- The identity part always has the task for the provider, so it is never left out.
  have hidentity : nestedPart (.group .sequential false
      (nestedPart (c.accountsPlan roles) ++ [.leaf providerTask])) = [c.identityPlan roles] := by
    refine if_neg fun hempty => ?_
    have htasks := Plan.isEmpty_iff.1 hempty
    simp [Plan.tasks, Plan.tasksOf] at htasks
  rw [accountsPlan] at hidentity
  rw [hidentity, List.append_assoc]
  rfl

/-- The task for the control plane is the last one in the plan. -/
theorem at?_controlPlane {groups roles : List Stack} {stack : Stack} :
    (c.wholePlan wait cleanUp groups roles stack).at?
        [(nestedPart (c.groupsPlan cleanUp groups)).length + 1] =
      some (.leaf (c.controlPlaneTask wait stack)) := by
  simp [wholePlan, Plan.at?]

theorem wholePlan_isEmpty {groups roles : List Stack} {stack : Stack} :
    (c.wholePlan wait cleanUp groups roles stack).isEmpty = false :=
  Plan.isEmpty_of_mem_tasks (Plan.mem_tasks_of_at? at?_controlPlane)

/-! ## 5. Clusters without a plan -/

theorem exists_liveStacks {kind : StackKind}
    (h : ∃ listing : List Stack, answer (.describeStacks c.name kind) = .ok listing) :
    ∃ live, (c.liveStacks kind).Yields answer live := by
  obtain ⟨listing, hlisting⟩ := h
  exact ⟨_, liveStacks_yields.2 ⟨listing, hlisting, rfl⟩⟩

/-- Without a provider there is no plan for a cluster. -/
theorem deleteAll_refused (wait cleanUp : Bool)
    (hgroups : ∃ listing : List Stack, answer (.describeStacks c.name .nodeGroup) = .ok listing)
    (hexists : answer .providerExists = .ok false) :
    ((c.deleteAll wait cleanUp).answered answer).2 = some (.fault withoutProvider) := by
  obtain ⟨groups, hlive⟩ := exists_liveStacks hgroups
  have hplanned : (c.deleteNodeGroups none true cleanUp).Yields answer _ :=
    deleteNodeGroups_yields.2 ⟨groups, hlive, rfl⟩
  have hprovider : (c.deleteProvider.answered answer).2 = some (.fault withoutProvider) :=
    (Activity.yields_request.2 hexists).outcome_bind
  exact hplanned.outcome_bind.trans (Activity.outcome_bind_fault hprovider)

/-- With a provider there is a plan, unless the control plane is gone. -/
theorem deleteAll_planned (wait cleanUp : Bool)
    (hdescribed : ∀ kind, ∃ listing : List Stack,
      answer (.describeStacks c.name kind) = .ok listing)
    (hexists : answer .providerExists = .ok true) :
    (∃ plan, ((c.deleteAll wait cleanUp).answered answer).2 = some (.ok plan)) ∨
      ((c.deleteAll wait cleanUp).answered answer).2 =
        some (.fault (.notFound "stack" (clusterStackName c.name))) := by
  obtain ⟨groups, hgroups⟩ := exists_liveStacks (hdescribed .nodeGroup)
  obtain ⟨roles, hroles⟩ := exists_liveStacks (hdescribed .serviceAccount)
  obtain ⟨live, hlive⟩ := exists_liveStacks (hdescribed .cluster)
  have hfront : (c.deleteNodeGroups none true cleanUp).Yields answer _ :=
    deleteNodeGroups_yields.2 ⟨groups, hgroups, rfl⟩
  have hidentity := deleteProvider_yields.2
    ⟨hexists, _, deleteServiceAccounts_yields.2 ⟨roles, hroles, rfl⟩, rfl⟩
  cases live with
  | nil =>
    have hgone : (c.controlPlane.answered answer).2 =
        some (.fault (.notFound "stack" (clusterStackName c.name))) := hlive.outcome_bind
    exact .inr (hfront.outcome_bind.trans
      (hidentity.outcome_bind.trans (Activity.outcome_bind_fault hgone)))
  | cons stack others =>
    have hplane := controlPlane_yields.2 ⟨others, hlive⟩
    exact .inl ⟨_, hfront.outcome_bind.trans
      (hidentity.outcome_bind.trans hplane.outcome_bind)⟩

end Cluster

end Teardown
