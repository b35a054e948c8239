/-
# The order of a teardown

The plan that takes a whole cluster down is carried out in stages: the node groups, the service
accounts, the identity provider, the control plane.  Nothing of a later stage is asked for before
the earlier stages have ended well (`teardown_order`).  What that means is said in terms of the
events of the run: the deletion of a stack was accepted, and then the stack was reported gone
(`ReportedGone`).

It holds for all answers, at any speed, in any interleaving of the parallel lanes, with failures
anywhere and the cancellation at any time: `Traced.passed_before` gives the order of the work, and
the traces of the single tasks say what has been seen when a task has ended well.

* §1  what a task has seen when it has ended well, from the traces of its activity.
* §2  duties: what a task is for, in which stage, and what it may ask for.  Duties of different
      stages have different tasks, so a leaf tells the stage of its requests.
* §3  the leaves of the plan, and which of them come before which.
* §4  the order.  `Prepared` collects all that has happened before a request and what does not
      happen after it.
* §5  a run to the last request, with one node group, one account with its role, and a provider.

The control plane is the one stack whose deletion need not be waited for.  The order is said of
each request that is made and not that one is made: a run that fails or is cancelled may ask for
nothing of the later stages.
-/
import Teardown.Proofs.Ordering
import Teardown.Proofs.Planning

namespace Teardown

open Run

/-! ## 1. What a task has seen when it has ended well -/

/-- At a place the deletion of a stack was accepted, and afterwards the stack was reported gone: it
was not found any more, or it was found with its deletion complete. -/
def ReportedGone (events : List RunEvent) (place : Place) (stack : Stack) : Prop :=
  ∃ (receipt : Receipt) (answer : Option Stack),
    (∀ seen, answer = some seen → seen.status = .deleteComplete) ∧
    [Occurrence.replied (.deleteStack stack) (.ok receipt),
      .replied (.describeStack stack.name) (.ok answer)].Sublist (occurrencesAt place events)

/-- A deletion has succeeded exactly if the stack is gone. -/
theorem Stack.deletionProgress_success {answer : Option Stack} :
    (Stack.deletionProgress answer).verdict = .success ↔
      ∀ seen, answer = some seen → seen.status = .deleteComplete := by
  cases answer with
  | none => simp [Stack.deletionProgress]
  | some seen =>
    simp only [Stack.deletionProgress, Option.map_some, Option.getD_some, Option.some.injEq,
      forall_eq']
    cases seen.status <;> simp

section Tasks

variable {past : List (Occurrence Request Request.Answer)}

/-- A deletion that is waited for ends well only after the stack was reported gone. -/
theorem Stack.trace_deleteAndWait {stack : Stack} {settings : WaitSettings}
    (h : (stack.deleteAndWait settings).Trace past (.done (.ok ()))) :
    ∃ (receipt : Receipt) (answer : Option Stack),
      (∀ seen, answer = some seen → seen.status = .deleteComplete) ∧
      [Occurrence.replied (.deleteStack stack) (.ok receipt),
        .replied (.describeStack stack.name) (.ok answer)].Sublist past := by
  obtain ⟨reply, more, rfl, hmore⟩ := Activity.Trace.of_ask h
  cases reply with
  | error cause =>
    obtain ⟨-, hdone⟩ := Activity.Trace.of_finish hmore
    exact absurd hdone (by simp)
  | ok receipt =>
    obtain ⟨rounds, answer, rest, -, hgone, rfl, -⟩ | ⟨cause, rest, hrest⟩ :=
      (Activity.Trace.of_note hmore).of_watch
    · refine ⟨receipt, answer, Stack.deletionProgress_success.1 hgone, ?_⟩
      refine (List.Sublist.cons_cons _ ?_).cons _
      refine List.Sublist.trans ?_ (List.sublist_append_right rounds _)
      exact (List.Sublist.cons_cons _ (List.nil_sublist rest)).cons _
    · obtain ⟨-, hdone⟩ := Activity.Trace.of_finish hrest
      exact absurd hdone (by simp [Outcome.ofExcept])

/-- The deletion of an account ends well only after it was granted. -/
theorem Task.trace_deleteAccount {name : String}
    (h : (Task.deleteAccount name).Trace past (.done (.ok ()))) :
    ∃ account, Account.parse name = .ok account ∧
      Occurrence.replied (.deleteAccount account) (.ok ()) ∈ past := by
  obtain ⟨reply, more, rfl, hmore⟩ := Activity.Trace.of_ask h
  cases reply with
  | error cause =>
    obtain ⟨-, hdone⟩ := Activity.Trace.of_finish hmore
    exact absurd hdone (by simp)
  | ok _ =>
    cases hparse : Account.parse name with
    | error cause =>
      simp only [Activity.bind, Activity.ofExcept, Outcome.ofExcept, hparse, bind] at hmore
      obtain ⟨-, hdone⟩ := hmore.of_finish
      exact absurd hdone (by simp)
    | ok account =>
      simp only [Activity.bind, Activity.ofExcept, Outcome.ofExcept, hparse, bind] at hmore
      obtain rfl := Activity.Trace.of_request hmore
      exact ⟨account, rfl, by simp⟩

/-- The deletion of the provider ends well only after it was granted. -/
theorem Task.trace_deleteProvider
    (h : (Request.deleteProvider.send : Action Unit).Trace past (.done (.ok ()))) :
    Occurrence.replied .deleteProvider (.ok ()) ∈ past := by
  obtain rfl := Activity.Trace.of_request h
  simp

end Tasks

/-! ## 2. Duties -/

/-- What a task of a teardown is for. -/
inductive Duty
  | cleanUp (name : String)
  | nodeGroup (stack : Stack)
  | role (stack : Stack)
  | account (stack : Stack)
  | provider
  | controlPlane (stack : Stack)

namespace Duty

/-- The task for a duty.  Only for the control plane it is a choice whether to wait. -/
def task (c : Cluster) (wait : Bool) : Duty → Task
  | cleanUp name => Cluster.cleanUpTask name
  | nodeGroup stack => c.nodeGroupTask true stack
  | role stack => c.roleTask true stack
  | account stack => Cluster.accountTask stack
  | provider => Cluster.providerTask
  | controlPlane stack => c.controlPlaneTask wait stack

/-- The stage of a teardown in which a duty is carried out. -/
def stage : Duty → Nat
  | cleanUp _ | nodeGroup _ => 0
  | role _ | account _ => 1
  | provider => 2
  | controlPlane _ => 3

/-- What may be asked for in carrying out a duty. -/
def MayAsk : Duty → Request → Prop
  | cleanUp name, request => request = .cleanUp name
  | nodeGroup stack, request | role stack, request | controlPlane stack, request =>
    request = .deleteStack stack ∨ request = .describeStack stack.name
  | account stack, request =>
    request = .connect ∨
      ∃ account, Account.parse stack.accountName = .ok account ∧ request = .deleteAccount account
  | provider, request => request = .deleteProvider

def lead : Duty → String
  | cleanUp _ => "cleanup for nodegroup "
  | nodeGroup _ => "delete nodegroup "
  | role _ => "delete IAM role for serviceaccount "
  | account _ => "delete serviceaccount "
  | provider => "delete IAM OIDC provider"
  | controlPlane _ => "delete cluster control plane "

theorem info_eq (c : Cluster) (wait : Bool) (duty : Duty) :
    ∃ rest, (duty.task c wait).info = duty.lead ++ rest := by
  cases duty with
  | provider => exact ⟨"", (String.append_empty).symm⟩
  | _ => exact ⟨_, rfl⟩

theorem take_info (c : Cluster) (wait : Bool) (duty : Duty) :
    (duty.task c wait).info.toList.take 12 = duty.lead.toList.take 12 := by
  obtain ⟨rest, hrest⟩ := info_eq c wait duty
  have hlong : 12 ≤ duty.lead.toList.length := by
    cases duty <;> simp only [lead] <;> decide
  rw [hrest, String.toList_append, List.take_append_of_le_length hlong]

/-- Duties of different stages have different tasks. -/
theorem stage_eq {c : Cluster} {wait : Bool} {duty other : Duty}
    (h : duty.task c wait = other.task c wait) : duty.stage = other.stage := by
  have hlead : duty.lead.toList.take 12 = other.lead.toList.take 12 := by
    rw [← take_info c wait duty, ← take_info c wait other, h]
  cases duty <;> cases other <;> simp only [lead] at hlead <;>
    first | rfl | exact absurd hlead (by decide)

/-- The task for a duty asks only for what belongs to the duty. -/
theorem only_mayAsk (c : Cluster) (wait : Bool) (duty : Duty) :
    (duty.task c wait).action.Only duty.MayAsk := by
  have hwatch : ∀ (stack : Stack) (settings : WaitSettings),
      (stack.deleteAndWait settings).Only
        fun request => request = .deleteStack stack ∨ request = .describeStack stack.name := by
    intro stack settings
    refine ⟨.inl rfl, fun reply => ?_⟩
    cases reply with
    | ok receipt => exact ⟨.inr rfl, fun _ => trivial⟩
    | error cause => trivial
  cases duty with
  | cleanUp | provider => exact ⟨rfl, fun _ => trivial⟩
  | nodeGroup stack | role stack => exact hwatch stack c.wait
  | controlPlane stack =>
    cases wait with
    | true => exact hwatch stack c.wait
    | false =>
      refine ⟨.inl rfl, fun reply => ?_⟩
      cases reply <;> trivial
  | account stack =>
    refine ⟨.inl rfl, fun reply => ?_⟩
    cases reply with
    | error cause => trivial
    | ok _ =>
      cases hparse : Account.parse stack.accountName with
      | error cause =>
        simp [Activity.bind, Activity.ofExcept, Outcome.ofExcept, bind, Activity.Only]
      | ok account =>
        simp [Activity.bind, Activity.ofExcept, Outcome.ofExcept, hparse, bind, Activity.Only,
          Request.send, Activity.request, MayAsk]

/-- A deletion is asked for once, before anything else. -/
theorem asked_once {c : Cluster} {wait : Bool} {duty : Duty}
    {past : List (Occurrence Request Request.Answer)}
    {thread : Thread Request Request.Answer Unit}
    (h : (duty.task c wait).action.Trace past thread) {stack : Stack}
    (hasked : .asked (.deleteStack stack) ∈ past) :
    ∃ rest, past = .asked (.deleteStack stack) :: rest ∧ .asked (.deleteStack stack) ∉ rest := by
  have hmay := h.of_only (only_mayAsk c wait duty) hasked
  have hwaited : ∀ {own : Stack}, Request.deleteStack stack = .deleteStack own ∨
      Request.deleteStack stack = .describeStack own.name →
      (own.deleteAndWait c.wait).Trace past thread →
      ∃ rest, past = .asked (.deleteStack stack) :: rest ∧
        .asked (.deleteStack stack) ∉ rest := by
    intro own hown htrace
    obtain rfl : stack = own := by simpa using hown
    refine htrace.asked_once fun reply => ?_
    cases reply with
    | ok receipt => exact ⟨by simp [Stack.deletionWatch], fun _ => trivial⟩
    | error cause => trivial
  cases duty with
  | cleanUp | provider => exact absurd hmay (by simp [MayAsk])
  | account binding => exact absurd hmay (by simp [MayAsk])
  | nodeGroup own | role own => exact hwaited hmay h
  | controlPlane own =>
    cases wait with
    | true => exact hwaited hmay h
    | false =>
      obtain rfl : stack = own := by simpa [MayAsk] using hmay
      refine Activity.Trace.asked_once h fun reply => ?_
      cases reply <;> trivial

end Duty

/-! ## 3. The leaves of the plan -/

namespace Cluster

variable {c : Cluster} {wait cleanUp : Bool} {groups roles : List Stack} {stack : Stack}

theorem groupsPlan_duties {task : Task} (h : task ∈ (c.groupsPlan cleanUp groups).tasks) :
    ∃ duty : Duty, task = duty.task c wait ∧ duty.stage = 0 := by
  obtain ⟨part, hpart, htask⟩ := Plan.mem_tasksOf.1 h
  obtain ⟨group, -, rfl⟩ := List.mem_map.1 hpart
  unfold nodeGroupPart at htask
  split at htask
  · rcases List.mem_cons.1 htask with rfl | htask
    · exact ⟨.cleanUp group.nodeGroupName, rfl, rfl⟩
    · obtain rfl : task = _ := List.mem_singleton.1 htask
      exact ⟨.nodeGroup group, rfl, rfl⟩
  · obtain rfl : task = _ := List.mem_singleton.1 htask
    exact ⟨.nodeGroup group, rfl, rfl⟩

theorem accountsPlan_duties {task : Task} (h : task ∈ (c.accountsPlan roles).tasks) :
    ∃ duty : Duty, task = duty.task c wait ∧ duty.stage = 1 := by
  obtain ⟨part, hpart, htask⟩ := Plan.mem_tasksOf.1 h
  obtain ⟨role, -, rfl⟩ := List.mem_map.1 hpart
  rcases List.mem_cons.1 htask with rfl | htask
  · exact ⟨.role role, rfl, rfl⟩
  · obtain rfl : task = _ := List.mem_singleton.1 htask
    exact ⟨.account role, rfl, rfl⟩

theorem identityPlan_duties {task : Task} (h : task ∈ (c.identityPlan roles).tasks) :
    ∃ duty : Duty, task = duty.task c wait ∧ (duty.stage = 1 ∨ duty.stage = 2) := by
  rw [identityPlan, Plan.tasks, Plan.tasksOf_append, tasksOf_nestedPart] at h
  rcases List.mem_append.1 h with h | h
  · obtain ⟨duty, hduty, hstage⟩ := accountsPlan_duties h
    exact ⟨duty, hduty, .inl hstage⟩
  · obtain rfl : task = _ := List.mem_singleton.1 h
    exact ⟨.provider, rfl, .inr rfl⟩

theorem controlPlane_duties {task : Task}
    (h : task ∈ Plan.tasksOf [.leaf (c.controlPlaneTask wait stack)]) :
    ∃ duty : Duty, task = duty.task c wait ∧ duty.stage = 3 := by
  obtain rfl : task = _ := List.mem_singleton.1 h
  exact ⟨.controlPlane stack, rfl, rfl⟩

theorem not_mem_of_stage {tasks : List Task} {duty : Duty} {P : Nat → Prop}
    (htasks : ∀ task ∈ tasks, ∃ other : Duty, task = other.task c wait ∧ P other.stage)
    (hstage : ¬ P duty.stage) : duty.task c wait ∉ tasks := by
  intro hmem
  obtain ⟨other, heq, hother⟩ := htasks _ hmem
  exact hstage (Duty.stage_eq heq ▸ hother)

/-- Every leaf is for some duty. -/
theorem wholePlan_duty {p : Place} {task : Task}
    (h : (c.wholePlan wait cleanUp groups roles stack).at? p = some (.leaf task)) :
    ∃ duty : Duty, task = duty.task c wait := by
  have hmem := Plan.mem_tasks_of_at? h
  rw [wholePlan, Plan.tasks, Plan.tasksOf_append, tasksOf_nestedPart] at hmem
  rcases List.mem_append.1 hmem with hmem | hmem
  · obtain ⟨duty, hduty, -⟩ := groupsPlan_duties hmem
    exact ⟨duty, hduty⟩
  · rcases List.mem_append.1 hmem with hmem | hmem
    · obtain ⟨duty, hduty, -⟩ := identityPlan_duties hmem
      exact ⟨duty, hduty⟩
    · obtain ⟨duty, hduty, -⟩ := controlPlane_duties hmem
      exact ⟨duty, hduty⟩

theorem at?_identity {p : Place} {duty : Duty} (hstage : duty.stage = 1 ∨ duty.stage = 2)
    (h : (c.wholePlan wait cleanUp groups roles stack).at? p = some (.leaf (duty.task c wait))) :
    ∃ p', p = (nestedPart (c.groupsPlan cleanUp groups)).length :: p' ∧
      (c.identityPlan roles).at? p' = some (.leaf (duty.task c wait)) := by
  refine Plan.at?_middle h ?_ ?_
  · rw [tasksOf_nestedPart]
    exact not_mem_of_stage (P := (· = 0)) (fun _ => groupsPlan_duties) (by omega)
  · exact not_mem_of_stage (P := (· = 3)) (fun _ => controlPlane_duties) (by omega)

theorem front_duties {task : Task} (h : task ∈ Plan.tasksOf
      (nestedPart (c.groupsPlan cleanUp groups) ++ [c.identityPlan roles])) :
    ∃ duty : Duty, task = duty.task c wait ∧ duty.stage < 3 := by
  rw [Plan.tasksOf_append, tasksOf_nestedPart, Plan.tasksOf, Plan.tasksOf, List.append_nil] at h
  rcases List.mem_append.1 h with h | h
  · obtain ⟨duty, hduty, hstage⟩ := groupsPlan_duties h
    exact ⟨duty, hduty, by omega⟩
  · obtain ⟨duty, hduty, hstage⟩ := identityPlan_duties h
    exact ⟨duty, hduty, by omega⟩

theorem wholePlan_eq : c.wholePlan wait cleanUp groups roles stack = .group .sequential false
    ((nestedPart (c.groupsPlan cleanUp groups) ++ [c.identityPlan roles]) ++
      [.leaf (c.controlPlaneTask wait stack)]) := by
  rw [wholePlan, List.append_assoc]
  rfl

theorem getElem?_wholePlan : (nestedPart (c.groupsPlan cleanUp groups) ++
    [c.identityPlan roles, .leaf (c.controlPlaneTask wait stack)])[(nestedPart
      (c.groupsPlan cleanUp groups)).length]? = some (c.identityPlan roles) := by
  simp

theorem not_mem_provider {duty : Duty} (hstage : duty.stage = 1) :
    duty.task c wait ∉ Plan.tasksOf [.leaf providerTask] := by
  refine not_mem_of_stage (P := (· = 2)) (fun task hmem => ?_) (by omega)
  obtain rfl : task = _ := List.mem_singleton.1 hmem
  exact ⟨.provider, rfl, rfl⟩

theorem precedes_in_identity {p q : Place} {duty other : Duty}
    (hp : (c.identityPlan roles).at? p = some (.leaf (duty.task c wait))) (hduty : duty.stage = 1)
    (hq : (c.identityPlan roles).at? q = some (.leaf (other.task c wait)))
    (hother : other.stage = 2) : (c.identityPlan roles).Precedes p q := by
  have hfront : other.task c wait ∉ Plan.tasksOf (nestedPart (c.accountsPlan roles)) := by
    rw [tasksOf_nestedPart]
    exact not_mem_of_stage (P := (· = 1)) (fun _ => accountsPlan_duties) (by omega)
  exact Plan.precedes_of_not_mem hp (not_mem_provider hduty) hq hfront

/-- **Stages come one after the other**: a leaf of an earlier stage comes before a leaf of a later
one. -/
theorem precedes_of_stage {p q : Place} {duty other : Duty}
    (hp : (c.wholePlan wait cleanUp groups roles stack).at? p = some (.leaf (duty.task c wait)))
    (hq : (c.wholePlan wait cleanUp groups roles stack).at? q = some (.leaf (other.task c wait)))
    (hstage : duty.stage < other.stage) :
    (c.wholePlan wait cleanUp groups roles stack).Precedes p q := by
  have hlast : ∀ d : Duty, d.stage ≤ 3 := by
    intro d
    cases d <;> simp [Duty.stage]
  have hgroups : ∀ task ∈ Plan.tasksOf (nestedPart (c.groupsPlan cleanUp groups)),
      ∃ d : Duty, task = d.task c wait ∧ d.stage = 0 := by
    rw [tasksOf_nestedPart]
    exact fun task => groupsPlan_duties
  by_cases hfirst : duty.stage = 0
  · -- The node groups come before everything else.
    have hback : duty.task c wait ∉ Plan.tasksOf
        [c.identityPlan roles, .leaf (c.controlPlaneTask wait stack)] := by
      refine not_mem_of_stage (P := (0 < ·)) (fun task hmem => ?_) (by omega)
      rcases List.mem_append.1 hmem with hmem | hmem
      · obtain ⟨d, hd, hd'⟩ := identityPlan_duties hmem
        exact ⟨d, hd, by omega⟩
      · obtain ⟨d, hd, hd'⟩ := controlPlane_duties hmem
        exact ⟨d, hd, by omega⟩
    exact Plan.precedes_of_not_mem hp hback hq
      (not_mem_of_stage (P := (· = 0)) hgroups (by omega))
  · by_cases hthird : other.stage = 3
    · -- The control plane comes after everything else.
      rw [wholePlan_eq] at hp hq ⊢
      have hfront : other.task c wait ∉ Plan.tasksOf
          (nestedPart (c.groupsPlan cleanUp groups) ++ [c.identityPlan roles]) :=
        not_mem_of_stage (P := (· < 3)) (fun _ => front_duties) (by omega)
      have hback : duty.task c wait ∉ Plan.tasksOf [.leaf (c.controlPlaneTask wait stack)] :=
        not_mem_of_stage (P := (· = 3)) (fun _ => controlPlane_duties) (by omega)
      exact Plan.precedes_of_not_mem hp hback hq hfront
    · -- What remains are the accounts before the provider, both in the part for the identity.
      have hmiddle : duty.stage = 1 ∧ other.stage = 2 := by
        have := hlast other
        omega
      obtain ⟨p', rfl, hp'⟩ := at?_identity (.inl hmiddle.1) hp
      obtain ⟨q', rfl, hq'⟩ := at?_identity (.inr hmiddle.2) hq
      exact .inside getElem?_wholePlan (precedes_in_identity hp' hmiddle.1 hq' hmiddle.2)

theorem place_of_last {p : Place} {duty : Duty} (hstage : ¬ duty.stage < 3)
    (h : (c.wholePlan wait cleanUp groups roles stack).at? p = some (.leaf (duty.task c wait))) :
    p = [(nestedPart (c.groupsPlan cleanUp groups)).length + 1] := by
  rw [wholePlan_eq] at h
  obtain ⟨p', rfl, hinner⟩ := Plan.at?_middle h
    (not_mem_of_stage (P := (· < 3)) (fun _ => front_duties) hstage) List.not_mem_nil
  rw [List.length_append, List.length_singleton]
  cases p' with
  | nil => rfl
  | cons i p' => exact absurd hinner (by simp [Plan.at?])

/-- Every other leaf comes before the one for the control plane. -/
theorem precedes_controlPlane {p q : Place} {task : Task} {plane : Stack}
    (hp : (c.wholePlan wait cleanUp groups roles stack).at? p = some (.leaf task))
    (hq : (c.wholePlan wait cleanUp groups roles stack).at? q =
      some (.leaf ((Duty.controlPlane plane).task c wait))) (hne : p ≠ q) :
    (c.wholePlan wait cleanUp groups roles stack).Precedes p q := by
  obtain ⟨duty, rfl⟩ := wholePlan_duty hp
  by_cases hstage : duty.stage < 3
  · exact precedes_of_stage hp hq hstage
  · exact absurd ((place_of_last hstage hp).trans
      (place_of_last (by simp [Duty.stage]) hq).symm) hne

/-- The leaf for an account is the second one of its pair. -/
theorem at?_accountPart {place : Place} {own binding : Stack}
    (h : (c.accountPart true own).at? place =
      some (.leaf ((Duty.account binding).task c wait))) :
    place = [1] ∧ own.accountName = binding.accountName := by
  obtain ⟨k, place, part, rfl, hk, hleaf⟩ := Plan.at?_group h
  match k with
  | 0 =>
    obtain rfl := Option.some.inj hk
    cases place with
    | cons i place => exact absurd hleaf (by simp [Plan.at?])
    | nil =>
      have htask : c.roleTask true own = accountTask binding :=
        Plan.leaf.inj (Option.some.inj hleaf)
      have hwork : Work.deleteStack own (some c.wait) = .deleteAccount binding.accountName :=
        congrArg Task.work htask
      exact Work.noConfusion hwork
  | 1 =>
    obtain rfl := Option.some.inj hk
    cases place with
    | cons i place => exact absurd hleaf (by simp [Plan.at?])
    | nil =>
      have htask : accountTask own = accountTask binding :=
        Plan.leaf.inj (Option.some.inj hleaf)
      have hwork : Work.deleteAccount own.accountName = .deleteAccount binding.accountName :=
        congrArg Task.work htask
      exact ⟨rfl, Work.deleteAccount.inj hwork⟩
  | k + 2 => exact absurd hk (by simp)

/-- The leaf for an account is in the first part for the identity, the one for the accounts. -/
theorem at?_accounts {place : Place} {binding : Stack}
    (h : (c.identityPlan roles).at? place = some (.leaf ((Duty.account binding).task c wait))) :
    ∃ rest, place = 0 :: rest ∧
      (nestedPart (c.accountsPlan roles) ++ [.leaf providerTask])[0]? =
        some (.group .parallel true (roles.map (c.accountPart true))) ∧
      (Plan.group .parallel true (roles.map (c.accountPart true))).at? rest =
        some (.leaf ((Duty.account binding).task c wait)) := by
  have hprovider : (Duty.account binding).task c wait ∉ Plan.tasksOf [.leaf providerTask] :=
    not_mem_provider rfl
  unfold identityPlan nestedPart at h
  unfold nestedPart
  split at h
  · -- Without accounts there is only the provider.
    exact absurd (Plan.mem_tasks_of_at? h) hprovider
  · rename_i htasks
    have hmiddle : (Plan.group .sequential true
        ([] ++ (c.accountsPlan roles).asNested :: [.leaf providerTask])).at? place = _ := h
    obtain ⟨rest, rfl, hrest⟩ := Plan.at?_middle hmiddle List.not_mem_nil hprovider
    rw [if_neg htasks]
    exact ⟨rest, rfl, rfl, hrest⟩

/-- **An account goes in a pair**, after the stack of its own role. -/
theorem at?_account {q : Place} {binding : Stack}
    (hq : (c.wholePlan wait cleanUp groups roles stack).at? q =
      some (.leaf ((Duty.account binding).task c wait))) :
    ∃ (pair : Place) (own : Stack), q = pair ++ [1] ∧ own.accountName = binding.accountName ∧
      (c.wholePlan wait cleanUp groups roles stack).at? (pair ++ [0]) =
        some (.leaf ((Duty.role own).task c wait)) ∧
      (c.wholePlan wait cleanUp groups roles stack).Precedes (pair ++ [0]) q := by
  obtain ⟨q', rfl, hidentity⟩ := at?_identity (.inl rfl) hq
  obtain ⟨q', rfl, haccounts, hpairs⟩ := at?_accounts hidentity
  obtain ⟨j, q', _, rfl, hj, hpair⟩ := Plan.at?_group hpairs
  obtain ⟨own, -, rfl⟩ := List.mem_map.1 (List.mem_of_getElem? hj)
  obtain ⟨rfl, hname⟩ := at?_accountPart hpair
  refine ⟨[(nestedPart (c.groupsPlan cleanUp groups)).length, 0, j], own, rfl, hname, ?_, ?_⟩
  · simp only [List.cons_append, List.nil_append]
    rw [wholePlan, Plan.at?_inside getElem?_wholePlan, identityPlan, Plan.at?_inside haccounts,
      Plan.at?_inside hj]
    rfl
  · exact .inside getElem?_wholePlan
      (.inside haccounts (.inside hj (.here Nat.zero_lt_one)))

end Cluster

/-! ## 4. The order -/

section Order

variable {c : Cluster} {wait : Bool} {mayRefuse : Prop} {before : List RunEvent} {p : Place}

theorem Traced.seen {task : Task}
    (h : Traced mayRefuse (.leaf task) passed (under p (work before))) :
    ∃ past, task.action.Trace past (.done (.ok ())) ∧
      (past ++ [Occurrence.ended (.ok ())]).Sublist (occurrencesAt p before) := by
  obtain ⟨past, htrace, hdeeds⟩ := h.passed_leaf
  refine ⟨past, htrace, ?_⟩
  have hbehind := List.sublist_cons_self .began (past ++ [Occurrence.ended (.ok ())])
  rw [← List.cons_append, ← hdeeds] at hbehind
  exact hbehind.trans List.filter_sublist

/-- Where a deletion that is waited for has ended well, the stack was reported gone. -/
theorem Traced.reportedGone {info : String} {stack : Stack}
    (h : Traced mayRefuse (.leaf (c.deletionTask info stack true)) passed (under p (work before))) :
    ReportedGone before p stack := by
  obtain ⟨past, htrace, hseen⟩ := h.seen
  obtain ⟨receipt, answer, hgone, hsublist⟩ := Stack.trace_deleteAndWait htrace
  exact ⟨receipt, answer, hgone, hsublist.trans ((List.sublist_append_left past _).trans hseen)⟩

/-- Where the deletion of an account has ended well, it was granted. -/
theorem Traced.accountDeleted {stack : Stack}
    (h : Traced mayRefuse (.leaf (Cluster.accountTask stack)) passed (under p (work before))) :
    ∃ account, Account.parse stack.accountName = .ok account ∧
      .replied (.deleteAccount account) (.ok ()) ∈ occurrencesAt p before := by
  obtain ⟨past, htrace, hseen⟩ := h.seen
  obtain ⟨account, hparse, hreplied⟩ := Task.trace_deleteAccount htrace
  exact ⟨account, hparse, hseen.subset (List.mem_append_left _ hreplied)⟩

/-- Where the deletion of the provider has ended well, it was granted. -/
theorem Traced.providerDeleted
    (h : Traced mayRefuse (.leaf Cluster.providerTask) passed (under p (work before))) :
    .replied .deleteProvider (.ok ()) ∈ occurrencesAt p before := by
  obtain ⟨past, htrace, hseen⟩ := h.seen
  exact hseen.subset (List.mem_append_left _ (Task.trace_deleteProvider htrace))

/-- Where a leaf has ended well, its end was seen. -/
theorem Traced.ended {task : Task}
    (h : Traced mayRefuse (.leaf task) passed (under p (work before))) :
    .ended (.ok ()) ∈ occurrencesAt p before := by
  obtain ⟨past, -, hseen⟩ := h.seen
  exact hseen.subset (List.mem_append_right _ (List.mem_singleton_self _))

end Order

/-- What comes second and then no more has not come before it comes. -/
theorem not_mem_before {β : Type} {xs ys zs : List β} {a b : β} (h : xs ++ a :: ys = b :: a :: zs)
    (hne : a ≠ b) (hnone : a ∉ zs) : a ∉ xs := by
  cases xs with
  | nil => exact List.not_mem_nil
  | cons x xs =>
    obtain ⟨rfl, htail⟩ := List.cons.inj h
    cases xs with
    | nil => simpa using hne
    | cons y xs =>
      obtain ⟨-, htail⟩ := List.cons.inj htail
      exact absurd (htail ▸ List.mem_append_right _ List.mem_cons_self) hnone

/-- The deletion of a stack is asked for at most once at the leaf for a duty. -/
theorem Traced.asked_first {c : Cluster} {wait : Bool} {duty : Duty} {mayRefuse : Prop}
    {plan : Plan Task} {run : Run} {before after : List RunEvent} {place : Place} {stack : Stack}
    (h : Traced mayRefuse plan run
      (work (before ++ ⟨place, .asked (.deleteStack stack)⟩ :: after)))
    (hduty : plan.at? place = some (.leaf (duty.task c wait))) :
    .asked (.deleteStack stack) ∉ occurrencesAt place before := by
  intro hbefore
  have hasked : ⟨place, .asked (.deleteStack stack)⟩ ∈
      work (before ++ ⟨place, .asked (.deleteStack stack)⟩ :: after) :=
    mem_work.2 ⟨List.mem_append_right _ List.mem_cons_self, rfl⟩
  obtain ⟨task, past, ending, thread, hleaf, htrace, hpast, hunder, hending⟩ := h.asked_at hasked
  obtain rfl : task = duty.task c wait :=
    Plan.leaf.inj (Option.some.inj (hleaf.symm.trans hduty))
  obtain ⟨rest, rfl, hrest⟩ := Duty.asked_once htrace hpast
  have hdeeds := deeds_occurrencesAt hunder
  rw [occurrencesAt_append, deeds_append, occurrencesAt_cons_self, deeds_asked] at hdeeds
  have hnone : .asked (.deleteStack stack) ∉ rest ++ ending := by
    intro hmem
    rcases List.mem_append.1 hmem with hmem | hmem
    · exact hrest hmem
    · obtain ⟨outcome, houtcome⟩ := hending _ hmem
      exact absurd houtcome (by simp)
  have hmem : .asked (.deleteStack stack) ∈ deeds (occurrencesAt place before) :=
    List.mem_filter.2 ⟨hbefore, rfl⟩
  exact not_mem_before hdeeds (by simp) hnone hmem

/-- What has happened before something is asked for at the leaf for a duty, and what does not happen
after it. -/
structure Prepared (c : Cluster) (wait : Bool) (plan : Plan Task) (before after : List RunEvent)
    (place : Place) (request : Request) (duty : Duty) : Prop where
  /-- Beyond the node groups: every stack of a node group is gone. -/
  nodeGroups : duty.stage ≠ 0 → ∀ p stack,
    plan.at? p = some (.leaf ((Duty.nodeGroup stack).task c wait)) → ReportedGone before p stack
  /-- For an account: the stack of its own role, the first part of the same pair, is gone. -/
  role : ∀ binding, duty = .account binding → ∃ pair own, place = pair ++ [1] ∧
    own.accountName = binding.accountName ∧
    plan.at? (pair ++ [0]) = some (.leaf ((Duty.role own).task c wait)) ∧
    ReportedGone before (pair ++ [0]) own
  /-- For the provider: every role stack is gone. -/
  roles : duty = .provider → ∀ p stack,
    plan.at? p = some (.leaf ((Duty.role stack).task c wait)) → ReportedGone before p stack
  /-- For the provider: the deletion of every account was granted. -/
  accounts : duty = .provider → ∀ p stack,
    plan.at? p = some (.leaf ((Duty.account stack).task c wait)) →
    ∃ account, Account.parse stack.accountName = .ok account ∧
      .replied (.deleteAccount account) (.ok ()) ∈ occurrencesAt p before
  /-- For the control plane: the deletion of the provider was granted. -/
  provider : ∀ stack, duty = .controlPlane stack → ∀ p,
    plan.at? p = some (.leaf (Duty.provider.task c wait)) →
    .replied .deleteProvider (.ok ()) ∈ occurrencesAt p before
  /-- For the control plane: every other leaf has ended well, and does nothing from then on. -/
  others : ∀ stack, duty = .controlPlane stack → ∀ p task, p ≠ place →
    plan.at? p = some (.leaf task) →
    .ended (.ok ()) ∈ occurrencesAt p before ∧ deeds (occurrencesAt p after) = []
  /-- The deletion of a stack is asked for once. -/
  once : ∀ stack, request = .deleteStack stack →
    .asked (.deleteStack stack) ∉ occurrencesAt place before

/-- **The order of a teardown.**  In any run of the plan for a whole cluster, whatever is asked for
is asked for by a leaf that has a duty, within this duty, and only when all that has to come before
the duty has come. -/
theorem teardown_order {c : Cluster} {wait cleanUp : Bool}
    {answer : (q : Request) → Except Fault q.Answer} {records : List Record} {plan : Plan Task}
    (hplan : (c.deleteAll wait cleanUp).answered answer = (records, some (.ok plan)))
    {now : Moment} {cancelled : Bool} {moves : List (Move Request Request.Answer)}
    {entries : List (Entry Request Request.Answer)} {s : Situation Run}
    (hrun : (Run.about plan now cancelled).follow Run.process moves = some (entries, s))
    {before after : List RunEvent} {place : Place} {request : Request}
    (hasked : happened entries = before ++ ⟨place, .asked request⟩ :: after) :
    (∀ p task, plan.at? p = some (.leaf task) → ∃ duty : Duty, task = duty.task c wait) ∧
    (∃ duty : Duty, plan.at? place = some (.leaf (duty.task c wait)) ∧ duty.MayAsk request) ∧
    ∀ duty : Duty, plan.at? place = some (.leaf (duty.task c wait)) →
      Prepared c wait plan before after place request duty := by
  obtain ⟨groups, roles, stack, -, -, -, rfl⟩ := Cluster.deleteAll_eq (congrArg Prod.snd hplan)
  have htraced := traced_follow hrun
  have hsplit : work (happened entries) =
      work before ++ ⟨place, .asked request⟩ :: work after := by
    rw [hasked, work_append]
    rfl
  rw [hsplit] at htraced
  obtain ⟨task, past, _, thread, hleaf, htrace, hpast, -, -⟩ :=
    htraced.asked_at (List.mem_append_right _ List.mem_cons_self)
  refine ⟨fun p task hp => Cluster.wholePlan_duty hp, ?_, fun duty hduty => ?_⟩
  · obtain ⟨duty, rfl⟩ := Cluster.wholePlan_duty hleaf
    exact ⟨duty, hleaf, htrace.of_only (Duty.only_mayAsk c wait duty) hpast⟩
  · -- What comes in an earlier stage has ended well before the request.
    have hearlier : ∀ {p : Place} {other : Duty},
        (c.wholePlan wait cleanUp groups roles stack).at? p = some (.leaf (other.task c wait)) →
        other.stage < duty.stage →
        Traced (s.cancelled = true) (.leaf (other.task c wait)) passed (under p (work before)) :=
      fun hp hstage =>
        (htraced.passed_before (Cluster.precedes_of_stage hp hduty hstage) rfl hp).1
    exact {
      nodeGroups := fun hstage p group hp => by
        have hbefore := hearlier hp (Nat.pos_of_ne_zero hstage)
        exact hbefore.reportedGone
      role := fun binding heq => by
        subst heq
        obtain ⟨pair, own, rfl, hname, hrole, hprec⟩ := Cluster.at?_account hduty
        have hbefore := (htraced.passed_before hprec rfl hrole).1
        exact ⟨pair, own, rfl, hname, hrole, hbefore.reportedGone⟩
      roles := fun heq p role hp => by
        subst heq
        have hbefore := hearlier hp (Nat.lt_succ_self 1)
        exact hbefore.reportedGone
      accounts := fun heq p role hp => by
        subst heq
        have hbefore := hearlier hp (Nat.lt_succ_self 1)
        exact hbefore.accountDeleted
      provider := fun plane heq p hp => by
        subst heq
        have hbefore := hearlier hp (Nat.lt_succ_self 2)
        exact hbefore.providerDeleted
      others := fun plane heq p task hne hp => by
        subst heq
        obtain ⟨hbefore, hafter⟩ :=
          htraced.passed_before (Cluster.precedes_controlPlane hp hduty hne) rfl hp
        refine ⟨hbefore.ended, ?_⟩
        have hnone : under p (work after) = eventsHere [] := by
          have happ := under_append p [⟨place, .asked request⟩] (work after)
          rw [List.singleton_append, hafter] at happ
          exact (List.append_eq_nil_iff.1 happ.symm).2
        exact deeds_occurrencesAt hnone
      once := fun deleted heq => by
        subst heq
        rw [← hsplit, hasked] at htraced
        exact htraced.asked_first hduty }

/-! ## 5. A run to the last request -/

namespace Sample

/-- A cluster with one node group and an identity provider. -/
def cluster : Cluster := ⟨"demo", .standard⟩

def workers : Stack := .plain "strata-demo-nodegroup-workers" .nodeGroup .createComplete

def controlPlane : Stack := .plain (clusterStackName "demo") .cluster .createComplete

/-- A role stack without the tag that names its account. -/
def untagged : Stack :=
  .plain (accountStackName "demo" ⟨"default", "app"⟩) .serviceAccount .createComplete

/-- The same stack with the tag. -/
def tagged : Stack := untagged.withTag accountNameTag (Account.text ⟨"default", "app"⟩)

/-- A remote side that knows the first two of these stacks and grants everything. -/
def answer : (request : Request) → Except Fault request.Answer
  | .describeStacks _ .nodeGroup => .ok [workers]
  | .describeStacks _ .serviceAccount => .ok []
  | .describeStacks _ .cluster => .ok [controlPlane]
  | .describeStack _ => .ok none
  | .deleteStack stack => .ok ⟨stack.name, "accepted"⟩
  | .providerExists => .ok true
  | .deleteProvider | .connect | .deleteAccount _ | .cleanUp _ | .perform .. => .ok ()

/-- A remote side that knows some role stacks as well. -/
def roleAnswer (roles : List Stack) : (request : Request) → Except Fault request.Answer
  | .describeStacks _ .serviceAccount => .ok roles
  | request => answer request

/-- The plan for the cluster with a service account. -/
def wholePlan : Plan Task := cluster.wholePlan true false [workers] [tagged] controlPlane

def answered (place : Place) : Move Request Request.Answer :=
  .resume place (.reply fun request => .ofExcept (answer request)) 1

/-- From the start to the request for the control plane: the node group, the role, the account and the
provider are deleted one after the other. -/
def wholeMoves : List (Move Request Request.Answer) :=
  [.resume [] .start 1, .resume [0, 0] .start 1, answered [0, 0], answered [0, 0],
   .resume [0] .settle 1, .resume [1, 0, 0] .start 1, answered [1, 0, 0, 0],
   answered [1, 0, 0, 0], answered [1, 0, 0, 1], answered [1, 0, 0, 1], .resume [1, 0] .settle 1,
   answered [1, 1]]

/-- What the moves lead to. -/
def wholeRun : Option (List (Entry Request Request.Answer) × Situation Run) :=
  (Run.about wholePlan ⟨0⟩ false).follow Run.process wholeMoves

def wholeEvents : List RunEvent := (wholeRun.map fun reached => happened reached.1).getD []

/-- What happens before the event with a number. -/
def before (k : Nat) : List RunEvent := wholeEvents.take k

/-- What happens after the event with a number. -/
def after (k : Nat) : List RunEvent := wholeEvents.drop (k + 1)

/-- The request that is made in an event, and where. -/
def asked? (e : RunEvent) : Option (Place × Request) :=
  match e.occurrence with
  | .asked request => some (e.place, request)
  | _ => none

theorem eq_of_asked? {e : RunEvent} {place : Place} {request : Request}
    (h : asked? e = some (place, request)) : e = ⟨place, .asked request⟩ := by
  unfold asked? at h
  split at h
  · rename_i made hmade
    obtain ⟨rfl, rfl⟩ := Prod.mk.inj (Option.some.inj h)
    rw [← hmade]
  · exact absurd h (by simp)

/-- A request with a number, between what happens before it and after it. -/
theorem wholeEvents_eq {k : Nat} {place : Place} {request : Request}
    (h : wholeEvents[k]?.bind asked? = some (place, request)) :
    wholeEvents = before k ++ ⟨place, .asked request⟩ :: after k := by
  obtain ⟨e, he, hasked⟩ := Option.bind_eq_some_iff.1 h
  obtain ⟨hlt, rfl⟩ := List.getElem?_eq_some_iff.1 he
  rw [← eq_of_asked? hasked, before, after, ← List.drop_eq_getElem_cons hlt, List.take_append_drop]

end Sample

/-- The order on the way to the last request, as it stands when the account, the provider and the control
plane are asked for. -/
theorem teardown_order_of_sample :
    Prepared Sample.cluster true Sample.wholePlan (Sample.before 32) (Sample.after 32) [1, 0, 0, 1]
      (.deleteAccount ⟨"default", "app"⟩) (.account Sample.tagged) ∧
    Prepared Sample.cluster true Sample.wholePlan (Sample.before 41) (Sample.after 41) [1, 1]
      .deleteProvider .provider ∧
    Prepared Sample.cluster true Sample.wholePlan (Sample.before 48) (Sample.after 48) [2]
      (.deleteStack Sample.controlPlane) (.controlPlane Sample.controlPlane) := by
  have hplan : (Sample.cluster.deleteAll true false).answered (Sample.roleAnswer [Sample.tagged]) =
      (((Sample.cluster.deleteAll true false).answered (Sample.roleAnswer [Sample.tagged])).1,
        some (.ok Sample.wholePlan)) := rfl
  have hreached : Sample.wholeRun.isSome = true := by decide +kernel
  obtain ⟨⟨entries, s⟩, hrun⟩ := Option.isSome_iff_exists.1 hreached
  have hevents : happened entries = Sample.wholeEvents := by
    rw [Sample.wholeEvents, hrun]
    rfl
  have haccount := hevents.trans (Sample.wholeEvents_eq
    (by decide +kernel : Sample.wholeEvents[32]?.bind Sample.asked? =
      some ([1, 0, 0, 1], .deleteAccount ⟨"default", "app"⟩)))
  have hprovider := hevents.trans (Sample.wholeEvents_eq
    (by decide +kernel : Sample.wholeEvents[41]?.bind Sample.asked? = some ([1, 1], .deleteProvider)))
  have hplane := hevents.trans (Sample.wholeEvents_eq
    (by decide +kernel : Sample.wholeEvents[48]?.bind Sample.asked? =
      some ([2], .deleteStack Sample.controlPlane)))
  exact ⟨(teardown_order hplan hrun haccount).2.2 (.account Sample.tagged) rfl,
    (teardown_order hplan hrun hprovider).2.2 .provider rfl,
    (teardown_order hplan hrun hplane).2.2 (.controlPlane Sample.controlPlane) rfl⟩

end Teardown
