/-
# Trying a teardown again

A teardown that failed with a retryable fault can be planned anew, but not in every case.  The
plan for a cluster presupposes its identity provider, and the provider goes before the control
plane.  So if it was the deletion of the control plane that failed, the second plan is refused,
whatever made the first one fail; and in every other case it is not (`second_plan_refused_iff`).

A failed sequential group has a part at which it stopped: the parts before it have ended well, in
those after it nothing has happened (`Traced.stopped_at`).  For a whole teardown this part tells
whether the provider is gone, since its deletion is the last thing in the part for the identity
(`Traced.identity_passed_iff`).

* §1  where a sequential group stopped.  Retryable faults come from a part and not from the group,
      which refuses only when it is cancelled (`Fault.ne_cancelled`).
* §2  the provider is gone exactly if the part for the identity has ended well.
* §3  the second plan.  Two runs follow: one that is stuck at a node group and has a second plan,
      and one that is stuck at the control plane and has none.

Of the remote side between the two plans only so much is assumed: the stacks can be listed, and
the question for the provider is answered by whether its deletion was granted (`Afterwards`).
-/
import Teardown.Proofs.Conversations
import Teardown.Proofs.TeardownOrder

namespace Teardown

open Run

/-! ## 1. Where a sequential group stopped -/

theorem Fault.ne_cancelled {cause : Fault} (h : cause.isRetryable = true) (context : String) :
    cause ≠ .cancelled context := by
  rintro rfl
  exact absurd h (by simp [Fault.isRetryable])

section Stopped

variable {mayRefuse : Prop} {plans : List (Plan Task)} {parts : List Run} {run : Run}
  {events own : List RunEvent}

/-- A sequential group that has failed with a retryable fault stopped at a part that has. -/
theorem Stands.stopped_at {cause : Fault}
    (h : Stands mayRefuse .sequential parts (.closed (.fault cause)) own)
    (hcause : cause.isRetryable = true) :
    ∃ (index : Nat) (rest : List (Plan Task)),
      parts = List.replicate index passed ++ .closed (.fault cause) :: rest.map .waiting := by
  generalize hrun : Run.closed (.fault cause) = run at h
  generalize hmode : Mode.sequential = mode at h
  cases h with
  | underWay | done | apart => exact absurd hrun (by simp)
  | settled => exact absurd hmode (by simp)
  | refused index rest =>
    have hcancelled : cause = .cancelled "sequential task tree" :=
      Outcome.fault.inj (Run.closed.inj hrun)
    exact absurd hcancelled (Fault.ne_cancelled hcause _)
  | stopped index outcome rest =>
    obtain rfl := Run.closed.inj hrun
    exact ⟨index, rest, rfl⟩

/-- **Where a sequential group stopped.**  The part there has failed with the fault of the group, the
parts before it have ended well, and in those after it nothing has happened. -/
theorem Traced.stopped_at {nested : Bool} {cause : Fault}
    (h : Traced mayRefuse (.group .sequential nested plans) (.closed (.fault cause)) events)
    (hcause : cause.isRetryable = true) :
    ∃ index, index < plans.length ∧ ∀ (i : Nat) (plan : Plan Task), plans[i]? = some plan →
      (i < index → Traced mayRefuse plan passed (within i events)) ∧
      (i = index → Traced mayRefuse plan (.closed (.fault cause)) (within i events)) ∧
      (index < i → within i events = []) := by
  cases h with
  | @group _ _ _ parts _ events own hlen hparts hplaces horder hstands =>
    obtain ⟨index, rest, rfl⟩ := hstands.stopped_at hcause
    have hlength : index < plans.length := by
      rw [← hlen, List.length_append, List.length_replicate, List.length_cons]
      omega
    refine ⟨index, hlength, fun i plan hplan => ?_⟩
    have htraced := hstands.traced_parts hparts i plan
    refine ⟨fun hi => htraced passed hplan ?_, fun hi => htraced _ hplan ?_, fun hi => ?_⟩
    · rw [List.getElem?_append_left (by simpa using hi), List.getElem?_replicate, if_pos hi]
    · simp [hi]
    · obtain ⟨part, hpart⟩ := exists_getElem?_of_length_eq hlen.symm hplan
      obtain ⟨plan', rfl⟩ : ∃ plan', part = .waiting plan' := by
        rw [List.getElem?_append_right (by simpa using Nat.le_of_lt hi), List.length_replicate,
          show i - index = (i - index - 1) + 1 by omega, List.getElem?_cons_succ] at hpart
        obtain ⟨plan', -, heq⟩ := List.mem_map.1 (List.mem_of_getElem? hpart)
        exact ⟨plan', heq.symm⟩
      exact (htraced _ hplan hpart).of_waiting.2

/-- A sequential group has ended well once its last part has. -/
theorem Stands.passed_of_last (h : Stands mayRefuse .sequential parts run own)
    (hlast : parts.getLast? = some passed) : run = passed := by
  have hwaiting : ∀ (front : List Run) (rest : List (Plan Task)), rest ≠ [] →
      (front ++ rest.map Run.waiting).getLast? ≠ some passed := by
    intro front rest hrest
    obtain ⟨init, last, rfl⟩ := List.eq_nil_or_concat rest |>.resolve_left hrest
    simp [← List.append_assoc]
  have hcurrent : ∀ (index : Nat) (current : Run) (rest : List (Plan Task)), current ≠ passed →
      (List.replicate index passed ++ current :: rest.map Run.waiting).getLast? ≠ some passed := by
    intro index current rest hne
    cases rest with
    | nil => simpa using hne
    | cons plan rest =>
      have hmore := hwaiting (List.replicate index passed ++ [current]) (plan :: rest) (by simp)
      rwa [List.append_assoc] at hmore
  generalize hmode : Mode.sequential = mode at h
  cases h with
  | apart | settled => exact absurd hmode (by simp)
  | done => rfl
  | underWay index current rest hopen =>
    refine absurd hlast (hcurrent index current rest ?_)
    rintro rfl
    exact absurd hopen (by simp [Run.outcome?])
  | refused index rest _ hrest => exact absurd hlast (hwaiting _ rest hrest)
  | stopped index outcome rest hstop =>
    refine absurd hlast (hcurrent index (.closed outcome) rest fun hpassed => ?_)
    rw [Run.closed.inj hpassed] at hstop
    exact absurd hstop (by simp [Outcome.isOk])

end Stopped

/-! ## 2. The provider -/

/-- The deletion of the identity provider was granted. -/
def ProviderDeleted (events : List RunEvent) : Prop :=
  ∃ place, ⟨place, .replied .deleteProvider (.ok ())⟩ ∈ events

/-- A single request that was granted is done. -/
theorem Activity.Trace.request_granted {R : Type} {A : R → Type} {request : R}
    {past : List (Occurrence R A)} {thread : Thread R A (A request)}
    (h : (Activity.request request).Trace past thread) {value : A request}
    (hgranted : .replied request (.ok value) ∈ past) : thread = .done (.ok value) := by
  cases h with
  | asking => exact absurd hgranted (by simp)
  | broken text => exact absurd hgranted (by simp)
  | granted seen hmore =>
    obtain ⟨rfl, rfl⟩ := hmore.of_finish
    obtain rfl : value = seen := by simpa using hgranted
    rfl
  | refused cause hmore =>
    obtain ⟨rfl, -⟩ := hmore.of_finish
    exact absurd hgranted (by simp)

section Provider

variable {c : Cluster} {wait cleanUp : Bool} {groups roles : List Stack} {stack : Stack}
  {mayRefuse : Prop} {run : Run} {events : List RunEvent}

theorem Traced.provider_passed (h : Traced mayRefuse (.leaf Cluster.providerTask) run events)
    (hgranted : ⟨[], .replied .deleteProvider (.ok ())⟩ ∈ events) : run = passed := by
  cases h with
  | waiting => exact absurd hgranted List.not_mem_nil
  | refused => exact absurd hgranted (by simp [eventsHere])
  | @working _ past thread htrace hopen =>
    have hpast : .replied .deleteProvider (.ok ()) ∈ past := by
      simpa [eventsHere] using hgranted
    rw [Activity.Trace.request_granted htrace hpast] at hopen
    exact absurd hopen (by simp [Thread.outcome?])
  | @finished _ past outcome htrace =>
    have hpast : .replied .deleteProvider (.ok ()) ∈ past := by
      simpa [eventsHere] using hgranted
    have hdone := Activity.Trace.request_granted htrace hpast
    exact congrArg Run.closed (Thread.done.inj hdone)

/-- The task for the provider is the last one in the part for the identity. -/
theorem Cluster.at?_provider (c : Cluster) (roles : List Stack) :
    (c.identityPlan roles).at? [(nestedPart (c.accountsPlan roles)).length] =
      some (.leaf providerTask) := by
  simp [identityPlan, Plan.at?]

/-- **The part for the identity has ended well exactly if the provider is gone.** -/
theorem Traced.identity_passed_iff (h : Traced mayRefuse (c.identityPlan roles) run events) :
    run = passed ↔ ∃ place,
      (c.identityPlan roles).at? place = some (.leaf Cluster.providerTask) ∧
      ⟨place, .replied .deleteProvider (.ok ())⟩ ∈ events := by
  constructor
  · rintro rfl
    have hleaf := Cluster.at?_provider c roles
    obtain ⟨past, htrace, hunder⟩ := (h.passed_at? hleaf).leaf_passed
    refine ⟨_, hleaf, ?_⟩
    have hgranted : .replied .deleteProvider (.ok ()) ∈ .began :: past :=
      List.mem_cons_of_mem _ (Task.trace_deleteProvider htrace)
    have hmem : ⟨[], .replied .deleteProvider (.ok ())⟩ ∈
        under [(Cluster.nestedPart (c.accountsPlan roles)).length] events := by
      rw [hunder]
      exact List.mem_map_of_mem (List.mem_append_left _ hgranted)
    exact mem_under.1 hmem
  · rintro ⟨place, hleaf, hgranted⟩
    have hfront : Cluster.providerTask ∉
        Plan.tasksOf (Cluster.nestedPart (c.accountsPlan roles)) := by
      rw [Cluster.tasksOf_nestedPart]
      have hstage : Duty.provider.task c true ∉ (c.accountsPlan roles).tasks :=
        Cluster.not_mem_of_stage (P := (· = 1)) (fun _ => Cluster.accountsPlan_duties)
          (by simp [Duty.stage])
      exact hstage
    obtain ⟨place, rfl, hinner⟩ := Plan.at?_middle hleaf hfront List.not_mem_nil
    obtain rfl : place = [] := by
      cases place with
      | nil => rfl
      | cons i place => exact absurd hinner (by simp [Plan.at?])
    unfold Cluster.identityPlan at h
    cases h with
    | waiting => exact absurd hgranted List.not_mem_nil
    | @group _ _ _ parts _ events own hlen hparts hplaces horder hstands =>
      have hplan : (Cluster.nestedPart (c.accountsPlan roles) ++ [.leaf Cluster.providerTask])[
          (Cluster.nestedPart (c.accountsPlan roles)).length]? =
            some (.leaf Cluster.providerTask) := by
        simp
      obtain ⟨part, hpart⟩ := exists_getElem?_of_length_eq hlen.symm hplan
      obtain rfl := (hstands.traced_parts hparts _ _ part hplan hpart).provider_passed
        (mem_within.2 hgranted)
      refine hstands.passed_of_last ?_
      rw [List.getLast?_eq_getElem?, hlen, List.length_append, List.length_singleton,
        Nat.add_sub_cancel]
      exact hpart

end Provider

/-! ## 3. A second attempt -/

/-- The deletion of the control plane has failed with a given fault. -/
def ControlPlaneFailed (c : Cluster) (wait : Bool) (plan : Plan Task) (events : List RunEvent)
    (cause : Fault) : Prop :=
  ∃ place stack, plan.at? place = some (.leaf (c.controlPlaneTask wait stack)) ∧
    ⟨place, .ended (.fault cause)⟩ ∈ events

/-- What is found after some events: all stacks can be listed, and the provider is still there
unless its deletion was granted. -/
structure Afterwards (c : Cluster) (events : List RunEvent)
    (answer : (q : Request) → Except Fault q.Answer) : Prop where
  described : ∀ kind, ∃ listing : List Stack, answer (.describeStacks c.name kind) = .ok listing
  provider : ProviderDeleted events ∧ answer .providerExists = .ok false ∨
    ¬ ProviderDeleted events ∧ answer .providerExists = .ok true

section Second

variable {c : Cluster} {wait cleanUp : Bool} {groups roles : List Stack} {stack : Stack}
  {mayRefuse : Prop} {events : List RunEvent} {cause : Fault}

/-- The deletion of the provider is granted at the task for it. -/
theorem Traced.provider_at {run : Run}
    (h : Traced mayRefuse (c.wholePlan wait cleanUp groups roles stack) run (work events))
    {place : Place} (hgranted : ⟨place, .replied .deleteProvider (.ok ())⟩ ∈ events) :
    ∃ place', place = (Cluster.nestedPart (c.groupsPlan cleanUp groups)).length :: place' ∧
      (c.identityPlan roles).at? place' = some (.leaf Cluster.providerTask) := by
  have hasked := h.asked_of_replied (mem_work.2 ⟨hgranted, rfl⟩)
  obtain ⟨task, past, _, thread, hleaf, htrace, hpast, -, -⟩ := h.asked_at hasked
  obtain ⟨duty, rfl⟩ := Cluster.wholePlan_duty hleaf
  have hmay := htrace.of_only (Duty.only_mayAsk c wait duty) hpast
  cases duty with
  | provider => exact Cluster.at?_identity (.inr rfl) hleaf
  | cleanUp | nodeGroup | role | account | controlPlane => exact absurd hmay (by simp [Duty.MayAsk])

/-- **The provider is gone exactly if the control plane is what failed.** -/
theorem Traced.providerDeleted_iff
    (h : Traced mayRefuse (c.wholePlan wait cleanUp groups roles stack) (.closed (.fault cause))
      (work events)) (hcause : cause.isRetryable = true) :
    ProviderDeleted events ↔
      ControlPlaneFailed c wait (c.wholePlan wait cleanUp groups roles stack) events cause := by
  obtain ⟨index, hindex, hstopped⟩ := h.stopped_at hcause
  have hidentity := hstopped (Cluster.nestedPart (c.groupsPlan cleanUp groups)).length
    (c.identityPlan roles) Cluster.getElem?_wholePlan
  have hplane := hstopped ((Cluster.nestedPart (c.groupsPlan cleanUp groups)).length + 1)
    (.leaf (c.controlPlaneTask wait stack)) (by simp)
  rw [List.length_append, List.length_cons, List.length_singleton] at hindex
  constructor
  · rintro ⟨place, hgranted⟩
    obtain ⟨place, rfl, hleaf⟩ := h.provider_at hgranted
    have hseen : ⟨place, .replied .deleteProvider (.ok ())⟩ ∈
        within (Cluster.nestedPart (c.groupsPlan cleanUp groups)).length (work events) :=
      mem_within.2 (mem_work.2 ⟨hgranted, rfl⟩)
    rcases Nat.lt_trichotomy (Cluster.nestedPart (c.groupsPlan cleanUp groups)).length index with
      hlt | heq | hgt
    · have hfailed := hplane.2.1 (by omega)
      have hended := mem_within.1 (hfailed.ended_iff.2 rfl)
      exact ⟨_, stack, Cluster.at?_controlPlane, (mem_work.1 hended).1⟩
    · have hclosed := (hidentity.2.1 heq).identity_passed_iff.2 ⟨place, hleaf, hseen⟩
      exact absurd hclosed (by simp)
    · rw [hidentity.2.2 hgt] at hseen
      exact absurd hseen List.not_mem_nil
  · rintro ⟨place, plane, hleaf, hended⟩
    have hduty : (c.wholePlan wait cleanUp groups roles stack).at? place =
        some (.leaf ((Duty.controlPlane plane).task c wait)) := hleaf
    obtain rfl := Cluster.place_of_last (by simp [Duty.stage]) hduty
    have hlast : ¬ index < (Cluster.nestedPart (c.groupsPlan cleanUp groups)).length + 1 := by
      intro hlt
      have hnone := hplane.2.2 hlt
      have hseen : ⟨[], .ended (.fault cause)⟩ ∈
          within ((Cluster.nestedPart (c.groupsPlan cleanUp groups)).length + 1) (work events) :=
        mem_within.2 (mem_work.2 ⟨hended, rfl⟩)
      rw [hnone] at hseen
      exact absurd hseen List.not_mem_nil
    obtain ⟨place, -, hgranted⟩ := (hidentity.1 (by omega)).identity_passed_iff.1 rfl
    exact ⟨_, (mem_work.1 (mem_within.1 hgranted)).1⟩

/-- **A second plan** after a retryable failure is refused for want of the provider exactly if it was
the deletion of the control plane that failed.  In every other case there is a plan, unless the
control plane is not listed any more. -/
theorem second_plan_refused_iff {answer answer' : (q : Request) → Except Fault q.Answer}
    {records : List Record} {plan : Plan Task}
    (hplan : (c.deleteAll wait cleanUp).answered answer = (records, some (.ok plan)))
    {start : Conditions} {moves : List (Move Request Request.Answer)}
    {entries : List (Entry Request Request.Answer)} {s : Situation Execution}
    (hrun : (Execution.about plan start).2.follow Execution.process moves = some (entries, s))
    (hfailed : s.state.outcome? = some (.fault cause)) (hcause : cause.isRetryable = true)
    (hafter : Afterwards c (happened ((Execution.about plan start).1 ++ entries)) answer')
    (wait' cleanUp' : Bool) :
    ((∃ message, ((c.deleteAll wait' cleanUp').answered answer').2 =
        some (.fault (.precondition message))) ↔
      ControlPlaneFailed c wait plan (happened ((Execution.about plan start).1 ++ entries)) cause) ∧
    (¬ ControlPlaneFailed c wait plan (happened ((Execution.about plan start).1 ++ entries)) cause →
      (∃ plan', ((c.deleteAll wait' cleanUp').answered answer').2 = some (.ok plan')) ∨
      ((c.deleteAll wait' cleanUp').answered answer').2 =
        some (.fault (.notFound "stack" (clusterStackName c.name)))) := by
  obtain ⟨groups, roles, stack, -, -, -, rfl⟩ := Cluster.deleteAll_eq (congrArg Prod.snd hplan)
  have htraced := traced_execution Cluster.wholePlan_isEmpty hrun
  rw [Run.outcome?_eq_some_iff.1 hfailed] at htraced
  rw [← htraced.providerDeleted_iff hcause]
  rcases hafter.provider with ⟨hgone, hexists⟩ | ⟨hkept, hexists⟩
  · have hrefused := Cluster.deleteAll_refused wait' cleanUp' (hafter.described .nodeGroup) hexists
    exact ⟨⟨fun _ => hgone, fun _ => ⟨_, hrefused⟩⟩, fun hnot => absurd hgone hnot⟩
  · have hplanned := Cluster.deleteAll_planned wait' cleanUp' hafter.described hexists
    refine ⟨⟨fun ⟨message, hrefused⟩ => ?_, fun hgone => absurd hgone hkept⟩, fun _ => hplanned⟩
    rcases hplanned with ⟨plan', hsome⟩ | hsome
    · exact absurd (hsome.symm.trans hrefused) (by simp)
    · exact absurd (hsome.symm.trans hrefused) (by simp)

end Second

namespace Sample

def plan : Plan Task := cluster.wholePlan true false [workers] [] controlPlane

def moves : List (Move Request Request.Answer) :=
  [.resume [] .start 1, .resume [0, 0] .start 1, answered [0, 0], answered [0, 0],
   .resume [0] .settle 1, answered [1, 0]]

def throttled (place : Place) : Move Request Request.Answer :=
  .resume place (.reply fun _ => .fault (.stackApi "demo" "throttled")) 1

def stuckMoves : List (Move Request Request.Answer) :=
  [.resume [0, 0] .start 1, throttled [0, 0], .resume [0] .settle 1]

def lateMoves : List (Move Request Request.Answer) := moves.tail ++ [throttled [2]]

/-- What some moves lead to when the plan for the cluster is carried out. -/
def attempt (moves : List (Move Request Request.Answer)) :
    Option (List (Entry Request Request.Answer) × Situation Execution) :=
  (Execution.about plan ⟨⟨0⟩, false, 1⟩).2.follow Execution.process moves

/-- The work among all that happens in them. -/
def attemptWork (entries : List (Entry Request Request.Answer)) : List RunEvent :=
  work (happened ((Execution.about plan ⟨⟨0⟩, false, 1⟩).1 ++ entries))

/-- The stack whose deletion was accepted. -/
def deletion? (e : RunEvent) : Option Stack :=
  match e.occurrence with
  | .replied (.deleteStack stack) (.ok _) => some stack
  | _ => none

/-- A remote side that knows nothing but the control plane any more. -/
def leftover : (request : Request) → Except Fault request.Answer
  | .describeStacks _ .nodeGroup => .ok []
  | .providerExists => .ok false
  | request => answer request

end Sample

/-- After a failure at the node group there is a second plan. -/
theorem second_plan_for_stuck_group :
    ∃ (entries : List (Entry Request Request.Answer)) (s : Situation Execution) (cause : Fault),
      Sample.attempt Sample.stuckMoves = some (entries, s) ∧
      s.state.outcome? = some (.fault cause) ∧ cause.isRetryable = true ∧
      ∀ message, ((Sample.cluster.deleteAll true false).answered Sample.answer).2 ≠
        some (.fault (.precondition message)) := by
  have hreached : (Sample.attempt Sample.stuckMoves).map
      (fun run => (run.2.state.outcome?, Sample.attemptWork run.1)) =
      some (some (.fault (.aggregate [.stackApi "demo" "throttled"])),
        [⟨[0, 0], .began⟩, ⟨[0, 0], .asked (.deleteStack Sample.workers)⟩,
         ⟨[0, 0], .replied (.deleteStack Sample.workers) (.fault (.stackApi "demo" "throttled"))⟩,
         ⟨[0, 0], .ended (.fault (.stackApi "demo" "throttled"))⟩,
         ⟨[0], .ended (.fault (.aggregate [.stackApi "demo" "throttled"]))⟩,
         ⟨[], .ended (.fault (.aggregate [.stackApi "demo" "throttled"]))⟩]) := rfl
  obtain ⟨⟨entries, s⟩, hrun, heq⟩ := Option.map_eq_some_iff.1 hreached
  obtain ⟨hfailed, hwork⟩ := Prod.mk.inj heq
  have hplan : (Sample.cluster.deleteAll true false).answered Sample.answer =
      (((Sample.cluster.deleteAll true false).answered Sample.answer).1,
        some (.ok Sample.plan)) := rfl
  have hkept : ¬ ProviderDeleted
      (happened ((Execution.about Sample.plan ⟨⟨0⟩, false, 1⟩).1 ++ entries)) := by
    rintro ⟨place, hgranted⟩
    have hmem : _ ∈ Sample.attemptWork entries := mem_work.2 ⟨hgranted, rfl⟩
    rw [hwork] at hmem
    simp at hmem
  have hafter : Afterwards Sample.cluster
      (happened ((Execution.about Sample.plan ⟨⟨0⟩, false, 1⟩).1 ++ entries)) Sample.answer :=
    ⟨fun kind => by cases kind <;> exact ⟨_, rfl⟩, .inr ⟨hkept, rfl⟩⟩
  refine ⟨entries, s, _, hrun, hfailed, rfl, fun message hrefused => ?_⟩
  have hsecond := second_plan_refused_iff hplan hrun hfailed rfl hafter true false
  obtain ⟨place, plane, hleaf, hended⟩ := hsecond.1.1 ⟨message, hrefused⟩
  have hmem : _ ∈ Sample.attemptWork entries := mem_work.2 ⟨hended, rfl⟩
  rw [hwork] at hmem
  -- Only two groups have ended with this fault, and no task.
  obtain rfl | rfl : place = [0] ∨ place = [] := by simpa using hmem
  · have hgroup : Sample.plan.at? [0] = some (.group .parallel true _) := rfl
    exact absurd (hgroup.symm.trans hleaf) (by simp)
  · have hgroup : Sample.plan.at? [] = some (.group .sequential false _) := rfl
    exact absurd (hgroup.symm.trans hleaf) (by simp)

/-- **A retryable failure does not mean that there is a second plan.**  Here the node group and the
provider went, and then the deletion of the control plane was refused for the moment.  All stacks that
are left can be listed, and the question for the provider is answered, but the plan is refused. -/
theorem retryable_not_always_retried :
    ¬ ∀ (c : Cluster) (wait cleanUp : Bool) (answer answer' : (q : Request) → Except Fault q.Answer)
      (records : List Record) (plan : Plan Task) (start : Conditions)
      (moves : List (Move Request Request.Answer)) (entries : List (Entry Request Request.Answer))
      (s : Situation Execution) (cause : Fault),
      (c.deleteAll wait cleanUp).answered answer = (records, some (.ok plan)) →
      (Execution.about plan start).2.follow Execution.process moves = some (entries, s) →
      s.state.outcome? = some (.fault cause) → cause.isRetryable = true →
      (∀ kind, ∃ listing : List Stack, answer' (.describeStacks c.name kind) = .ok listing ∧
        ∀ stack ∈ listing, ∀ place gone,
          ReportedGone (happened ((Execution.about plan start).1 ++ entries)) place gone →
          stack.name ≠ gone.name) →
      (∃ there, answer' .providerExists = .ok there ∧
        (ProviderDeleted (happened ((Execution.about plan start).1 ++ entries)) → there = false)) →
      ∀ message, ((c.deleteAll wait cleanUp).answered answer').2 ≠
        some (.fault (.precondition message)) := by
  intro hclaim
  have hreached : (Sample.attempt Sample.lateMoves).map
      (fun run => (run.2.state.outcome?, (Sample.attemptWork run.1).filterMap Sample.deletion?)) =
      some (some (.fault (.stackApi "demo" "throttled")), [Sample.workers]) := rfl
  obtain ⟨⟨entries, s⟩, hrun, heq⟩ := Option.map_eq_some_iff.1 hreached
  obtain ⟨hfailed, hdeletions⟩ := Prod.mk.inj heq
  have hgone : ∀ place gone,
      ReportedGone (happened ((Execution.about Sample.plan ⟨⟨0⟩, false, 1⟩).1 ++ entries)) place
        gone → gone = Sample.workers := by
    rintro place gone ⟨receipt, answer, -, hseen⟩
    have hreplied := mem_occurrencesAt.1 (hseen.subset List.mem_cons_self)
    have hmem : gone ∈ (Sample.attemptWork entries).filterMap Sample.deletion? :=
      List.mem_filterMap.2 ⟨_, mem_work.2 ⟨hreplied, rfl⟩, rfl⟩
    rw [hdeletions] at hmem
    exact List.mem_singleton.1 hmem
  have hdescribed : ∀ kind, ∃ listing : List Stack,
      Sample.leftover (.describeStacks Sample.cluster.name kind) = .ok listing ∧
        ∀ stack ∈ listing, stack = Sample.controlPlane := by
    intro kind
    cases kind with
    | cluster => exact ⟨[Sample.controlPlane], rfl, fun stack => List.mem_singleton.1⟩
    | nodeGroup => exact ⟨[], rfl, fun stack hstack => absurd hstack List.not_mem_nil⟩
    | serviceAccount => exact ⟨[], rfl, fun stack hstack => absurd hstack List.not_mem_nil⟩
  refine hclaim Sample.cluster true false Sample.answer Sample.leftover _ Sample.plan
    ⟨⟨0⟩, false, 1⟩ Sample.lateMoves entries s _ rfl hrun hfailed rfl (fun kind => ?_)
    ⟨false, rfl, fun _ => rfl⟩ _ rfl
  obtain ⟨listing, hlisting, hlisted⟩ := hdescribed kind
  refine ⟨listing, hlisting, fun stack hstack place gone hreported => ?_⟩
  rw [hlisted stack hstack, hgone place gone hreported]
  decide

end Teardown
