/-
# Executions that are cancelled before they start

An execution may be cancelled before its first turn.  Then it does nothing: every task refuses to
begin, and so does every sequential group that has parts.  A parallel group does not look whether
it is cancelled, so it sets all its parts going, and each of them refuses for itself.

What comes out is settled by the plan alone (`Plan.refusal`), in whatever order the lanes move,
and its failures are one cancellation for each node that refused (`Plan.refusers`).  A plan
without tasks is not carried out at all and comes out well, although it may hold groups that would
refuse.

`forestalled_execution` says so for all sequences of moves, and that the execution comes to this
end by itself.

* §1  the outcome and the nodes that refuse, both by recursion on the plan, and how they go
      together (`Plan.refuses_refusal`).  A plan with a task has a node that refuses, so its
      outcome is a fault.
* §2  how such a run stands after any turn.  It is closed with the outcome of the plan, or it is a
      parallel group whose parts stand so (`Forestalled`).
* §3  executions.  That they come to their end is the measure of turns that a run gives itself,
      which holds of all runs.
-/
import Teardown.Proofs.Cancellation
import Teardown.Proofs.Completion
import Teardown.Proofs.Evaluation
import Teardown.Proofs.Failures

namespace Teardown

open Run

/-! ## 1. What comes out -/

namespace Plan

mutual

/-- What comes out of a plan that is cancelled before its first turn. -/
def refusal : Plan Task → Outcome Unit
  | .leaf task => cancelledAt task.info
  | .group .sequential _ [] => .ok ()
  | .group .sequential _ (_ :: _) => cancelledAt "sequential task tree"
  | .group .parallel _ parts => combine (refusals parts)

/-- The same for several plans. -/
def refusals : List (Plan Task) → List (Outcome Unit)
  | [] => []
  | part :: parts => part.refusal :: refusals parts

end

mutual

/-- The nodes that refuse, from left to right: tasks, and sequential groups with parts. -/
def refusers : Plan Task → List String
  | .leaf task => [task.info]
  | .group .sequential _ [] => []
  | .group .sequential _ (_ :: _) => ["sequential task tree"]
  | .group .parallel _ parts => refusersOf parts

def refusersOf : List (Plan Task) → List String
  | [] => []
  | part :: parts => part.refusers ++ refusersOf parts

end

theorem refusals_eq (parts : List (Plan Task)) : refusals parts = parts.map refusal := by
  induction parts with
  | nil => rfl
  | cons part parts ih => rw [refusals, ih, List.map_cons]

end Plan

/-- The outcome where some nodes refused: it is good if there are none, and otherwise a fault with one
cancellation for each. -/
inductive Refuses : Outcome Unit → List String → Prop
  | none : Refuses (.ok ()) []
  | some {cause : Fault} {contexts : List String} : contexts ≠ [] →
      cause.failures = contexts.map .cancelled → Refuses (.fault cause) contexts

theorem refuses_cancelledAt (context : String) : Refuses (cancelledAt context) [context] :=
  .some (List.cons_ne_nil _ _) rfl

mutual

/-- **A plan comes out as its nodes refuse.** -/
theorem Plan.refuses_refusal (plan : Plan Task) : Refuses plan.refusal plan.refusers := by
  match plan with
  | .leaf task => exact refuses_cancelledAt task.info
  | .group .sequential nested [] => exact .none
  | .group .sequential nested (part :: parts) => exact refuses_cancelledAt _
  | .group .parallel nested parts =>
    obtain ⟨hfailures, hnone⟩ := Plan.refuses_refusals 0 parts
    rw [refusal, refusers, combine]
    cases hfaults : partFaults 0 (refusals parts) with
    | nil =>
      rw [hnone.1 hfaults]
      exact .none
    | cons cause causes =>
      rw [hfaults] at hfailures hnone
      exact .some (fun hnil => absurd (hnone.2 hnil) (by simp)) hfailures

/-- The failures of several plans, as a parallel group collects them. -/
theorem Plan.refuses_refusals (index : Nat) (parts : List (Plan Task)) :
    Fault.failuresOf (partFaults index (refusals parts)) = (refusersOf parts).map .cancelled ∧
      (partFaults index (refusals parts) = [] ↔ refusersOf parts = []) := by
  match parts with
  | [] => exact ⟨rfl, by simp [refusals, partFaults, refusersOf]⟩
  | part :: parts =>
    obtain ⟨hfailures, hnone⟩ := Plan.refuses_refusals (index + 1) parts
    have hpart := Plan.refuses_refusal part
    rw [refusals, refusersOf]
    generalize part.refusal = outcome at hpart
    generalize part.refusers = contexts at hpart
    cases hpart with
    | none => exact ⟨hfailures, hnone⟩
    | some hsome hcause =>
      constructor
      · rw [partFaults, partFault?, Fault.failuresOf, hcause, hfailures, List.map_append]
      · simp [partFaults, partFault?, hsome]

end

mutual

theorem Plan.refusers_ne_nil {plan : Plan Task} (h : 0 < plan.size) : plan.refusers ≠ [] := by
  match plan with
  | .leaf task => exact List.cons_ne_nil _ _
  | .group .sequential nested [] => exact absurd h (Nat.lt_irrefl 0)
  | .group .sequential nested (part :: parts) => exact List.cons_ne_nil _ _
  | .group .parallel nested parts => exact Plan.refusersOf_ne_nil h

theorem Plan.refusersOf_ne_nil {parts : List (Plan Task)} (h : 0 < Plan.sizeOf parts) :
    refusersOf parts ≠ [] := by
  match parts with
  | [] => exact absurd h (Nat.lt_irrefl 0)
  | part :: parts =>
    intro hnil
    obtain ⟨hpart, hparts⟩ := List.append_eq_nil_iff.1 hnil
    have hsize : 0 < part.size + Plan.sizeOf parts := h
    rcases Nat.eq_zero_or_pos part.size with hzero | hpos
    · exact Plan.refusersOf_ne_nil (by omega) hparts
    · exact Plan.refusers_ne_nil hpos hpart

end

/-- What comes out of a plan with a task: nothing but cancellations, and no reason to try again. -/
theorem Plan.refusal_eq_fault {plan : Plan Task} (h : 0 < plan.size) :
    ∃ cause, plan.refusal = .fault cause ∧ cause.failures = plan.refusers.map .cancelled ∧
      plan.refusers ≠ [] ∧ cause.isRetryable = false := by
  have hrefuses := plan.refuses_refusal
  have hsome := Plan.refusers_ne_nil h
  generalize plan.refusal = outcome at hrefuses
  generalize plan.refusers = contexts at hrefuses hsome
  cases hrefuses with
  | none => exact absurd rfl hsome
  | @some cause contexts _ hfailures =>
    refine ⟨cause, rfl, hfailures, hsome, Bool.eq_false_iff.2 fun hretry => ?_⟩
    -- Already one cancellation is a reason not to try again.
    obtain ⟨context, rest, rfl⟩ := List.exists_cons_of_ne_nil hsome
    have hcancelled : Fault.cancelled context ∈ cause.failures := by
      rw [hfailures]
      exact List.mem_cons_self
    have hagain := ((Fault.isRetryable_iff cause).1 hretry).2 _ hcancelled
    exact absurd hagain (by simp [Fault.isRetryable])

/-! ## 2. How a run stands -/

/-- `Forestalled plan run`: how the run of a plan stands that was cancelled before its first turn. -/
inductive Forestalled : Plan Task → Run → Prop
  | waiting (plan : Plan Task) : Forestalled plan (.waiting plan)
  | closed (plan : Plan Task) : Forestalled plan (.closed plan.refusal)
  | parallel (nested : Bool) {plans : List (Plan Task)} {parts : List Run} :
      plans.length = parts.length →
      (∀ (i : Nat) (plan : Plan Task) (part : Run), plans[i]? = some plan → parts[i]? = some part →
        Forestalled plan part) →
      Forestalled (.group .parallel nested plans) (.parallel parts)

section Turns

variable {plan : Plan Task} {run : Run} {c : Conditions} {cue : Cue Request Request.Answer}
  {place : Place} {turn : Turn}

theorem Forestalled.outcome_eq (h : Forestalled plan run) {outcome : Outcome Unit}
    (houtcome : run.outcome? = some outcome) : outcome = plan.refusal := by
  rw [outcome?_eq_some_iff] at houtcome
  cases h with
  | waiting | parallel => exact absurd houtcome (by simp)
  | closed => exact (Run.closed.inj houtcome).symm

/-- **A first turn** refuses, or sets the parts of a parallel group going. -/
theorem forestalled_launch (hc : c.cancelled = true) (plan : Plan Task) :
    Forestalled plan (launch c plan).run := by
  match plan with
  | .leaf task =>
    rw [launch, launchTask, if_pos hc]
    exact .closed (.leaf task)
  | .group .sequential nested [] => exact .closed (.group .sequential nested [])
  | .group .sequential nested (part :: parts) =>
    rw [launch, launchFrom, if_pos hc]
    exact .closed (.group .sequential nested (part :: parts))
  | .group .parallel nested [] => exact .closed (.group .parallel nested [])
  | .group .parallel nested (part :: parts) =>
    refine .parallel nested (by simp) fun i plan part' hplan hpart => ?_
    rw [List.getElem?_map, hplan] at hpart
    obtain rfl := Option.some.inj hpart
    exact .waiting plan

/-- **A further turn** leaves the run as such runs stand.  It is one that the run gives itself, and
nothing is begun or asked in it. -/
theorem Forestalled.resume (h : Forestalled plan run) (hc : c.cancelled = true)
    (hturn : resumeAt c cue place run = some turn) :
    Forestalled plan turn.run ∧ isOwnCue cue = true ∧ ∀ e ∈ turn.happened, e.occurrence.Idle := by
  induction h generalizing place turn with
  | closed =>
    rw [resumeAt_closed] at hturn
    exact absurd hturn (by simp)
  | waiting plan =>
    obtain ⟨rfl, rfl⟩ := resumeAt_waiting hturn
    refine ⟨forestalled_launch hc plan, ?_, idle_launch hc plan⟩
    cases cue with
    | start | settle => rfl
    | _ => exact absurd hturn (by simp [resumeAt])
  | @parallel nested plans parts hlen hparts ih =>
    rcases resumeAt_parallel hturn with
      ⟨outcomes, rfl, houtcomes, rfl⟩ | ⟨i, place', part, turn', rfl, hpart, hturn', rfl⟩
    · obtain rfl := outcomes?_eq_some_iff.1 houtcomes
      have hall : outcomes = plans.map Plan.refusal := by
        refine List.ext_getElem (by simpa using hlen.symm) fun i hi hi' => ?_
        rw [List.getElem_map]
        have hplan : i < plans.length := by simpa using hi'
        have hpart : (outcomes.map Run.closed)[i]? = some (.closed outcomes[i]) := by simp [hi]
        exact (hparts i _ _ (List.getElem?_eq_getElem hplan) hpart).outcome_eq rfl
      refine ⟨?_, ?_, idle_settle outcomes⟩
      · have hrefusal : combine outcomes = (Plan.group .parallel nested plans).refusal := by
          rw [Plan.refusal, Plan.refusals_eq, hall]
        rw [settle, Turn.after_run, Turn.close_run, hrefusal]
        exact .closed _
      · cases cue with
        | start | settle => rfl
        | _ => exact absurd hturn (by simp [resumeAt])
    · obtain ⟨plan, hplan⟩ := exists_getElem?_of_length_eq hlen.symm hpart
      obtain ⟨hnext, hcue, hidle⟩ := ih i plan part hplan hpart hturn'
      have hi := (List.getElem?_eq_some_iff.1 hpart).1
      refine ⟨.parallel nested (by simpa using hlen) fun j other part' hother hpart' => ?_, hcue,
        fun e he => ?_⟩
      · by_cases hj : i = j
        · subst hj
          rw [List.getElem?_set_self hi] at hpart'
          obtain rfl := Option.some.inj hpart'
          obtain rfl := Option.some.inj (hplan.symm.trans hother)
          exact hnext
        · rw [List.getElem?_set_ne hj] at hpart'
          exact hparts j other part' hother hpart'
      · obtain ⟨e', he', rfl⟩ := List.mem_map.1 he
        exact hidle e' he'

/-- **Such a run goes on by itself** as long as it is not over. -/
theorem Forestalled.goes_on (h : Forestalled plan run) (hopen : run.outcome? = none)
    (c : Conditions) : ∃ place cue, isOwnCue cue = true ∧ (resumeAt c cue place run).isSome = true := by
  induction h with
  | closed => exact absurd hopen (by simp [Run.outcome?])
  | waiting plan => exact ⟨[], .start, rfl, rfl⟩
  | @parallel nested plans parts hlen hparts ih =>
    cases hall : outcomes? parts with
    | some outcomes => exact ⟨[], .settle, rfl, by simp [resumeAt, hall]⟩
    | none =>
      obtain ⟨i, hi, hpart⟩ := exists_open_of_outcomes?_eq_none hall
      have hget : parts[i]? = some parts[i] := List.getElem?_eq_getElem hi
      obtain ⟨plan, hplan⟩ := exists_getElem?_of_length_eq hlen.symm hget
      obtain ⟨place, cue, hcue, hturn⟩ := ih i plan _ hplan hget hpart
      obtain ⟨turn, hturn⟩ := Option.isSome_iff_exists.1 hturn
      exact ⟨i :: place, cue, hcue, by simp [resumeAt, hget, hturn]⟩

end Turns

/-! ## 3. Executions -/

/-- What is no work neither begins a task nor asks for anything. -/
theorem Occurrence.idle_of_isWork {o : Occurrence Request Request.Answer}
    (h : o.isWork = false) : o.Idle := by
  cases o with
  | noted | rested | opened | cancelled => exact ⟨rfl, rfl⟩
  | asked | replied | began | ended => exact absurd h (by simp [Occurrence.isWork])

theorem idle_of_work {events : List RunEvent} (h : ∀ e ∈ work events, e.occurrence.Idle) :
    ∀ e ∈ events, e.occurrence.Idle := by
  intro e he
  cases hwork : e.occurrence.isWork with
  | true => exact h e (mem_work.2 ⟨he, hwork⟩)
  | false => exact Occurrence.idle_of_isWork hwork

/-- `Idled plan s past`: an execution of the plan, cancelled before it started, stands as it must, and
has done nothing. -/
structure Idled (plan : Plan Task) (s : Situation Execution)
    (past : List (Entry Request Request.Answer)) : Prop where
  cancelled : s.cancelled = true
  run : Forestalled plan s.state.run
  idle : ∀ e ∈ happened past, e.occurrence.Idle

section Executions

variable {plan : Plan Task} {c : Conditions} {s s' : Situation Execution}
  {past entries : List (Entry Request Request.Answer)} {moves : List (Move Request Request.Answer)}

/-- **The first turn** of an execution that is cancelled before it. -/
theorem idled_about (hc : c.cancelled = true) (hplan : plan.isEmpty = false) :
    Idled plan (Execution.about plan c).2 (Execution.about plan c).1 := by
  have hstart : Execution.start c plan =
      (eventsHere [.noted (Execution.opening plan.size)] ++
        (Execution.ofTurn c plan.size c.now (launch c plan)).1,
       (Execution.ofTurn c plan.size c.now (launch c plan)).2) := by
    simp [Execution.start, hplan]
  unfold Execution.about
  rw [hstart]
  refine ⟨hc, forestalled_launch hc plan, idle_of_work ?_⟩
  intro e he
  rw [happened_at, work_append, Execution.work_ofTurn] at he
  exact idle_launch hc plan e (mem_work.1 he).1

/-- **Every move** leaves it so. -/
theorem Idled.move (h : Idled plan s past) {move : Move Request Request.Answer}
    (hafter : s.after? Execution.process move = some (entries, s')) :
    Idled plan s' (past ++ entries) := by
  rcases Situation.after?_cases hafter with
    ⟨place, cue, factor, events, state, -, -, hturn, rfl, rfl⟩ | ⟨-, rfl, rfl⟩ |
      ⟨_, -, rfl, rfl⟩ | ⟨-, rfl, rfl⟩
  · obtain ⟨turn, hresume, hrun, hwork⟩ := Execution.carries _ _ _ _ _ _ hturn
    obtain ⟨hnext, -, hidle⟩ := h.run.resume (c := ⟨s.now, s.cancelled, factor⟩) h.cancelled hresume
    refine ⟨h.cancelled, hrun ▸ hnext, fun e he => ?_⟩
    rw [happened_append, happened_at] at he
    rcases List.mem_append.1 he with he | he
    · exact h.idle e he
    · refine idle_of_work (fun e he => ?_) e he
      rw [hwork] at he
      exact hidle e (mem_work.1 he).1
  · refine ⟨rfl, h.run, fun e he => ?_⟩
    rw [happened_append] at he
    rcases List.mem_append.1 he with he | he
    · exact h.idle e he
    · obtain rfl := List.mem_singleton.1 he
      exact ⟨rfl, rfl⟩
  · rw [List.append_nil]
    exact ⟨h.cancelled, h.run, h.idle⟩
  · rw [List.append_nil]
    exact ⟨h.cancelled, h.run, h.idle⟩

theorem Idled.follow (h : Idled plan s past)
    (hrun : s.follow Execution.process moves = some (entries, s')) :
    Idled plan s' (past ++ entries) :=
  Situation.follow_induction (Idled plan) (fun _ _ _ _ _ _ h hafter => h.move hafter) past h hrun

/-- An execution that is idle goes on by itself until it is over. -/
theorem Idled.goes_on (h : Idled plan s past) (hopen : s.state.outcome? = none)
    (hdropped : s.dropped = false) (factor : Binary64) :
    ∃ place cue, isOwnCue cue = true ∧
      (s.after? Execution.process (.resume place cue factor)).isSome = true := by
  obtain ⟨place, cue, hcue, hturn⟩ := h.run.goes_on hopen ⟨s.now, s.cancelled, factor⟩
  refine ⟨place, cue, hcue, ?_⟩
  simpa [Situation.after?, hdropped, Execution.process, Execution.resume, Run.resume] using hturn

/-- An execution of a plan without tasks has nothing to carry out but an empty group. -/
theorem idled_about_empty (hc : c.cancelled = true) (hplan : plan.isEmpty = true) :
    Idled (.group .sequential false []) (Execution.about plan c).2 (Execution.about plan c).1 := by
  have hstart : Execution.start c plan =
      (eventsHere [.noted Execution.nothingToDo], ⟨0, c.now, .closed (.ok ())⟩) := by
    simp [Execution.start, hplan]
  unfold Execution.about
  rw [hstart]
  refine ⟨hc, .closed (.group .sequential false []), fun e he => ?_⟩
  obtain rfl := List.mem_singleton.1 he
  exact ⟨rfl, rfl⟩

theorem pending_about (plan : Plan Task) (c : Conditions) :
    (Execution.about plan c).2.state.run.pending ≤ plan.turns := by
  cases hplan : plan.isEmpty with
  | true => simp [Execution.about, Execution.start, hplan, pending]
  | false =>
    have hlaunch := pending_launch c plan
    simpa [Execution.about, Execution.start, hplan, Execution.ofTurn] using hlaunch

/-- **An execution that is cancelled before it starts** begins no task and asks for nothing.  A plan
without tasks comes out well, whatever groups it holds.  Any other plan comes out with a fault that
the plan alone determines: its failures are the cancellations of all nodes that refused, at least one,
and it gives no reason to try again.  And the execution does come out: it goes on by itself until it
is over, which it does only so many times. -/
theorem forestalled_execution (hc : c.cancelled = true)
    (hrun : (Execution.about plan c).2.follow Execution.process moves = some (entries, s)) :
    (∀ e ∈ happened ((Execution.about plan c).1 ++ entries), e.occurrence.Idle) ∧
    (plan.size = 0 → s.state.outcome? = some (.ok ())) ∧
    (0 < plan.size → ∃ cause, plan.refusal = .fault cause ∧
      cause.failures = plan.refusers.map .cancelled ∧ cause.failures ≠ [] ∧
      cause.isRetryable = false ∧
      ∀ outcome, s.state.outcome? = some outcome → outcome = .fault cause) ∧
    (s.state.outcome? = none → s.dropped = false → ∀ factor, ∃ place cue, isOwnCue cue = true ∧
      (s.after? Execution.process (.resume place cue factor)).isSome = true) ∧
    moves.countP isOwnMove ≤ plan.turns := by
  have hpending := Execution.carries.pending_follow hrun
  have hturns := pending_about plan c
  have hbound : moves.countP isOwnMove ≤ plan.turns := by omega
  cases hplan : plan.isEmpty with
  | true =>
    have hsize : plan.size = 0 := by simpa [Plan.isEmpty] using hplan
    have hidled := (idled_about_empty hc hplan).follow hrun
    have hpassed : s.state.outcome? = some (.ok ()) :=
      outcome?_eq_some_iff.2 (execution_empty hplan hrun)
    exact ⟨hidled.idle, fun _ => hpassed, fun hpos => absurd hsize (by omega),
      hidled.goes_on, hbound⟩
  | false =>
    have hsize : 0 < plan.size := by
      refine Nat.pos_of_ne_zero fun hzero => ?_
      simp [Plan.isEmpty, hzero] at hplan
    have hidled := (idled_about hc hplan).follow hrun
    obtain ⟨cause, hcause, hfailures, hsome, hretry⟩ := Plan.refusal_eq_fault hsize
    refine ⟨hidled.idle, fun hzero => absurd hzero (by omega), fun _ => ?_, hidled.goes_on, hbound⟩
    refine ⟨cause, hcause, hfailures, ?_, hretry, fun outcome houtcome => ?_⟩
    · rw [hfailures]
      simpa using hsome
    · rw [← hcause]
      exact hidled.run.outcome_eq houtcome

end Executions

namespace Sample

/-- An errand, a group that would refuse although it has no task, and an empty group. -/
def forgone : Plan Task :=
  .group .parallel false
    [.leaf ⟨"errand", .supplied 1 none⟩,
     .group .sequential false [.group .parallel true []],
     .group .parallel false []]

def forgoneMoves : List (Move Request Request.Answer) :=
  [.resume [2] .start 1, .resume [1] .start 1, .resume [0] .start 1, .resume [] .settle 1]

def forgoneRun : Option (List (Entry Request Request.Answer) × Situation Execution) :=
  (Execution.about forgone ⟨⟨0⟩, true, 1⟩).2.follow Execution.process forgoneMoves

end Sample

/-- The errand and the group without tasks refuse, each for itself. -/
theorem forestalled_execution_sample :
    ∃ (entries : List (Entry Request Request.Answer)) (s : Situation Execution) (cause : Fault),
      Sample.forgoneRun = some (entries, s) ∧ s.state.outcome? = some (.fault cause) ∧
      cause.failures = [.cancelled "errand", .cancelled "sequential task tree"] ∧
      cause.isRetryable = false ∧
      ∀ e ∈ happened ((Execution.about Sample.forgone ⟨⟨0⟩, true, 1⟩).1 ++ entries),
        e.occurrence.Idle := by
  have hover : Sample.forgoneRun.isSome = true := rfl
  have hrun : (Execution.about Sample.forgone ⟨⟨0⟩, true, 1⟩).2.follow Execution.process
      Sample.forgoneMoves = some (Sample.forgoneRun.get hover) := (Option.some_get hover).symm
  obtain ⟨hidle, -, hfault, -, -⟩ := forestalled_execution rfl hrun
  obtain ⟨cause, -, hfailures, -, hretry, hout⟩ := hfault (Nat.succ_pos 0)
  have houtcome : (Sample.forgoneRun.get hover).2.state.outcome? =
      some (.fault (.aggregate [.cancelled "errand", .cancelled "sequential task tree"])) := rfl
  obtain rfl := Outcome.fault.inj (hout _ houtcome)
  exact ⟨_, _, _, (Option.some_get hover).symm, houtcome, hfailures, hretry, hidle⟩

end Teardown
