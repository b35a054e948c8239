/-
# Failures that may pass

Whether another attempt is worth while is decided on a fault as it is nested, and what is reported
are its failures, with all collections taken apart.  The two agree but for collections without
faults: such a collection counts as a failure that will not pass, and it leaves nothing behind
among the failures (`Fault.isRetryable_iff_transient`).

A run makes no such collection by itself.  So if the tasks of a plan end with none, the fault of
the run holds none, it has failures, and it is worth another attempt exactly if all of these may
pass (`retryable_iff_failures_transient`).

* §1  of every fault: what occurs in it, which failures may pass (`Fault.Transient`), and when it
      is worth another attempt.  The proofs go by recursion on the nesting, so each fact comes
      with its companion for a list of faults.
* §2  of the faults of runs: a parallel group collects only when there is something to collect.

The tasks themselves are arbitrary here.  That those of a teardown end with no collection at all
is not needed and not said.
-/
import Teardown.Proofs.Failures

namespace Teardown

open Run

/-! ## 1. Faults within faults -/

namespace Fault

/-- `f.Occurs fault`: the fault is `f`, or `f` occurs in a collection that the fault is. -/
inductive Occurs (f : Fault) : Fault → Prop
  | here : Occurs f f
  | inside {part : Fault} {faults : List Fault} :
      part ∈ faults → Occurs f part → Occurs f (.aggregate faults)

/-- A failure that another attempt may not meet again: a service refused a request, a wait ran out of time,
or there was trouble with the cluster. -/
inductive Transient : Fault → Prop
  | stackApi (stack message : String) : Transient (.stackApi stack message)
  | waitTimeout (resource : String) (timeout : Duration) (lastState : Option String) :
      Transient (.waitTimeout resource timeout lastState)
  | cluster (cause : ClusterFault) : Transient (.cluster cause)

theorem occurs_aggregate_iff {faults : List Fault} :
    (aggregate []).Occurs (.aggregate faults) ↔
      faults = [] ∨ ∃ part ∈ faults, (aggregate []).Occurs part := by
  constructor
  · rintro (_ | ⟨hmem, hpart⟩)
    · exact .inl rfl
    · exact .inr ⟨_, hmem, hpart⟩
  · rintro (rfl | ⟨part, hmem, hpart⟩)
    · exact .here
    · exact .inside hmem hpart

mutual

theorem hasEmptyAggregate_iff (fault : Fault) :
    fault.hasEmptyAggregate = true ↔ (aggregate []).Occurs fault := by
  cases fault with
  | aggregate faults =>
    rw [hasEmptyAggregate, Bool.or_eq_true, List.isEmpty_iff, anyEmptyAggregate_iff faults,
      occurs_aggregate_iff]
  | _ => exact ⟨fun h => absurd h (by simp [hasEmptyAggregate]), nofun⟩

theorem anyEmptyAggregate_iff (faults : List Fault) :
    anyEmptyAggregate faults = true ↔ ∃ part ∈ faults, (aggregate []).Occurs part := by
  match faults with
  | [] => simp [anyEmptyAggregate]
  | fault :: faults =>
    rw [anyEmptyAggregate, Bool.or_eq_true, hasEmptyAggregate_iff fault,
      anyEmptyAggregate_iff faults]
    simp

end

mutual

theorem ne_aggregate_of_mem_failures {f : Fault} (fault : Fault) (hf : f ∈ fault.failures)
    (inner : List Fault) : f ≠ .aggregate inner := by
  cases fault with
  | aggregate faults => exact ne_aggregate_of_mem_failuresOf faults hf inner
  | _ =>
    obtain rfl := List.mem_singleton.1 hf
    exact nofun

theorem ne_aggregate_of_mem_failuresOf {f : Fault} (faults : List Fault) (hf : f ∈ failuresOf faults)
    (inner : List Fault) : f ≠ .aggregate inner := by
  match faults with
  | [] => exact absurd hf List.not_mem_nil
  | fault :: faults =>
    rcases List.mem_append.1 hf with hf | hf
    · exact ne_aggregate_of_mem_failures fault hf inner
    · exact ne_aggregate_of_mem_failuresOf faults hf inner

end

/-- What is no collection is worth another attempt if it may pass. -/
theorem isRetryable_iff_of_ne_aggregate {f : Fault} (hf : ∀ inner, f ≠ .aggregate inner) :
    f.isRetryable = true ↔ f.Transient := by
  cases f with
  | aggregate inner => exact absurd rfl (hf inner)
  | stackApi stack message => exact ⟨fun _ => .stackApi stack message, fun _ => rfl⟩
  | waitTimeout resource timeout lastState =>
    exact ⟨fun _ => .waitTimeout resource timeout lastState, fun _ => rfl⟩
  | cluster cause => exact ⟨fun _ => .cluster cause, fun _ => rfl⟩
  | _ => exact ⟨fun h => absurd h (by simp [isRetryable]), nofun⟩

/-- **A fault is worth another attempt** exactly if no collection in it is empty and all its failures may
pass. -/
theorem isRetryable_iff_transient (fault : Fault) :
    fault.isRetryable = true ↔
      ¬ (aggregate []).Occurs fault ∧ ∀ f ∈ fault.failures, f.Transient := by
  rw [isRetryable_iff, ← hasEmptyAggregate_iff, Bool.not_eq_true]
  refine and_congr_right fun _ => forall₂_congr fun f hf => ?_
  exact isRetryable_iff_of_ne_aggregate (ne_aggregate_of_mem_failures fault hf)

/-- A fault in which no collection is empty has failures. -/
theorem failures_ne_nil : ∀ fault : Fault, ¬ (aggregate []).Occurs fault → fault.failures ≠ []
  | .aggregate [], hfull => absurd .here hfull
  | .aggregate (first :: rest), hfull => by
    have hfirst : ¬ (aggregate []).Occurs first := fun h => hfull (.inside List.mem_cons_self h)
    intro hnil
    exact failures_ne_nil first hfirst (List.append_eq_nil_iff.1 hnil).1
  | .stackApi .., _ | .notFound .., _ | .precondition _, _ | .waitFailed .., _
  | .waitTimeout .., _ | .cancelled _, _ | .cluster _, _ | .settings _, _ | .internal .., _ =>
    List.cons_ne_nil _ _

end Fault

/-! ## 2. Faults of runs -/

/-- No task of the plan has ended with a fault in which a collection is empty. -/
def Plan.EndsFull (plan : Plan Task) (events : List RunEvent) : Prop :=
  ∀ place task own, plan.at? place = some (.leaf task) →
    endAt place events = some (.fault own) → ¬ (Fault.aggregate []).Occurs own

theorem Run.mem_partFaults {index : Nat} {outcomes : List (Outcome Unit)} {cause : Fault}
    (h : cause ∈ partFaults index outcomes) :
    .fault cause ∈ outcomes ∨ ∃ context message, cause = .internal context message := by
  induction outcomes generalizing index with
  | nil => exact absurd h List.not_mem_nil
  | cons outcome outcomes ih =>
    cases outcome with
    | ok _ => exact (ih h).imp_left (List.mem_cons_of_mem _)
    | fault own =>
      rcases List.mem_cons.1 h with rfl | h
      · exact .inl List.mem_cons_self
      · exact (ih h).imp_left (List.mem_cons_of_mem _)
    | panic text =>
      rcases List.mem_cons.1 h with rfl | h
      · exact .inr ⟨_, _, rfl⟩
      · exact (ih h).imp_left (List.mem_cons_of_mem _)

/-- A parallel group makes no empty collection, and holds none if its parts do not. -/
theorem Run.not_occurs_combine {outcomes : List (Outcome Unit)} {cause : Fault}
    (hparts : ∀ own, .fault own ∈ outcomes → ¬ (Fault.aggregate []).Occurs own)
    (h : combine outcomes = .fault cause) : ¬ (Fault.aggregate []).Occurs cause := by
  rw [combine] at h
  split at h
  case h_1 => exact absurd h (by simp)
  case h_2 faults hne =>
    obtain rfl := Outcome.fault.inj h
    rw [Fault.occurs_aggregate_iff]
    rintro (hnil | ⟨own, hown, hempty⟩)
    · exact hne hnil
    · rcases Run.mem_partFaults hown with hpart | ⟨context, message, rfl⟩
      · exact hparts own hpart hempty
      · cases hempty

section Traced

variable {mayRefuse : Prop} {plan : Plan Task} {plans : List (Plan Task)} {mode : Mode}
  {nested : Bool} {run : Run} {events : List RunEvent} {i : Nat}

theorem Plan.EndsFull.part (h : (Plan.group mode nested plans).EndsFull events)
    (hplan : plans[i]? = some plan) : plan.EndsFull (within i events) := by
  intro place task own hleaf hend
  rw [← endAt_cons] at hend
  exact h (i :: place) task own ((Plan.at?_inside hplan place).trans hleaf) hend

/-- **No empty collection comes up in a run**: if the fault of a run holds one, so does that of a task. -/
theorem Traced.ends_full (h : Traced mayRefuse plan run events) (hfull : plan.EndsFull events)
    {cause : Fault} (hrun : run = .closed (.fault cause)) : ¬ (Fault.aggregate []).Occurs cause := by
  induction h generalizing cause with
  | waiting => exact absurd hrun (by simp)
  | working => exact absurd hrun (by simp)
  | refused task _ =>
    obtain rfl := Outcome.fault.inj (Run.closed.inj hrun)
    exact nofun
  | @finished task past outcome htrace =>
    obtain rfl := Run.closed.inj hrun
    have htraced : Traced mayRefuse (.leaf task) _ _ := .finished htrace
    exact hfull [] task cause rfl htraced.endAt_eq
  | @group mode nested plans parts run events own hlen hparts hplaces horder hstands ih =>
    subst hrun
    have hpart : ∀ (i : Nat) own, parts[i]? = some (.closed (.fault own)) →
        ¬ (Fault.aggregate []).Occurs own := by
      intro i own hpart
      obtain ⟨plan, hplan⟩ := exists_getElem?_of_length_eq hlen hpart
      have hinner := hfull.part hplan
      rw [hstands.within_append_own] at hinner
      exact ih i plan _ hplan hpart hinner rfl
    generalize hclosed : Run.closed (.fault cause) = run at hstands
    cases hstands with
    | underWay | apart | done => exact absurd hclosed (by simp)
    | refused index rest =>
      obtain rfl := Outcome.fault.inj (Run.closed.inj hclosed)
      exact nofun
    | stopped index outcome rest =>
      obtain rfl := Run.closed.inj hclosed
      exact hpart index cause (by simp)
    | settled parts outcomes houtcomes =>
      obtain rfl := Run.outcomes?_eq_some_iff.1 houtcomes
      refine Run.not_occurs_combine (fun own hown => ?_) (Run.closed.inj hclosed).symm
      obtain ⟨i, hi⟩ := List.getElem?_of_mem hown
      exact hpart i own (by simp [hi])

end Traced

/-- **Another attempt, and the failures.**  Of every fault: it is worth another attempt exactly if no
collection in it is empty and all its failures may pass.  Of the fault of every run whose tasks ended with
no empty collection in their faults, however the moves came: it is worth another attempt exactly if all its
failures may pass, and it has failures. -/
theorem retryable_iff_failures_transient :
    (∀ fault : Fault, fault.isRetryable = true ↔
      ¬ (Fault.aggregate []).Occurs fault ∧ ∀ f ∈ fault.failures, f.Transient) ∧
    ∀ (plan : Plan Task) (now : Moment) (cancelled : Bool)
      (moves : List (Move Request Request.Answer)) (entries : List (Entry Request Request.Answer))
      (s : Situation Run),
      (Run.about plan now cancelled).follow Run.process moves = some (entries, s) →
      plan.EndsFull (happened entries) → ∀ cause, s.state.outcome? = some (.fault cause) →
      (cause.isRetryable = true ↔ ∀ f ∈ cause.failures, f.Transient) ∧ cause.failures ≠ [] := by
  refine ⟨Fault.isRetryable_iff_transient, ?_⟩
  intro plan now cancelled moves entries s hrun hfull cause hcause
  have hwork : plan.EndsFull (work (happened entries)) := by
    intro place task own hleaf hend
    rw [endAt_work] at hend
    exact hfull place task own hleaf hend
  have hcause' := (traced_follow hrun).ends_full hwork (outcome?_eq_some_iff.1 hcause)
  refine ⟨?_, cause.failures_ne_nil hcause'⟩
  rw [Fault.isRetryable_iff_transient]
  exact ⟨fun h => h.2, fun h => ⟨hcause', h⟩⟩

namespace Sample

def setbacks : Plan Task :=
  .group .parallel false
    [.leaf ⟨"errand", .supplied 1 none⟩,
     .group .sequential true
       [.leaf ⟨"errand", .supplied 2 none⟩, .leaf ⟨"errand", .supplied 3 none⟩]]

def setback : Fault :=
  .aggregate [.stackApi "demo" "throttled", .waitTimeout "demo" (.ofWhole 60) none]

def setbackMoves : List (Move Request Request.Answer) :=
  [.resume [] .start 1, .resume [1] .start 1, .resume [0] .start 1,
   mishap [1, 0] (.fault (.cluster .unusable)), mishap [0] (.fault setback), .resume [] .settle 1]

def setbackRun : Option (List (Entry Request Request.Answer) × Situation Run) :=
  (Run.about setbacks ⟨0⟩ false).follow Run.process setbackMoves

end Sample

/-- Two errands that failed in ways that may pass. -/
theorem retryable_iff_failures_transient_setbacks :
    ∃ (entries : List (Entry Request Request.Answer)) (s : Situation Run),
      Sample.setbackRun = some (entries, s) ∧ Sample.setbacks.EndsFull (happened entries) ∧
      s.state.outcome? = some (.fault (.aggregate [Sample.setback, .cluster .unusable])) ∧
      (Fault.aggregate [Sample.setback, .cluster .unusable]).isRetryable = true := by
  have hover : Sample.setbackRun.isSome = true := rfl
  have hrun : (Run.about Sample.setbacks ⟨0⟩ false).follow Run.process Sample.setbackMoves =
      some (Sample.setbackRun.get hover) := (Option.some_get hover).symm
  have hfull : Sample.setbacks.EndsFull (happened (Sample.setbackRun.get hover).1) := by
    intro place task own hleaf hend
    have hnode := Plan.mem_nodes.2 hleaf
    simp only [Sample.setbacks, Plan.nodes, Plan.nodesOf, List.map_cons, List.map_nil, List.append_nil,
      List.nil_append, List.cons_append, List.mem_cons, List.not_mem_nil, or_false, Prod.mk.injEq,
      reduceCtorEq, and_false, false_or] at hnode
    rw [← Fault.hasEmptyAggregate_iff]
    rcases hnode with ⟨rfl, -⟩ | ⟨rfl, -⟩ | ⟨rfl, -⟩
    · obtain rfl : Sample.setback = own := Outcome.fault.inj (Option.some.inj hend)
      decide
    · obtain rfl : .cluster .unusable = own := Outcome.fault.inj (Option.some.inj hend)
      decide
    · exact nomatch hend
  refine ⟨_, _, (Option.some_get hover).symm, hfull, rfl, ?_⟩
  refine (retryable_iff_failures_transient.2 _ _ _ _ _ _ hrun hfull _ rfl).1.2 fun f hf => ?_
  have hcases : f ∈ [Fault.stackApi "demo" "throttled", .waitTimeout "demo" (.ofWhole 60) none,
    .cluster .unusable] := hf
  simp only [List.mem_cons, List.not_mem_nil, or_false] at hcases
  rcases hcases with rfl | rfl | rfl
  · exact .stackApi _ _
  · exact .waitTimeout _ _ _
  · exact .cluster _

end Teardown
