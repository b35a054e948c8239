/-
# The outcome of a plan

What comes out of a plan is settled by how its tasks end, if it is not cancelled: `Plan.evaluate`
computes it from the outcomes of the leaves, without any notion of time or of lanes.  A sequential
group has the first outcome of its parts that is not good, and a parallel one collects what every
part that did not end well contributes, in the order of the parts.

`run_evaluates` says that every run that is over has this outcome, in whatever order the lanes
moved and however long the tasks took; that a run which is not over either has a task under way or
can go on by itself; and that it goes on by itself only so many times (`Plan.turns`).  So a run
comes to this outcome as soon as its tasks come to their ends.

* §1  the evaluation, by recursion on the plan.
* §2  runs that are over.  The run keeps the outcomes of its parts, and a group combines them as
      the evaluation does (`Stands.outcome_sequential`, `Stands.outcome_parallel`).  A panic can
      only leave a plan where no parallel group is around the leaf.
* §3  runs that are not over: there is a leaf under way, or a cue that the run gives itself is
      possible.
* §4, §5  a measure for the second case.  What is pending (`Run.pending`) decreases with each turn
  that a run gives itself, and no other turn makes it larger.

How a leaf ends is a function of its place, so the same task may end in two ways at two places.
-/
import Teardown.Proofs.Reach

namespace Teardown

/-! ## 1. Evaluation -/

namespace Plan

variable {ℓ : Type}

/-- What an outcome contributes to the failures of a parallel group, given its index. -/
def contribution : Outcome Unit × Nat → Option Fault
  | (.ok _, _) => none
  | (.fault cause, _) => some cause
  | (.panic (some text), index) =>
    some (.internal "executor" ("task " ++ toString index ++ " panicked: " ++ text))
  | (.panic none, index) =>
    some (.internal "executor" ("task " ++ toString index ++ " panicked: " ++ "unknown panic"))

mutual

/-- The outcome of a plan whose leaves end in given ways. -/
def evaluate (outcomes : Place → Outcome Unit) : Plan ℓ → Outcome Unit
  | .leaf _ => outcomes []
  | .group .sequential _ parts =>
    ((evaluateAll outcomes 0 parts).find? fun outcome => !outcome.isOk).getD (.ok ())
  | .group .parallel _ parts =>
    let values := evaluateAll outcomes 0 parts
    if values.all Outcome.isOk then .ok ()
    else .fault (.aggregate (values.zipIdx.filterMap contribution))

def evaluateAll (outcomes : Place → Outcome Unit) (index : Nat) :
    List (Plan ℓ) → List (Outcome Unit)
  | [] => []
  | part :: rest =>
    part.evaluate (fun place => outcomes (index :: place)) :: evaluateAll outcomes (index + 1) rest

end

theorem length_evaluateAll (outcomes : Place → Outcome Unit) (index : Nat)
    (parts : List (Plan ℓ)) : (evaluateAll outcomes index parts).length = parts.length := by
  induction parts generalizing index with
  | nil => rfl
  | cons part parts ih => rw [evaluateAll, List.length_cons, List.length_cons, ih]

/-- Each part is evaluated with the outcomes at its own places. -/
theorem getElem?_evaluateAll (outcomes : Place → Outcome Unit) (index : Nat)
    (parts : List (Plan ℓ)) (i : Nat) :
    (evaluateAll outcomes index parts)[i]? =
      parts[i]?.map fun part => part.evaluate fun place => outcomes ((index + i) :: place) := by
  induction parts generalizing index i with
  | nil => rfl
  | cons part parts ih =>
    cases i with
    | zero => rfl
    | succ i =>
      rw [evaluateAll, List.getElem?_cons_succ, List.getElem?_cons_succ, ih,
        show index + 1 + i = index + (i + 1) by omega]

end Plan

/-! ## 2. Runs that are over -/

open Run

/-- The failures that a parallel group collects are what its parts contribute, in their order. -/
theorem Run.partFaults_eq (index : Nat) (outcomes : List (Outcome Unit)) :
    partFaults index outcomes = (outcomes.zipIdx index).filterMap Plan.contribution := by
  induction outcomes generalizing index with
  | nil => rfl
  | cons outcome outcomes ih =>
    rw [List.zipIdx_cons, partFaults, ih]
    cases outcome with
    | ok value => rfl
    | fault cause => rfl
    | panic text => cases text <;> rfl

/-- A parallel group combines the outcomes of its parts as the evaluation does. -/
theorem Run.combine_eq (outcomes : List (Outcome Unit)) :
    combine outcomes = if outcomes.all Outcome.isOk then .ok ()
      else .fault (.aggregate (outcomes.zipIdx.filterMap Plan.contribution)) := by
  by_cases hall : outcomes.all Outcome.isOk = true
  · rw [if_pos hall, combine_eq_ok_iff]
    exact fun outcome houtcome => Outcome.isOk_iff.1 (List.all_eq_true.1 hall outcome houtcome)
  · rw [if_neg hall, ← partFaults_eq, combine]
    cases hfaults : partFaults 0 outcomes with
    | cons cause causes => rfl
    | nil =>
      refine absurd (List.all_eq_true.2 fun outcome houtcome => ?_) hall
      exact Outcome.isOk_iff.2 (partFaults_eq_nil_iff.1 hfaults outcome houtcome)

theorem Run.exists_open_of_outcomes?_eq_none {parts : List Run} (h : outcomes? parts = none) :
    ∃ i, ∃ hi : i < parts.length, parts[i].outcome? = none := by
  induction parts with
  | nil => exact absurd h (by simp [outcomes?])
  | cons part parts ih =>
    cases hpart : part.outcome? with
    | none => exact ⟨0, by simp, hpart⟩
    | some outcome =>
      have hparts : outcomes? parts = none := by
        cases hrest : outcomes? parts with
        | none => rfl
        | some outcomes => exact absurd h (by simp [outcomes?, hpart, hrest])
      obtain ⟨i, hi, hopen⟩ := ih hparts
      exact ⟨i + 1, by simpa using hi, hopen⟩

section Evaluation

variable {plan : Plan Task} {run : Run} {events : List RunEvent}
  {outcomes : Place → Outcome Unit}

/-- The leaves that have ended have ended in given ways. -/
def LeavesEnd (plan : Plan Task) (events : List RunEvent) (outcomes : Place → Outcome Unit) :
    Prop :=
  ∀ place task outcome, plan.at? place = some (.leaf task) →
    ⟨place, .ended outcome⟩ ∈ events → outcome = outcomes place

theorem LeavesEnd.part {mode : Mode} {nested : Bool} {plans : List (Plan Task)}
    {own : List RunEvent} (h : LeavesEnd (.group mode nested plans) (events ++ own) outcomes)
    {i : Nat} (hplan : plans[i]? = some plan) :
    LeavesEnd plan (within i events) fun place => outcomes (i :: place) := by
  intro place task outcome hleaf hended
  exact h (i :: place) task outcome ((Plan.at?_inside hplan place).trans hleaf)
    (List.mem_append_left _ (mem_within.1 hended))

/-- A sequential group has the first outcome of its parts that is not good. -/
theorem Stands.outcome_sequential {parts : List Run} {outcome : Outcome Unit} {own : List RunEvent}
    {values : List (Outcome Unit)} (h : Stands False .sequential parts (.closed outcome) own)
    (hlength : values.length = parts.length)
    (hvalue : ∀ (i : Nat) (value : Outcome Unit), parts[i]? = some (.closed value) →
      values[i]? = some value) :
    outcome = (values.find? fun value => !value.isOk).getD (.ok ()) := by
  generalize hclosed : Run.closed outcome = run at h
  cases h with
  | underWay => exact absurd hclosed (by simp)
  | refused _ _ hrefused => exact hrefused.elim
  | done count =>
    obtain rfl := Run.closed.inj hclosed
    have hnone : values.find? (fun value => !value.isOk) = none := by
      rw [List.find?_eq_none]
      intro value hmem
      obtain ⟨i, hget⟩ := List.getElem?_of_mem hmem
      have hlt : i < count := by
        have hi := (List.getElem?_eq_some_iff.1 hget).1
        simpa [hlength] using hi
      rw [hvalue i (.ok ()) (by simp [hlt])] at hget
      rw [← Option.some.inj hget]
      simp [Outcome.isOk]
    rw [hnone]
    rfl
  | stopped index stopping rest hstop =>
    obtain rfl := Run.closed.inj hclosed
    have hfirst : values.find? (fun value => !value.isOk) = some outcome := by
      obtain ⟨hindex, hget⟩ := List.getElem?_eq_some_iff.1 (hvalue index outcome (by simp))
      refine List.find?_eq_some_iff_getElem.2 ⟨by simp [hstop], index, hindex, hget, fun j hj => ?_⟩
      have hpassed : (List.replicate index passed ++ .closed outcome ::
          rest.map .waiting)[j]? = some passed := by
        rw [List.getElem?_append_left (by simpa using hj)]
        simp [hj]
      obtain ⟨_, hgood⟩ := List.getElem?_eq_some_iff.1 (hvalue j (.ok ()) hpassed)
      rw [hgood]
      rfl
    rw [hfirst]
    rfl

/-- A parallel group combines the outcomes of all its parts. -/
theorem Stands.outcome_parallel {mayRefuse : Prop} {parts : List Run} {outcome : Outcome Unit}
    {own : List RunEvent} {values : List (Outcome Unit)}
    (h : Stands mayRefuse .parallel parts (.closed outcome) own)
    (hlength : values.length = parts.length)
    (hvalue : ∀ (i : Nat) (value : Outcome Unit), parts[i]? = some (.closed value) →
      values[i]? = some value) :
    outcome = combine values := by
  generalize hclosed : Run.closed outcome = run at h
  cases h with
  | apart => exact absurd hclosed (by simp)
  | settled parts outcomes houtcomes =>
    obtain rfl := Run.closed.inj hclosed
    obtain rfl := outcomes?_eq_some_iff.1 houtcomes
    have hall : values = outcomes := by
      refine List.ext_getElem? fun i => ?_
      by_cases hi : i < outcomes.length
      · rw [List.getElem?_eq_getElem hi]
        exact hvalue i _ (by simp [hi])
      · rw [List.getElem?_eq_none (by simpa [hlength] using hi),
          List.getElem?_eq_none (by omega)]
    rw [hall]

/-- **A run that is over has the outcome of the evaluation**, if nothing was cancelled. -/
theorem Traced.outcome_eq (h : Traced False plan run events) {outcome : Outcome Unit}
    (hclosed : run = .closed outcome) (hleaves : LeavesEnd plan events outcomes) :
    outcome = plan.evaluate outcomes := by
  induction h generalizing outcomes outcome with
  | waiting | working => exact absurd hclosed (by simp)
  | refused _ hrefused => exact hrefused.elim
  | @finished task past outcome' htrace =>
    obtain rfl := Run.closed.inj hclosed
    exact hleaves [] task outcome' rfl (by simp [eventsHere])
  | @group mode nested plans parts run events own hlen hparts hplaces horder hstands ih =>
    -- The outcome of each part that is closed is its value.
    have hvalue : ∀ (i : Nat) (value : Outcome Unit), parts[i]? = some (.closed value) →
        (Plan.evaluateAll outcomes 0 plans)[i]? = some value := by
      intro i value hpart
      obtain ⟨plan, hplan⟩ := exists_getElem?_of_length_eq hlen hpart
      rw [Plan.getElem?_evaluateAll, hplan, Nat.zero_add, Option.map_some,
        ← ih i _ _ hplan hpart rfl (hleaves.part hplan)]
    have hlength : (Plan.evaluateAll outcomes 0 plans).length = parts.length := by
      rw [Plan.length_evaluateAll, hlen]
    subst hclosed
    cases mode with
    | sequential => exact hstands.outcome_sequential hlength hvalue
    | parallel => exact (hstands.outcome_parallel hlength hvalue).trans (combine_eq _)

/-- A panic that ends a plan is the panic of a leaf that no parallel group encloses. -/
def Plan.Enclosed {ℓ : Type} (plan : Plan ℓ) (place : Place) : Prop :=
  ∃ outer i rest nested parts, place = outer ++ i :: rest ∧
    plan.at? outer = some (.group .parallel nested parts)

theorem Plan.Enclosed.of_part {ℓ : Type} {nested : Bool} {parts : List (Plan ℓ)} {part : Plan ℓ}
    {i : Nat} {place : Place} (hpart : parts[i]? = some part)
    (h : (Plan.group .sequential nested parts).Enclosed (i :: place)) : part.Enclosed place := by
  obtain ⟨outer, j, rest, nested', parts', hplace, hgroup⟩ := h
  cases outer with
  | nil => exact absurd (Option.some.inj hgroup) (by simp)
  | cons k outer =>
    obtain ⟨rfl, rfl⟩ := List.cons.inj hplace
    rw [Plan.at?_inside hpart] at hgroup
    exact ⟨outer, j, rest, nested', parts', rfl, hgroup⟩

/-- **A panic escapes only from outside all parallel groups.** -/
theorem Traced.panic_escapes {mayRefuse : Prop} (h : Traced mayRefuse plan run events)
    {text : Option String} (hclosed : run = .closed (.panic text)) :
    ∃ place task, plan.at? place = some (.leaf task) ∧ ⟨place, .ended (.panic text)⟩ ∈ events ∧
      ¬ plan.Enclosed place := by
  induction h with
  | waiting | working => exact absurd hclosed (by simp)
  | refused => exact absurd hclosed (by simp [cancelledAt])
  | @finished task past outcome htrace =>
    obtain rfl := Run.closed.inj hclosed
    refine ⟨[], task, rfl, by simp [eventsHere], ?_⟩
    rintro ⟨outer, i, rest, _, _, hplace, -⟩
    exact absurd hplace (by simp)
  | @group mode nested plans parts run events own hlen hparts hplaces horder hstands ih =>
    cases hstands with
    | underWay | apart => exact absurd hclosed (by simp)
    | done => exact absurd hclosed (by simp)
    | refused => exact absurd hclosed (by simp [cancelledAt])
    | settled parts outcomes _ =>
      -- A parallel group ends well or with a fault.
      exact absurd (Run.closed.inj hclosed) (by rw [combine_eq]; split <;> simp)
    | stopped index outcome rest _ =>
      have hpart : (List.replicate index passed ++ .closed outcome :: rest.map .waiting)[index]? =
          some (.closed outcome) := by simp
      obtain ⟨plan, hplan⟩ := exists_getElem?_of_length_eq hlen hpart
      obtain ⟨place, task, hleaf, hended, hfree⟩ := ih index plan _ hplan hpart hclosed
      exact ⟨index :: place, task, (Plan.at?_inside hplan place).trans hleaf,
        List.mem_append_left _ (mem_within.1 hended),
        fun henclosed => hfree (henclosed.of_part hplan)⟩

/-! ## 3. Runs that are not over -/

/-- A leaf has begun and has not ended. -/
def UnderWay (plan : Plan Task) (events : List RunEvent) (place : Place) : Prop :=
  ∃ task, plan.at? place = some (.leaf task) ∧ ⟨place, .began⟩ ∈ events ∧
    ∀ outcome, ⟨place, .ended outcome⟩ ∉ events

theorem UnderWay.of_part {mode : Mode} {nested : Bool} {plans : List (Plan Task)}
    {place : Place} {i : Nat} (hplan : plans[i]? = some plan)
    (h : UnderWay plan (within i events) place) :
    UnderWay (.group mode nested plans) events (i :: place) := by
  obtain ⟨task, hleaf, hbegan, hended⟩ := h
  exact ⟨task, (Plan.at?_inside hplan place).trans hleaf, mem_within.1 hbegan,
    fun outcome hmem => hended outcome (mem_within.2 hmem)⟩

/-- **A run goes on.**  As long as it is not over, a task is under way, or a lane can be set going
or settled. -/
theorem Traced.goes_on {mayRefuse : Prop} (h : Traced mayRefuse plan run events)
    (hopen : run.outcome? = none) (c : Conditions) :
    (∃ place, UnderWay plan events place) ∨
      ∃ place cue, (cue = .start ∨ cue = .settle) ∧ (resumeAt c cue place run).isSome = true := by
  induction h with
  | waiting plan => exact .inr ⟨[], .start, .inl rfl, rfl⟩
  | refused | finished => exact absurd hopen (by simp [Run.outcome?])
  | @working task past thread htrace hunderWay =>
    refine .inl ⟨[], task, rfl, by simp [eventsHere], fun outcome hmem => ?_⟩
    have hpast : .ended outcome ∈ past := by simpa [eventsHere] using hmem
    exact absurd (htrace.talks _ hpast) (by simp [Occurrence.isTalk])
  | @group mode nested plans parts run events own hlen hparts hplaces horder hstands ih =>
    cases hstands with
    | done | refused | stopped | settled => exact absurd hopen (by simp [Run.outcome?])
    | underWay index current rest hcurrent =>
      have hpart : (List.replicate index passed ++ current :: rest.map .waiting)[index]? =
          some current := by simp
      obtain ⟨plan, hplan⟩ := exists_getElem?_of_length_eq hlen hpart
      rw [List.append_nil]
      rcases ih index plan _ hplan hpart hcurrent with
        ⟨place, hplace⟩ | ⟨place, cue, hcue, hturn⟩
      · exact .inl ⟨index :: place, hplace.of_part hplan⟩
      · refine .inr ⟨index :: place, cue, hcue, ?_⟩
        simpa [resumeAt] using hturn
    | apart parts =>
      rw [List.append_nil]
      cases hall : outcomes? parts with
      | some outcomes => exact .inr ⟨[], .settle, .inr rfl, by simp [resumeAt, hall]⟩
      | none =>
        obtain ⟨i, hi, hpart⟩ := exists_open_of_outcomes?_eq_none hall
        have hget : parts[i]? = some parts[i] := List.getElem?_eq_getElem hi
        obtain ⟨plan, hplan⟩ := exists_getElem?_of_length_eq hlen hget
        rcases ih i plan _ hplan hget hpart with ⟨place, hplace⟩ | ⟨place, cue, hcue, hturn⟩
        · exact .inl ⟨i :: place, hplace.of_part hplan⟩
        · refine .inr ⟨i :: place, cue, hcue, ?_⟩
          obtain ⟨turn, hturn⟩ := Option.isSome_iff_exists.1 hturn
          simp [resumeAt, hget, hturn]

end Evaluation

/-! ## 4. How often a run goes on by itself -/

namespace Plan

variable {ℓ : Type}

mutual

/-- How often a run of the plan goes on by itself at most: every lane is set going once, and every
parallel group is settled once. -/
def turns : Plan ℓ → Nat
  | .leaf _ => 0
  | .group .sequential _ parts => turnsOf parts
  | .group .parallel _ parts => 1 + parts.length + turnsOf parts

def turnsOf : List (Plan ℓ) → Nat
  | [] => 0
  | part :: parts => part.turns + turnsOf parts

end

end Plan

namespace Run

mutual

/-- How often a run can still go on by itself. -/
def pending : Run → Nat
  | .waiting plan => 1 + plan.turns
  | .working .. | .closed _ => 0
  | .sequence _ current rest => current.pending + Plan.turnsOf rest
  | .parallel parts => 1 + pendingOf parts

def pendingOf : List Run → Nat
  | [] => 0
  | part :: parts => part.pending + pendingOf parts

end

theorem pendingOf_waiting (parts : List (Plan Task)) :
    pendingOf (parts.map .waiting) = parts.length + Plan.turnsOf parts := by
  induction parts with
  | nil => rfl
  | cons part parts ih =>
    rw [List.map_cons, pendingOf, pending, ih, List.length_cons, Plan.turnsOf]
    omega

/-- A change of one part changes the sum by as much. -/
theorem pendingOf_set {parts : List Run} {i : Nat} {part : Run} (hpart : parts[i]? = some part)
    (next : Run) : pendingOf (parts.set i next) + part.pending =
      pendingOf parts + next.pending := by
  induction parts generalizing i with
  | nil => exact absurd hpart (by simp)
  | cons first parts ih =>
    cases i with
    | zero =>
      obtain rfl := Option.some.inj hpart
      rw [List.set_cons_zero, pendingOf, pendingOf]
      omega
    | succ i =>
      have hrest := ih (i := i) hpart
      rw [List.set_cons_succ, pendingOf, pendingOf]
      omega

theorem pending_taskTurn (task : Task)
    (step : List (Occurrence Request Request.Answer) × Thread Request Request.Answer Unit) :
    (taskTurn task step).run.pending = 0 := by
  obtain ⟨happened, thread⟩ := step
  cases thread <;> rfl

/-- A group has no more pending than its part and what is still to come. -/
theorem pending_ofPart (index : Nat) {rest : List (Plan Task)} (turn : Turn) (later : Unit → Turn)
    (hlater : (later ()).run.pending ≤ Plan.turnsOf rest) :
    (Turn.ofPart index rest turn later).run.pending ≤ turn.run.pending + Plan.turnsOf rest := by
  cases hrun : turn.run.outcome? with
  | none =>
    rw [Turn.ofPart_underWay hrun]
    exact Nat.le_refl _
  | some outcome =>
    have hclosed := outcome?_eq_some_iff.1 hrun
    by_cases hok : outcome.isOk = true
    · rw [Outcome.isOk_iff.1 hok] at hclosed
      rw [Turn.ofPart_passed hclosed, Turn.after_run]
      omega
    · rw [Turn.ofPart_stopped hclosed (by simpa using hok)]
      exact Nat.zero_le _

mutual

theorem pending_launch (c : Conditions) (plan : Plan Task) :
    (launch c plan).run.pending ≤ plan.turns := by
  match plan with
  | .leaf task =>
    unfold launch launchTask
    split
    · exact Nat.le_refl 0
    · rw [Turn.after_run, pending_taskTurn]
      exact Nat.zero_le _
  | .group .sequential nested parts => exact pending_launchFrom c 0 parts
  | .group .parallel nested parts =>
    unfold launch launchParts
    split
    · exact Nat.zero_le _
    · rw [pending, pendingOf_waiting, Plan.turns]
      omega

theorem pending_launchFrom (c : Conditions) (index : Nat) (parts : List (Plan Task)) :
    (launchFrom c index parts).run.pending ≤ Plan.turnsOf parts := by
  match parts with
  | [] => exact Nat.zero_le _
  | part :: rest =>
    unfold launchFrom
    split
    · exact Nat.zero_le _
    · have hpart := pending_launch c part
      have hgroup := pending_ofPart index (launch c part) (fun _ => launchFrom c (index + 1) rest)
        (pending_launchFrom c (index + 1) rest)
      rw [Plan.turnsOf]
      omega

end

/-- Whether a cue is one that a run gives itself: to set a lane going, or to settle a group. -/
def isOwnCue : Cue Request Request.Answer → Bool
  | .start | .settle => true
  | .reply _ | .wake | .interrupt => false

/-- **Every turn that a run gives itself is one of so many.** -/
theorem pending_resumeAt {c : Conditions} {cue : Cue Request Request.Answer} {place : Place}
    {run : Run} {turn : Turn} (h : resumeAt c cue place run = some turn) :
    turn.run.pending + (if isOwnCue cue then 1 else 0) ≤ run.pending := by
  have hsmall : (if isOwnCue cue then 1 else 0) ≤ 1 := by split <;> omega
  induction place generalizing run turn with
  | nil =>
    cases run with
    | closed outcome => exact absurd h (by simp [resumeAt])
    | sequence index current rest => exact absurd h (by simp [resumeAt])
    | waiting plan =>
      obtain ⟨-, rfl⟩ := resumeAt_waiting h
      have hlaunch := pending_launch c plan
      rw [pending]
      omega
    | working task thread =>
      cases cue with
      | start | settle =>
        obtain ⟨-, step, hstep, -⟩ := resumeAt_working h
        cases thread <;> exact absurd hstep (by simp [Thread.resume])
      | reply | wake | interrupt =>
        obtain ⟨-, step, -, rfl⟩ := resumeAt_working h
        rw [pending_taskTurn]
        exact Nat.le_refl 0
    | parallel parts =>
      rcases resumeAt_parallel h with ⟨outcomes, -, -, rfl⟩ | ⟨_, _, _, _, hplace, -, -, -⟩
      · rw [pending]
        have hclosed : (settle outcomes).run.pending = 0 := rfl
        omega
      · exact absurd hplace (by simp)
  | cons i place ih =>
    cases run with
    | closed outcome => exact absurd h (by simp [resumeAt])
    | waiting plan => exact absurd h (by simp [resumeAt])
    | working task thread => exact absurd h (by simp [resumeAt])
    | sequence index current rest =>
      obtain ⟨place', turn', hplace, hturn', rfl⟩ := resumeAt_sequence h
      obtain ⟨-, rfl⟩ := List.cons.inj hplace
      have hpart := ih hturn'
      have hgroup := pending_ofPart index turn' (fun _ => launchFrom c (index + 1) rest)
        (pending_launchFrom c (index + 1) rest)
      rw [pending]
      omega
    | parallel parts =>
      rcases resumeAt_parallel h with
        ⟨_, hplace, -, -⟩ | ⟨j, place', part, turn', hplace, hpart, hturn', rfl⟩
      · exact absurd hplace (by simp)
      · obtain ⟨rfl, rfl⟩ := List.cons.inj hplace
        have hinner := ih hturn'
        have hset := pendingOf_set hpart turn'.run
        rw [pending, pending]
        omega

end Run

/-! ## 5. Runs without a cancellation -/

/-- Whether a move is one that a run makes by itself. -/
def isOwnMove : Move Request Request.Answer → Bool
  | .resume _ cue _ => isOwnCue cue
  | .cancel | .pass _ | .drop => false

/-- **A process goes on by itself only so often**, if it carries out a run. -/
theorem Carries.pending_follow {σ : Type} {process : Process Request Request.Answer σ}
    {run : σ → Run} (hcarries : Carries process run) {s s' : Situation σ}
    {moves : List (Move Request Request.Answer)} {entries : List (Entry Request Request.Answer)}
    (h : s.follow process moves = some (entries, s')) :
    (run s'.state).pending + moves.countP isOwnMove ≤ (run s.state).pending := by
  induction moves generalizing s entries with
  | nil =>
    obtain ⟨rfl, rfl⟩ : [] = entries ∧ s = s' := by simpa [Situation.follow] using h
    exact Nat.le_refl _
  | cons move moves ih =>
    obtain ⟨now, next, later, hafter, hlater, rfl⟩ := Situation.follow_cons.1 h
    have hmoves := ih hlater
    rw [List.countP_cons]
    rcases Situation.after?_cases hafter with
      ⟨place, cue, factor, events, state, rfl, -, hturn, -, rfl⟩ | ⟨rfl, -, rfl⟩ |
      ⟨length, rfl, -, rfl⟩ | ⟨rfl, -, rfl⟩
    · obtain ⟨turn, hresume, hrun, -⟩ := hcarries _ _ _ _ _ _ hturn
      have hpending := pending_resumeAt hresume
      have hown : isOwnMove (.resume place cue factor) = isOwnCue cue := rfl
      rw [hown]
      dsimp only at hmoves
      rw [hrun] at hmoves
      omega
    · exact hmoves
    · exact hmoves
    · exact hmoves

theorem pending_follow {s s' : Situation Run} {moves : List (Move Request Request.Answer)}
    {entries : List (Entry Request Request.Answer)}
    (h : s.follow Run.process moves = some (entries, s')) :
    s'.state.pending + moves.countP isOwnMove ≤ s.state.pending :=
  Run.carries.pending_follow h

/-- What has ended has ended among the work. -/
theorem LeavesEnd.of_happened {plan : Plan Task} {events : List RunEvent}
    {outcomes : Place → Outcome Unit} (h : LeavesEnd plan events outcomes) :
    LeavesEnd plan (work events) outcomes :=
  fun place task outcome hleaf hended => h place task outcome hleaf (mem_work.1 hended).1

theorem UnderWay.of_work {plan : Plan Task} {events : List RunEvent} {place : Place}
    (h : UnderWay plan (work events) place) : UnderWay plan events place := by
  obtain ⟨task, hleaf, hbegan, hended⟩ := h
  exact ⟨task, hleaf, (mem_work.1 hbegan).1,
    fun outcome hmem => hended outcome (mem_work.2 ⟨hmem, rfl⟩)⟩

/-- **A run comes to the outcome of the evaluation.**  If the leaves that end do so in given ways
and nothing is cancelled, then a run that is over has the value of the plan as its outcome; a run
that is not over has a task under way or can go on by itself, which it does only so many times; and
a panic escapes only from a leaf outside all parallel groups. -/
theorem run_evaluates {plan : Plan Task} {now : Moment} {moves : List (Move Request Request.Answer)}
    {entries : List (Entry Request Request.Answer)} {s : Situation Run}
    {outcomes : Place → Outcome Unit}
    (hrun : (Run.about plan now false).follow Run.process moves = some (entries, s))
    (hmoves : Move.cancel ∉ moves) (hleaves : LeavesEnd plan (happened entries) outcomes) :
    (∀ outcome, s.state.outcome? = some outcome → outcome = plan.evaluate outcomes) ∧
    (s.state.outcome? = none → s.dropped = false → ∀ factor,
      (∃ place, UnderWay plan (happened entries) place) ∨
        ∃ place cue, isOwnCue cue = true ∧
          (s.after? Run.process (.resume place cue factor)).isSome = true) ∧
    moves.countP isOwnMove ≤ 1 + plan.turns ∧
    ∀ text, s.state.outcome? = some (.panic text) →
      ∃ place task, plan.at? place = some (.leaf task) ∧
        ⟨place, .ended (.panic text)⟩ ∈ happened entries ∧ ¬ plan.Enclosed place := by
  have hcancelled : s.cancelled = false := Situation.cancelled_of_follow hmoves hrun
  have htraced : Traced False plan s.state (work (happened entries)) :=
    (traced_follow hrun).mono (by simp [hcancelled])
  refine ⟨fun outcome houtcome => ?_, fun hopen hdropped factor => ?_, ?_, fun text hpanic => ?_⟩
  · exact htraced.outcome_eq (outcome?_eq_some_iff.1 houtcome) hleaves.of_happened
  · rcases htraced.goes_on hopen ⟨s.now, s.cancelled, factor⟩ with
      ⟨place, hplace⟩ | ⟨place, cue, hcue, hturn⟩
    · exact .inl ⟨place, hplace.of_work⟩
    · refine .inr ⟨place, cue, ?_, ?_⟩
      · rcases hcue with rfl | rfl <;> rfl
      · simpa [Situation.after?, hdropped, Run.process, Run.resume] using hturn
  · have hpending := pending_follow hrun
    have hstart : (Run.about plan now false).state.pending = 1 + plan.turns := rfl
    omega
  · obtain ⟨place, task, hleaf, hended, hfree⟩ :=
      htraced.panic_escapes (outcome?_eq_some_iff.1 hpanic)
    exact ⟨place, task, hleaf, (mem_work.1 hended).1, hfree⟩

namespace Sample

def errands : Plan Task :=
  .group .parallel false [.leaf ⟨"errand", .supplied 1 none⟩, .leaf ⟨"errand", .supplied 2 none⟩]

/-- The first errand breaks off, and the second one is refused. -/
def endings : Place → Outcome Unit
  | [0] => .panic (some "lost")
  | _ => .fault (.precondition "closed")

/-- The reply to an errand at a place. -/
def errandEnds (place : Place) : Move Request Request.Answer :=
  .resume place (.reply fun
    | .perform .. => endings place
    | _ => .panic none) 1

/-- The second errand begins and ends first. -/
def errandMoves : List (Move Request Request.Answer) :=
  [.resume [] .start 1, .resume [1] .start 1, .resume [0] .start 1, errandEnds [1], errandEnds [0],
   .resume [] .settle 1]

def errandRun : Option (List (Entry Request Request.Answer) × Situation Run) :=
  (Run.about errands ⟨0⟩ false).follow Run.process errandMoves

end Sample

/-- The failures come in the order of the parts, although the second errand ended first. -/
theorem run_evaluates_sample :
    .fault (.aggregate [.internal "executor" "task 0 panicked: lost", .precondition "closed"]) =
      Sample.errands.evaluate Sample.endings := by
  have hover : Sample.errandRun.isSome = true := rfl
  have hrun : (Run.about Sample.errands ⟨0⟩ false).follow Run.process Sample.errandMoves =
      some (Sample.errandRun.get hover) := (Option.some_get hover).symm
  have hmoves : Move.cancel ∉ Sample.errandMoves := by
    simp [Sample.errandMoves, Sample.errandEnds]
  have hleaves : LeavesEnd Sample.errands (happened (Sample.errandRun.get hover).1)
      Sample.endings := by
    intro place task outcome hleaf hended
    have hwork : work (happened (Sample.errandRun.get hover).1) =
        [⟨[1], .began⟩, ⟨[1], .asked (.perform 2 none)⟩, ⟨[0], .began⟩,
         ⟨[0], .asked (.perform 1 none)⟩, ⟨[1], .replied (.perform 2 none) (Sample.endings [1])⟩,
         ⟨[1], .ended (Sample.endings [1])⟩,
         ⟨[0], .replied (.perform 1 none) (Sample.endings [0])⟩,
         ⟨[0], .ended (Sample.endings [0])⟩,
         ⟨[], .ended (Sample.errands.evaluate Sample.endings)⟩] := rfl
    have hmem := mem_work.2 ⟨hended, rfl⟩
    rw [hwork] at hmem
    simp only [List.mem_cons, Event.mk.injEq, reduceCtorEq, and_false, Occurrence.ended.injEq,
      false_or, List.not_mem_nil, or_false] at hmem
    rcases hmem with ⟨rfl, rfl⟩ | ⟨rfl, rfl⟩ | ⟨rfl, -⟩
    · rfl
    · rfl
    · exact absurd (Option.some.inj hleaf) (by simp [Sample.errands])
  exact (run_evaluates hrun hmoves hleaves).1 _ rfl

end Teardown
