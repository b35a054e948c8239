/-
# Success and completion

An execution that reports success has finished all its work: every task was begun once, and its
operation ended well (the first half of `execution_completion`).  The other way round, a plan in
which every group has something to do and all of whose tasks have ended well can only come to a
success, and comes to it by settling the parallel groups that are still open (the second half).
The cancellation makes no difference to either, whenever it comes: a run that refuses to go on
leaves some task undone.

The first half is read off the traces of the leaves (`Traced.carriedOut`).  The second one needs
more than a look at the tasks, since all of them may have ended while some groups are still open.
So it is said of a run that it settles (`Settles`): there are places whose groups can be settled
one after the other until the run is closed with success.  This goes through sequential and
parallel groups (`Settles.sequence`, `Settles.parallel`), and `Traced.settles` finds the places by
induction on the plan.

A group without any task would have to be left out of the second half, because a cancelled run may
refuse it although nothing is undone; `Plan.Occupied` excludes it.
-/
import Teardown.Proofs.Reach

namespace Teardown

open Run

/-! ## 1. A success has finished all work -/

/-- A leaf was begun exactly once, and its one end was a good one. -/
def CarriedOut (events : List RunEvent) (place : Place) : Prop :=
  (occurrencesAt place events).countP Occurrence.isBegan = 1 ∧
    (occurrencesAt place events).filterMap Occurrence.end? = [.ok ()]

/-- A leaf that has ended well was carried out. -/
theorem Traced.carriedOut {mayRefuse : Prop} {task : Task} {place : Place} {events : List RunEvent}
    (h : Traced mayRefuse (.leaf task) passed (under place (work events))) :
    CarriedOut events place := by
  obtain ⟨past, htrace, hdeeds⟩ := h.passed_leaf
  constructor
  · rw [countP_isBegan_deeds, hdeeds, List.cons_append, List.countP_cons, List.countP_append,
      htrace.no_begin]
    rfl
  · rw [filterMap_end?_deeds, hdeeds, List.cons_append, List.filterMap_cons_none rfl,
      List.filterMap_append, htrace.no_end]
    rfl

/-! ## 2. Finished work comes to a success -/

/-- Every part of the plan has a task. -/
def Plan.Occupied {ℓ : Type} (plan : Plan ℓ) : Prop :=
  ∀ place node, place ≠ [] → plan.at? place = some node → node.isEmpty = false

/-- All leaves of the plan have begun and ended well. -/
def AllDone (plan : Plan Task) (events : List RunEvent) : Prop :=
  ∀ place task, plan.at? place = some (.leaf task) →
    ⟨place, .began⟩ ∈ events ∧ ⟨place, .ended (.ok ())⟩ ∈ events

/-- A plan with tasks has a leaf. -/
theorem Plan.exists_leaf {ℓ : Type} {plan : Plan ℓ} (h : plan.isEmpty = false) :
    ∃ place task, plan.at? place = some (.leaf task) := by
  have hne : plan.tasks ≠ [] := by
    intro hnil
    rw [Plan.isEmpty_iff.2 hnil] at h
    cases h
  obtain ⟨task, htask⟩ := List.exists_mem_of_ne_nil _ hne
  obtain ⟨place, hleaf⟩ := Plan.exists_at?_of_mem_tasks plan htask
  exact ⟨place, task, hleaf⟩

section Completion

variable {mayRefuse : Prop} {plan : Plan Task} {plans : List (Plan Task)} {mode : Mode}
  {nested : Bool} {run : Run} {events own : List RunEvent} {i : Nat}

theorem Plan.Occupied.part (h : (Plan.group mode nested plans).Occupied)
    (hplan : plans[i]? = some plan) : plan.Occupied ∧ plan.isEmpty = false := by
  have hat : ∀ place, (Plan.group mode nested plans).at? (i :: place) = plan.at? place :=
    Plan.at?_inside hplan
  exact ⟨fun place node _ hnode => h (i :: place) node (by simp) ((hat place).trans hnode),
    h [i] plan (by simp) (hat [])⟩

theorem AllDone.part (h : AllDone (.group mode nested plans) events)
    (hplan : plans[i]? = some plan) : AllDone plan (within i events) := by
  intro place task hleaf
  obtain ⟨hbegan, hended⟩ := h (i :: place) task ((Plan.at?_inside hplan place).trans hleaf)
  exact ⟨mem_within.2 hbegan, mem_within.2 hended⟩

theorem not_allDone_nil (h : plan.isEmpty = false) : ¬ AllDone plan [] := by
  intro hdone
  obtain ⟨place, task, hleaf⟩ := Plan.exists_leaf h
  exact absurd (hdone place task hleaf).1 List.not_mem_nil

/-- The run can be brought to a good end by settling parallel groups. -/
inductive Settles (c : Conditions) : Run → Prop
  | passed : Settles c passed
  | turn {run : Run} {place : Place} {turn : Turn} :
      resumeAt c .settle place run = some turn → Settles c turn.run → Settles c run

/-- What can be brought to a good end and is closed has come to it. -/
theorem Settles.of_closed {c : Conditions} {outcome : Outcome Unit}
    (h : Settles c (.closed outcome)) : outcome = .ok () := by
  generalize hrun : Run.closed outcome = run at h
  cases h with
  | passed => exact Run.closed.inj hrun
  | turn hturn _ =>
    rw [← hrun, resumeAt_closed] at hturn
    exact absurd hturn (by simp)

/-- A sequential group whose last part settles, settles. -/
theorem Settles.sequence {c : Conditions} {index : Nat} {current : Run}
    (h : Settles c current) (hopen : current.outcome? = none) :
    Settles c (.sequence index current []) := by
  induction h with
  | passed => exact absurd hopen (by simp [Run.outcome?])
  | @turn current place turn hturn hsettles ih =>
    have hgroup : resumeAt c .settle (index :: place) (.sequence index current []) =
        some (Turn.ofPart index [] turn fun _ => launchFrom c (index + 1) []) := by
      simp [resumeAt, hturn]
    refine .turn hgroup ?_
    cases hrun : turn.run.outcome? with
    | none =>
      rw [Turn.ofPart_underWay hrun]
      exact ih hrun
    | some outcome =>
      have hclosed := outcome?_eq_some_iff.1 hrun
      rw [hclosed] at hsettles
      rw [hsettles.of_closed] at hclosed
      rw [Turn.ofPart_passed hclosed]
      exact .passed

/-- A parallel group settles if it does once one of its parts has ended well. -/
theorem Settles.parallel_set {c : Conditions} {part : Run} (h : Settles c part) {parts : List Run}
    (hpart : parts[i]? = some part) (hgroup : Settles c (.parallel (parts.set i Teardown.passed))) :
    Settles c (.parallel parts) := by
  induction h generalizing parts with
  | passed =>
    obtain ⟨hi, hget⟩ := List.getElem?_eq_some_iff.1 hpart
    rwa [← hget, List.set_getElem_self] at hgroup
  | @turn part place turn hturn _ ih =>
    have hstep : resumeAt c .settle (i :: place) (.parallel parts) =
        some ⟨turn.happened.map (Event.inside i), .parallel (parts.set i turn.run)⟩ := by
      simp [resumeAt, hpart, hturn]
    have hi := (List.getElem?_eq_some_iff.1 hpart).1
    refine .turn hstep (ih ?_ ?_)
    · rw [List.getElem?_set_self hi]
    · rwa [List.set_set]

/-- A parallel group settles if all its parts do. -/
theorem Settles.parallel {c : Conditions} {parts : List Run} (h : ∀ part ∈ parts, Settles c part) :
    Settles c (.parallel parts) := by
  -- The parts are brought to their ends from the first to the last.
  have hrest : ∀ count, Settles c (.parallel (List.replicate count Teardown.passed ++ parts)) := by
    induction parts with
    | nil =>
      intro count
      have hall : outcomes? (List.replicate count Teardown.passed ++ []) =
          some (List.replicate count (.ok ())) := by
        rw [outcomes?_eq_some_iff, List.append_nil, List.map_replicate]
      have hcombine : combine (List.replicate count (.ok ())) = .ok () :=
        combine_eq_ok_iff.2 fun outcome hmem => List.eq_of_mem_replicate hmem
      have hturn : resumeAt c .settle []
          (.parallel (List.replicate count Teardown.passed ++ [])) =
            some (settle (List.replicate count (.ok ()))) := by
        rw [resumeAt, hall]
        rfl
      refine .turn hturn ?_
      rw [settle, Turn.after_run, Turn.close_run, hcombine]
      exact .passed
    | cons part parts ih =>
      intro count
      have hnext := ih (fun part' hpart' => h part' (List.mem_cons_of_mem _ hpart')) (count + 1)
      refine (h part List.mem_cons_self).parallel_set (i := count) (by simp) ?_
      rw [List.set_append_right _ _ (by simp), List.length_replicate, Nat.sub_self,
        List.set_cons_zero]
      rwa [List.replicate_succ', List.append_assoc] at hnext
  exact hrest 0

/-- A group comes to a good end if all its parts do and none of them is still waiting. -/
theorem Stands.settles {parts : List Run} {c : Conditions} (h : Stands mayRefuse mode parts run own)
    (hsettles : ∀ part ∈ parts, Settles c part) (hbegun : ∀ plan, .waiting plan ∉ parts) :
    Settles c run := by
  cases h with
  | done count => exact .passed
  | underWay index current rest hcurrent =>
    cases rest with
    | nil => exact (hsettles current (by simp)).sequence hcurrent
    | cons next rest => exact absurd (by simp) (hbegun next)
  | refused index rest _ hrest =>
    cases rest with
    | nil => exact absurd rfl hrest
    | cons next rest => exact absurd (by simp) (hbegun next)
  | stopped index outcome rest hstop =>
    rw [(hsettles (.closed outcome) (by simp)).of_closed] at hstop
    exact absurd hstop (by simp [Outcome.isOk])
  | apart parts => exact Settles.parallel hsettles
  | settled parts outcomes houtcomes =>
    obtain rfl := outcomes?_eq_some_iff.1 houtcomes
    have hcombine : combine outcomes = .ok () := combine_eq_ok_iff.2 fun outcome hmem =>
      (hsettles _ (List.mem_map_of_mem hmem)).of_closed
    rw [hcombine]
    exact .passed

/-- **Where all is done, a good end can be reached.** -/
theorem Traced.settles (h : Traced mayRefuse plan run events) (c : Conditions)
    (hplan : plan.isEmpty = false) (hoccupied : plan.Occupied) (hdone : AllDone plan events) :
    Settles c run := by
  induction h with
  | waiting plan => exact absurd hdone (not_allDone_nil hplan)
  | refused task _ =>
    obtain ⟨hbegan, -⟩ := hdone [] task rfl
    exact absurd hbegan (by simp [eventsHere])
  | @working task past thread htrace _ =>
    obtain ⟨-, hended⟩ := hdone [] task rfl
    have hpast : .ended (.ok ()) ∈ past := by simpa [eventsHere] using hended
    exact absurd (htrace.talks _ hpast) (by simp [Occurrence.isTalk])
  | @finished task past outcome htrace =>
    obtain ⟨-, hended⟩ := hdone [] task rfl
    have hmem : .ended (.ok ()) ∈ past ∨ Outcome.ok () = outcome := by
      simpa [eventsHere] using hended
    rcases hmem with hpast | rfl
    · exact absurd (htrace.talks _ hpast) (by simp [Occurrence.isTalk])
    · exact .passed
  | @group mode nested plans parts run events own hlen hparts hplaces horder hstands ih =>
    have hplans : ∀ part ∈ parts, ∃ (i : Nat) (plan : Plan Task), plans[i]? = some plan ∧
        parts[i]? = some part ∧ AllDone plan (within i events) := by
      intro part hmem
      obtain ⟨i, hpart⟩ := List.getElem?_of_mem hmem
      obtain ⟨plan, hplan⟩ := exists_getElem?_of_length_eq hlen hpart
      have hpartDone := hdone.part hplan
      rw [hstands.within_append_own] at hpartDone
      exact ⟨i, plan, hplan, hpart, hpartDone⟩
    refine hstands.settles (fun part hmem => ?_) fun waiting hmem => ?_
    · obtain ⟨i, plan, hplan, hpart, hpartDone⟩ := hplans part hmem
      obtain ⟨hinner, hnonempty⟩ := hoccupied.part hplan
      exact ih i plan part hplan hpart hnonempty hinner hpartDone
    · -- A part that is still waiting has a task that has not ended.
      obtain ⟨i, plan, hplan, hpart, hpartDone⟩ := hplans _ hmem
      obtain ⟨-, hnone⟩ := (hparts i plan _ hplan hpart).of_waiting
      rw [hnone] at hpartDone
      exact not_allDone_nil (hoccupied.part hplan).2 hpartDone

end Completion

/-! ## 3. Executions -/

/-- A good end that can be reached is reached by moves of the execution. -/
theorem Settles.follow {c : Conditions} {run : Run} (h : Settles c run) {s : Situation Execution}
    (hrun : s.state.run = run) (hnow : c.now = s.now) (hcancelled : c.cancelled = s.cancelled)
    (hdropped : s.dropped = false) :
    ∃ (places : List Place) (more : List (Entry Request Request.Answer)) (s' : Situation Execution),
      s.follow Execution.process (places.map fun place => .resume place .settle c.factor) =
        some (more, s') ∧ s'.state.outcome? = some (.ok ()) := by
  induction h generalizing s with
  | passed => exact ⟨[], [], s, rfl, by rw [Execution.outcome?, hrun]; rfl⟩
  | @turn run place turn hturn _ ih =>
    have hresume : s.state.resume ⟨s.now, s.cancelled, c.factor⟩ place .settle =
        some (Execution.ofTurn c s.state.tasks s.state.started turn) := by
      rw [Execution.resume, hrun, ← hnow, ← hcancelled]
      exact congrArg _ hturn
    have hafter : s.after? Execution.process (.resume place .settle c.factor) =
        some ((Execution.ofTurn c s.state.tasks s.state.started turn).1.map (Entry.mk s.now),
          { s with state := (Execution.ofTurn c s.state.tasks s.state.started turn).2 }) := by
      rw [Situation.after?, if_neg (by simp [hdropped])]
      exact congrArg _ hresume
    have hnext : (Execution.ofTurn c s.state.tasks s.state.started turn).2.run = turn.run := rfl
    obtain ⟨places, more, s', hfollow, hok⟩ := ih (s := { s with state := _ }) hnext hnow hcancelled
      hdropped
    exact ⟨place :: places, _ ++ more, s',
      Situation.follow_cons.2 ⟨_, _, more, hafter, hfollow, rfl⟩, hok⟩

/-- The execution of a plan without tasks is over at once, with success. -/
theorem execution_empty {plan : Plan Task} (hplan : plan.isEmpty = true) {c : Conditions}
    {moves : List (Move Request Request.Answer)} {entries : List (Entry Request Request.Answer)}
    {s : Situation Execution}
    (hrun : (Execution.about plan c).2.follow Execution.process moves = some (entries, s)) :
    s.state.run = passed := by
  refine Situation.follow_induction (fun s _ => s.state.run = passed) ?_ [] ?_ hrun
  · intro move _ s s' past now hpassed hafter
    rcases Situation.after?_cases hafter with
      ⟨place, cue, factor, events, state, -, -, hturn, -, rfl⟩ | ⟨-, -, rfl⟩ | ⟨_, -, -, rfl⟩ |
        ⟨-, -, rfl⟩
    · obtain ⟨turn, hresume, -, -⟩ := Execution.carries _ _ _ _ _ _ hturn
      rw [hpassed, resumeAt_closed] at hresume
      exact absurd hresume (by simp)
    · exact hpassed
    · exact hpassed
    · exact hpassed
  · simp [Execution.about, Execution.start, hplan]

/-- **Success and completion.**  An execution that reports success has carried out every task: each
was begun once, and its one end was a good one.  And if all tasks of a plan whose parts have tasks
have ended well, then no other end than success can be reported, and success is reported as soon as
the groups are settled. -/
theorem execution_completion {plan : Plan Task} {c : Conditions}
    {moves : List (Move Request Request.Answer)} {entries : List (Entry Request Request.Answer)}
    {s : Situation Execution}
    (hrun : (Execution.about plan c).2.follow Execution.process moves = some (entries, s)) :
    (s.state.outcome? = some (.ok ()) → ∀ place task, plan.at? place = some (.leaf task) →
      CarriedOut (happened ((Execution.about plan c).1 ++ entries)) place) ∧
    (plan.Occupied → AllDone plan (happened ((Execution.about plan c).1 ++ entries)) →
      (∀ outcome, s.state.outcome? = some outcome → outcome = .ok ()) ∧
      (s.dropped = false → ∀ factor, ∃ (places : List Place)
        (more : List (Entry Request Request.Answer)) (s' : Situation Execution),
        s.follow Execution.process (places.map fun place => .resume place .settle factor) =
          some (more, s') ∧ s'.state.outcome? = some (.ok ()))) := by
  cases hempty : plan.isEmpty with
  | true =>
    have hpassed := execution_empty hempty hrun
    refine ⟨fun _ place task hleaf => ?_,
      fun _ _ => ⟨fun outcome houtcome => ?_, fun _ factor => ?_⟩⟩
    · have htask := Plan.mem_tasks_of_at? hleaf
      have hsize : plan.size = 0 := by simpa [Plan.isEmpty] using hempty
      rw [← plan.length_tasks, List.length_eq_zero_iff] at hsize
      rw [hsize] at htask
      exact absurd htask List.not_mem_nil
    · have hclosed : s.state.run = .closed outcome := outcome?_eq_some_iff.1 houtcome
      exact Run.closed.inj (hclosed.symm.trans hpassed)
    · exact ⟨[], [], s, rfl, outcome?_eq_some_iff.2 hpassed⟩
  | false =>
    have htraced := traced_execution hempty hrun
    refine ⟨fun hok place task hleaf => ?_, fun hoccupied hdone => ?_⟩
    · have hpassed : s.state.run = passed := outcome?_eq_some_iff.1 hok
      rw [hpassed] at htraced
      exact (htraced.passed_at? hleaf).carriedOut
    · have hwork : AllDone plan (work (happened ((Execution.about plan c).1 ++ entries))) := by
        intro place task hleaf
        obtain ⟨hbegan, hended⟩ := hdone place task hleaf
        exact ⟨mem_work.2 ⟨hbegan, rfl⟩, mem_work.2 ⟨hended, rfl⟩⟩
      have hsettles := fun c => htraced.settles c hempty hoccupied hwork
      refine ⟨fun outcome houtcome => ?_, fun hdropped factor => ?_⟩
      · have hclosed : s.state.run = .closed outcome := outcome?_eq_some_iff.1 houtcome
        have hend := hsettles ⟨s.now, s.cancelled, 1⟩
        rw [hclosed] at hend
        exact hend.of_closed
      · exact (hsettles ⟨s.now, s.cancelled, factor⟩).follow rfl rfl rfl hdropped

namespace Sample

/-- Two errands, one after the other. -/
def round : Plan Task :=
  .group .sequential false [.leaf ⟨"errand", .supplied 1 none⟩, .leaf ⟨"errand", .supplied 2 none⟩]

def errandDone (place : Place) : Move Request Request.Answer :=
  .resume place (.reply fun
    | .perform .. => .ok ()
    | _ => .panic none) 1

def roundMoves : List (Move Request Request.Answer) := [errandDone [0], .cancel, errandDone [1]]

def roundRun : Option (List (Entry Request Request.Answer) × Situation Execution) :=
  (Execution.about round ⟨⟨0⟩, false, 1⟩).2.follow Execution.process roundMoves

/-- The round has a root and two leaves. -/
theorem place_of_round {place : Place} {node : Plan Task} (h : round.at? place = some node) :
    place = [] ∨ place = [0] ∨ place = [1] := by
  rcases place with _ | ⟨_ | _ | i, _ | ⟨j, rest⟩⟩ <;> simp_all [round, Plan.at?]

end Sample

/-- A cancellation during the last task makes no difference. -/
theorem execution_completion_sample :
    ∃ (entries : List (Entry Request Request.Answer)) (s : Situation Execution),
      Sample.roundRun = some (entries, s) ∧ s.cancelled = true ∧
      CarriedOut (happened ((Execution.about Sample.round ⟨⟨0⟩, false, 1⟩).1 ++ entries)) [1] ∧
      ∀ outcome, s.state.outcome? = some outcome → outcome = .ok () := by
  have hover : Sample.roundRun.isSome = true := rfl
  have hrun : (Execution.about Sample.round ⟨⟨0⟩, false, 1⟩).2.follow Execution.process
      Sample.roundMoves = some (Sample.roundRun.get hover) := (Option.some_get hover).symm
  have hoccupied : Sample.round.Occupied := by
    intro place node hplace hnode
    rcases Sample.place_of_round hnode with rfl | rfl | rfl
    · exact absurd rfl hplace
    · exact Option.some.inj hnode ▸ rfl
    · exact Option.some.inj hnode ▸ rfl
  have hwork : work (happened ((Execution.about Sample.round ⟨⟨0⟩, false, 1⟩).1 ++
      (Sample.roundRun.get hover).1)) =
        [⟨[0], .began⟩, ⟨[0], .asked (.perform 1 none)⟩, ⟨[0], .replied (.perform 1 none) (.ok ())⟩,
         ⟨[0], .ended (.ok ())⟩, ⟨[1], .began⟩, ⟨[1], .asked (.perform 2 none)⟩,
         ⟨[1], .replied (.perform 2 none) (.ok ())⟩, ⟨[1], .ended (.ok ())⟩,
         ⟨[], .ended (.ok ())⟩] := rfl
  have hdone : AllDone Sample.round (happened ((Execution.about Sample.round
      ⟨⟨0⟩, false, 1⟩).1 ++ (Sample.roundRun.get hover).1)) := by
    intro place task hleaf
    have hplace : place = [0] ∨ place = [1] := by
      rcases Sample.place_of_round hleaf with rfl | hplace
      · exact absurd (Option.some.inj hleaf) (by simp [Sample.round])
      · exact hplace
    refine ⟨(mem_work.1 ?_).1, (mem_work.1 ?_).1⟩ <;> rw [hwork] <;>
      rcases hplace with rfl | rfl <;> simp
  have hresult := execution_completion hrun
  exact ⟨_, _, (Option.some_get hover).symm, rfl, hresult.1 rfl [1] _ rfl,
    (hresult.2 hoccupied hdone).1⟩

end Teardown
