/-
# Which tasks are begun, and in what order

A task of a plan is due as soon as everything before it in the sequential groups around it has
ended well (`Due`).  Nothing else decides whether it is begun: a failure or a panic in another
lane does not.  If nothing is cancelled, a task is begun at most once, never before it is due, and
if it is due it has been begun or a lane that holds it can be set going; so in a run that is over
just the tasks are begun that were due.

`leaves_in_order` says this of every run, and with it that the parts of a sequential group come
one after the other, and that the end of the plan is the last event of all: no task is still under
way then.

* §1  tasks that are due.  `Traced.begun_of_due` and `Traced.due_of_begun` are the two halves,
      each by recursion on the plan.
* §2  no task is begun twice (`Traced.begun_once`).
* §3  runs.  The facts about the order of events come from the history of a run, those about tasks
      from its trace.

A run that is not over may have tasks that are due and not begun: their lane has not had its first
turn yet.  That is why being due is not said to be the same as being begun.
-/
import Teardown.Proofs.Ordering
import Teardown.Proofs.Parts

namespace Teardown

open Run

/-! ## 1. Tasks that are due -/

/-- Everything that comes before a place in a sequential group around it has ended well. -/
def Due (plan : Plan Task) (events : List RunEvent) (place : Place) : Prop :=
  ∀ outer i rest nested parts, place = outer ++ i :: rest →
    plan.at? outer = some (.group .sequential nested parts) →
    ∀ j, j < i → ⟨outer ++ [j], .ended (.ok ())⟩ ∈ events

section Due

variable {plan : Plan Task} {plans : List (Plan Task)} {mode : Mode} {nested : Bool} {run : Run}
  {events : List RunEvent} {place : Place} {i : Nat}

theorem Due.part (h : Due (.group mode nested plans) events (i :: place))
    (hplan : plans[i]? = some plan) : Due plan (within i events) place := by
  intro outer k rest nested' parts hplace hgroup j hj
  rw [mem_within]
  exact h (i :: outer) k rest nested' parts (by rw [hplace]; rfl)
    ((Plan.at?_inside hplan outer).trans hgroup) j hj

/-- Whatever comes before a part of a sequential group, in the group itself, has ended well. -/
theorem Due.earlier (h : Due (.group .sequential nested plans) events (i :: place)) {j : Nat}
    (hj : j < i) : ⟨[], .ended (.ok ())⟩ ∈ within j events :=
  mem_within.2 (h [] i place nested plans rfl rfl j hj)

/-- **A task that is due** has been begun, or a lane that holds it can be set going. -/
theorem Traced.begun_of_due (h : Traced False plan run events) {task : Task}
    (hleaf : plan.at? place = some (.leaf task)) (hdue : Due plan events place) :
    ⟨place, .began⟩ ∈ events ∨ ∃ outer rest, place = outer ++ rest ∧
      ∀ c, (resumeAt c .start outer run).isSome = true := by
  induction h generalizing place with
  | waiting plan => exact .inr ⟨[], place, rfl, fun _ => rfl⟩
  | refused _ hrefused => exact hrefused.elim
  | working htrace _ =>
    cases place with
    | nil => exact .inl (by simp [eventsHere])
    | cons i place => exact absurd hleaf (by simp [Plan.at?])
  | finished htrace =>
    cases place with
    | nil => exact .inl (by simp [eventsHere])
    | cons i place => exact absurd hleaf (by simp [Plan.at?])
  | @group mode nested plans parts run events own hlen hparts hplaces horder hstands ih =>
    obtain ⟨i, place, plan, rfl, hplan, hinner⟩ := Plan.at?_group hleaf
    obtain ⟨part, hpart⟩ := exists_getElem?_of_length_eq hlen.symm hplan
    have hduePart := hdue.part hplan
    rw [hstands.within_append_own] at hduePart
    rcases ih i plan part hplan hpart hinner hduePart with hbegan | ⟨outer, rest, rfl, hstart⟩
    · exact .inl (List.mem_append_left _ (mem_within.1 hbegan))
    -- The lane lies in a part that is still open, and that part must be the current one.
    have hopen : ∀ outcome, part ≠ .closed outcome := by
      rintro outcome rfl
      have hnone := hstart ⟨⟨0⟩, false, 1⟩
      rw [resumeAt_closed] at hnone
      exact absurd hnone (by simp)
    have hearlier : ∀ j current, mode = .sequential → j < i → parts[j]? = some current →
        current = passed := by
      rintro j current rfl hj hcurrent
      obtain ⟨plan', hplan'⟩ := exists_getElem?_of_length_eq hlen hcurrent
      have hended := hdue.earlier hj
      rw [hstands.within_append_own] at hended
      exact (hparts j plan' current hplan' hcurrent).ended_iff.1 hended
    cases hstands with
    | refused _ _ hrefused => exact hrefused.elim
    | done count =>
      exact absurd (List.eq_of_mem_replicate (List.mem_of_getElem? hpart)) (hopen (.ok ()))
    | settled parts outcomes houtcomes =>
      obtain rfl := outcomes?_eq_some_iff.1 houtcomes
      obtain ⟨outcome, -, hclosed⟩ := List.mem_map.1 (List.mem_of_getElem? hpart)
      exact absurd hclosed.symm (hopen outcome)
    | stopped index outcome rest' hstop =>
      rcases Nat.lt_or_eq_of_le (le_of_open hpart hopen) with hi | rfl
      · have hpassed := hearlier index (.closed outcome) rfl hi (by simp)
        rw [Run.closed.inj hpassed] at hstop
        exact absurd hstop (by simp [Outcome.isOk])
      · obtain rfl : Run.closed outcome = part := by simpa using hpart
        exact absurd rfl (hopen outcome)
    | underWay index current rest' hcurrent =>
      rcases Nat.lt_or_eq_of_le (le_of_open hpart hopen) with hi | rfl
      · have hpassed := hearlier index current rfl hi (by simp)
        rw [hpassed] at hcurrent
        exact absurd hcurrent (by simp [Run.outcome?])
      · obtain rfl : current = part := by simpa using hpart
        refine .inr ⟨index :: outer, rest, rfl, fun c => ?_⟩
        simpa [resumeAt] using hstart c
    | apart parts =>
      refine .inr ⟨i :: outer, rest, rfl, fun c => ?_⟩
      obtain ⟨turn, hturn⟩ := Option.isSome_iff_exists.1 (hstart c)
      simp [resumeAt, hpart, hturn]

/-- Two places that part in a sequential group come one before the other. -/
theorem Plan.precedes_of_at? {ℓ : Type} {plan : Plan ℓ} {outer : Place} {parts : List (Plan ℓ)}
    (h : plan.at? outer = some (.group .sequential nested parts)) {j : Nat} (hj : j < i)
    (p q : Place) : plan.Precedes (outer ++ j :: p) (outer ++ i :: q) := by
  induction outer generalizing plan with
  | nil =>
    obtain rfl := Option.some.inj h
    exact .here hj
  | cons k outer ih =>
    obtain ⟨mode, nested', parts', part, rfl, hpart, hinner⟩ := Plan.at?_cons h
    exact .inside hpart (ih hinner)

theorem Plan.at?_append {ℓ : Type} (plan : Plan ℓ) (p q : Place) :
    plan.at? (p ++ q) = (plan.at? p).bind (Plan.at? q) := by
  induction p generalizing plan with
  | nil => rfl
  | cons i p ih =>
    cases plan with
    | leaf task => rfl
    | group mode nested parts =>
      rw [List.cons_append, at?, at?, Option.bind_assoc]
      exact congrArg _ (funext fun part => ih part)

/-- **No task is begun before it is due.** -/
theorem Traced.due_of_begun {mayRefuse : Prop} {before after : List RunEvent}
    (h : Traced mayRefuse plan run (work (before ++ ⟨place, .began⟩ :: after))) {task : Task}
    (hleaf : plan.at? place = some (.leaf task)) : Due plan before place := by
  have hsplit : work (before ++ ⟨place, .began⟩ :: after) =
      work before ++ ⟨place, .began⟩ :: work after := by
    rw [work_append]
    rfl
  rw [hsplit] at h
  intro outer i rest nested parts hplace hgroup j hj
  have hpart : ∃ node, plan.at? (outer ++ [j]) = some node := by
    rw [hplace, Plan.at?_append, hgroup, Option.bind_some] at hleaf
    obtain ⟨k, rest', part, hsame, hpart, -⟩ := Plan.at?_group hleaf
    obtain ⟨rfl, rfl⟩ := List.cons.inj hsame
    have hlt : j < parts.length := Nat.lt_trans hj (List.getElem?_eq_some_iff.1 hpart).1
    refine ⟨parts[j], ?_⟩
    rw [Plan.at?_append, hgroup, Option.bind_some, Plan.at?, List.getElem?_eq_getElem hlt]
    rfl
  obtain ⟨node, hnode⟩ := hpart
  obtain ⟨hpassed, -⟩ :=
    h.passed_before (Plan.precedes_of_at? hgroup hj [] rest) hplace hnode
  have hended : ⟨[], .ended (.ok ())⟩ ∈ under (outer ++ [j]) (work before) :=
    hpassed.ended_iff.2 rfl
  have hmem := mem_under.1 hended
  rw [List.append_nil] at hmem
  exact (mem_work.1 hmem).1

/-! ## 2. Tasks are begun once -/

/-- **No task is begun twice.** -/
theorem Traced.begun_once {mayRefuse : Prop} (h : Traced mayRefuse plan run (work events))
    {task : Task} (hleaf : plan.at? place = some (.leaf task)) :
    (occurrencesAt place events).countP Occurrence.isBegan ≤ 1 := by
  obtain ⟨run', htraced, -⟩ := h.at? hleaf
  rw [countP_isBegan_deeds, ← occurrencesAt_work, occurrencesAt_under]
  generalize under place (work events) = seen at htraced
  cases htraced with
  | waiting => exact Nat.zero_le 1
  | refused => exact Nat.zero_le 1
  | working htrace _ =>
    rw [occurrencesAt_here, List.countP_cons, htrace.no_begin]
    exact Nat.le_refl 1
  | finished htrace =>
    rw [occurrencesAt_here, List.cons_append, List.countP_cons, List.countP_append,
      htrace.no_begin]
    exact Nat.le_refl 1

end Due

/-! ## 3. Runs -/

/-- In a sequential group nothing happens in a part after something has happened in a later one. -/
theorem History.no_return {plan : Plan Task} {run : Run} {before after : List RunEvent}
    {e : RunEvent} (h : History plan run (before ++ e :: after)) {outer : Place} {nested : Bool}
    {parts : List (Plan Task)} (hgroup : plan.at? outer = some (.group .sequential nested parts))
    {i j : Nat} (hij : i < j) {p : Place} (he : e.place = outer ++ j :: p) :
    ∀ e' ∈ after, ∀ q, e'.place ≠ outer ++ i :: q := by
  intro e' he' q hplace
  obtain ⟨run', hhistory⟩ := h.at? hgroup
  obtain ⟨horder, -⟩ := hhistory.parts_in_order
  rw [under_append, under_cons_below he] at horder
  have hlater := (List.pairwise_cons.1 (List.pairwise_append.1 horder).2.1).1
  have hmem : ⟨i :: q, e'.occurrence⟩ ∈ under outer after := by
    rw [mem_under, ← hplace]
    exact he'
  have hle : j ≤ i := hlater _ hmem j i p q rfl rfl
  omega

/-- **Tasks in their order.**  In every run that nobody cancels, a task is begun at most once and
not before it is due; a task that is due has been begun, or a lane that holds it can be set going,
so it has been begun if the run is over.  The parts of a sequential group come one after the other,
with all that happens in them.  A run that is over has its end as its last event, and by then every
task that was begun has ended. -/
theorem leaves_in_order {plan : Plan Task} {now : Moment}
    {moves : List (Move Request Request.Answer)} {entries : List (Entry Request Request.Answer)}
    {s : Situation Run}
    (hrun : (Run.about plan now false).follow Run.process moves = some (entries, s))
    (hmoves : Move.cancel ∉ moves) :
    (∀ place task, plan.at? place = some (.leaf task) →
      (occurrencesAt place (happened entries)).countP Occurrence.isBegan ≤ 1 ∧
      (∀ before after, happened entries = before ++ ⟨place, .began⟩ :: after →
        Due plan before place) ∧
      (Due plan (happened entries) place →
        ⟨place, .began⟩ ∈ happened entries ∨ s.state.outcome? = none ∧
          ∃ outer rest, place = outer ++ rest ∧ (s.dropped = false → ∀ factor,
            (s.after? Run.process (.resume outer .start factor)).isSome = true))) ∧
    (∀ outer nested parts i j, plan.at? outer = some (.group .sequential nested parts) → i < j →
      ∀ before e after p, happened entries = before ++ e :: after → e.place = outer ++ j :: p →
        ∀ e' ∈ after, ∀ q, e'.place ≠ outer ++ i :: q) ∧
    (∀ outcome, s.state.outcome? = some outcome →
      ∃ before, happened entries = before ++ [⟨[], .ended outcome⟩]) ∧
    ∀ before after outcome, happened entries = before ++ ⟨[], .ended outcome⟩ :: after →
      after = [] ∧ s.state.outcome? = some outcome ∧
      ∀ place task, plan.at? place = some (.leaf task) → ⟨place, .began⟩ ∈ happened entries →
        ∃ outcome', ⟨place, .ended outcome'⟩ ∈ happened entries := by
  have hhistory := history_follow hrun hmoves
  have hcancelled : s.cancelled = false := Situation.cancelled_of_follow hmoves hrun
  have htraced : Traced False plan s.state (work (happened entries)) :=
    (traced_follow hrun).mono (by simp [hcancelled])
  refine ⟨fun place task hleaf => ⟨htraced.begun_once hleaf, ?_, ?_⟩, ?_, ?_, ?_⟩
  · intro before after hbegan
    rw [hbegan] at htraced
    exact htraced.due_of_begun hleaf
  · intro hdue
    have hwork : Due plan (work (happened entries)) place := by
      intro outer i rest nested parts hplace hgroup j hj
      exact mem_work.2 ⟨hdue outer i rest nested parts hplace hgroup j hj, rfl⟩
    rcases htraced.begun_of_due hleaf hwork with hbegan | ⟨outer, rest, hplace, hstart⟩
    · exact .inl (mem_work.1 hbegan).1
    · have hopen : s.state.outcome? = none := by
        cases hrun : s.state.outcome? with
        | none => rfl
        | some outcome =>
          have hnone := hstart ⟨s.now, s.cancelled, 1⟩
          rw [outcome?_eq_some_iff.1 hrun, resumeAt_closed] at hnone
          exact absurd hnone (by simp)
      refine .inr ⟨hopen, outer, rest, hplace, fun hdropped factor => ?_⟩
      simpa [Situation.after?, hdropped, Run.process, Run.resume] using
        hstart ⟨s.now, s.cancelled, factor⟩
  · intro outer nested parts i j hgroup hij before e after p hevents he
    rw [hevents] at hhistory
    exact hhistory.no_return hgroup hij he
  · intro outcome houtcome
    exact hhistory.ends_last.1 outcome (outcome?_eq_some_iff.1 houtcome)
  · intro before after outcome hevents
    obtain ⟨hnone, hclosed⟩ := hhistory.ends_last.2 before after outcome hevents
    refine ⟨hnone, outcome?_eq_some_iff.2 hclosed, fun place task hleaf hbegan => ?_⟩
    obtain ⟨outcome', hended⟩ :=
      htraced.ended_of_closed hclosed hleaf (mem_work.2 ⟨hbegan, rfl⟩)
    exact ⟨outcome', (mem_work.1 hended).1⟩

namespace Sample

/-- Two pairs of errands side by side. -/
def pairs : Plan Task :=
  .group .parallel false
    [.group .sequential true
       [.leaf ⟨"errand", .supplied 1 none⟩, .leaf ⟨"errand", .supplied 2 none⟩],
     .group .sequential true
       [.leaf ⟨"errand", .supplied 3 none⟩, .leaf ⟨"errand", .supplied 4 none⟩]]

def pairMoves : List (Move Request Request.Answer) :=
  [.resume [] .start 1, .resume [0] .start 1, .resume [1] .start 1,
   mishap [0, 0] (.panic (some "lost")), mishap [1, 0] (.ok ()), mishap [1, 1] (.ok ()),
   .resume [] .settle 1]

def pairRun : Option (List (Entry Request Request.Answer) × Situation Run) :=
  (Run.about pairs ⟨0⟩ false).follow Run.process pairMoves

end Sample

/-- The second errand of the second pair is due and is begun, although the first pair broke off. -/
theorem leaves_in_order_of_pairs :
    ∃ (entries : List (Entry Request Request.Answer)) (s : Situation Run),
      Sample.pairRun = some (entries, s) ∧ Due Sample.pairs (happened entries) [1, 1] ∧
      ⟨[1, 1], .began⟩ ∈ happened entries ∧
      ∃ before, happened entries = before ++
        [⟨[], .ended (.fault (.aggregate [.internal "executor" "task 0 panicked: lost"]))⟩] := by
  have hover : Sample.pairRun.isSome = true := rfl
  have hrun : (Run.about Sample.pairs ⟨0⟩ false).follow Run.process Sample.pairMoves =
      some (Sample.pairRun.get hover) := (Option.some_get hover).symm
  have hmoves : Move.cancel ∉ Sample.pairMoves := by
    simp [Sample.pairMoves, Sample.mishap]
  have hwork : (work (happened (Sample.pairRun.get hover).1)).drop 7 =
      [⟨[1, 0], .replied (.perform 3 none) (.ok ())⟩, ⟨[1, 0], .ended (.ok ())⟩,
       ⟨[1, 1], .began⟩, ⟨[1, 1], .asked (.perform 4 none)⟩,
       ⟨[1, 1], .replied (.perform 4 none) (.ok ())⟩, ⟨[1, 1], .ended (.ok ())⟩,
       ⟨[1], .ended (.ok ())⟩,
       ⟨[], .ended (.fault (.aggregate [.internal "executor" "task 0 panicked: lost"]))⟩] := rfl
  have hdue : Due Sample.pairs (happened (Sample.pairRun.get hover).1) [1, 1] := by
    intro outer i rest nested parts hplace hgroup j hj
    match outer with
    | [] => exact absurd (Option.some.inj hgroup) (by simp [Sample.pairs])
    | [k] =>
      obtain ⟨rfl, hrest⟩ := List.cons.inj hplace
      obtain ⟨rfl, -⟩ := List.cons.inj hrest
      obtain rfl : j = 0 := by omega
      refine (mem_work.1 (List.mem_of_mem_drop (i := 7) ?_)).1
      rw [hwork]
      exact List.mem_cons_of_mem _ List.mem_cons_self
    | k :: l :: outer => exact absurd hplace (by simp)
  obtain ⟨hleaves, -, hends, -⟩ := leaves_in_order hrun hmoves
  have hclosed : (Sample.pairRun.get hover).2.state.outcome? =
      some (.fault (.aggregate [.internal "executor" "task 0 panicked: lost"])) := rfl
  refine ⟨(Sample.pairRun.get hover).1, (Sample.pairRun.get hover).2, (Option.some_get hover).symm,
    hdue, ?_, hends _ hclosed⟩
  rcases (hleaves [1, 1] _ rfl).2.2 hdue with hbegan | ⟨hopen, -⟩
  · exact hbegan
  · exact absurd (hclosed.symm.trans hopen) (by simp)

end Teardown
