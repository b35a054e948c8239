/-
# The order of the work

`Plan.Precedes plan p q` says that somewhere on the way to two places they part in a sequential
group, and that `p` takes the earlier part there.  Then nothing happens at `q` before the node at
`p` has ended well, and nothing happens at `p` any more from then on (`Traced.passed_before`):
with failures, cancellation and parallel lanes anywhere else in the plan.

The leaf that asks for something carries out just the trace of its own activity
(`Traced.asked_at`), so what a task must have done before it ends well is read off its activity.

* §1  the order of two places.  At the group where they part, the later part has done something,
      so the earlier one has ended well (`Stands.passed_of_lt`); on the way down to that group the
      statement is about one part at a time, and the events of the other parts drop out.
* §2  whose request it is.  An event has one place, and at the place of a request there is a leaf,
      so its activity is the only one that can have made it.

Two places that part in a parallel group have no order, and nothing is said of them.
-/
import Teardown.Proofs.Reach

namespace Teardown

open Run

/-! ## 1. Earlier and later places -/

/-- The place `p` comes before the place `q` in a sequential group of the plan. -/
inductive Plan.Precedes {ℓ : Type} : Plan ℓ → Place → Place → Prop
  | here {nested : Bool} {parts : List (Plan ℓ)} {i j : Nat} {p q : Place} : i < j →
      Precedes (.group .sequential nested parts) (i :: p) (j :: q)
  | inside {mode : Mode} {nested : Bool} {parts : List (Plan ℓ)} {part : Plan ℓ} {i : Nat}
      {p q : Place} : parts[i]? = some part → Precedes part p q →
      Precedes (.group mode nested parts) (i :: p) (i :: q)

/-- A leaf of the front parts of a sequential group comes before a leaf of the parts in the back. -/
theorem Plan.precedes_of_not_mem {ℓ : Type} {nested : Bool} {front back : List (Plan ℓ)}
    {p q : Place} {task task' : ℓ}
    (hp : (Plan.group .sequential nested (front ++ back)).at? p = some (.leaf task))
    (hback : task ∉ tasksOf back)
    (hq : (Plan.group .sequential nested (front ++ back)).at? q = some (.leaf task'))
    (hfront : task' ∉ tasksOf front) :
    (Plan.group .sequential nested (front ++ back)).Precedes p q := by
  obtain ⟨i, j, p', q', rfl, rfl, hij⟩ := index_lt hp hback hq hfront
  exact .here hij

/-- A part of a sequential group has ended well as soon as a later one has done anything. -/
theorem Stands.passed_of_lt {mayRefuse : Prop} {parts : List Run} {run : Run} {own : List RunEvent}
    (h : Stands mayRefuse .sequential parts run own) {i j : Nat} {earlier later : Run}
    (hearlier : parts[i]? = some earlier) (hlater : parts[j]? = some later) (hij : i < j)
    (hbegun : ∀ plan, later ≠ .waiting plan) : earlier = passed := by
  -- Below the current part all have ended well, and above it all are waiting.
  have hfront : ∀ (index : Nat) (back : List Run), i < index →
      (List.replicate index passed ++ back)[i]? = some earlier → earlier = passed := by
    intro index back hi h
    rw [List.getElem?_append_left (by simpa using hi)] at h
    simpa [hi, eq_comm] using h
  have hback : ∀ (index : Nat) (rest : List (Plan Task)), index ≤ j →
      (List.replicate index passed ++ rest.map .waiting)[j]? = some later → False := by
    intro index rest hj h
    rw [List.getElem?_append_right (by simpa using hj), List.getElem?_map,
      Option.map_eq_some_iff] at h
    obtain ⟨plan, -, hplan⟩ := h
    exact hbegun plan hplan.symm
  have hmiddle : ∀ (index : Nat) (current : Run) (rest : List (Plan Task)),
      (List.replicate index passed ++ current :: rest.map .waiting)[i]? = some earlier →
      (List.replicate index passed ++ current :: rest.map .waiting)[j]? = some later →
      earlier = passed := by
    intro index current rest hi hj
    by_cases hlt : i < index
    · exact hfront index _ hlt hi
    · rw [List.getElem?_append_right (by simp; omega), List.length_replicate,
        show j - index = (j - index - 1) + 1 by omega, List.getElem?_cons_succ, List.getElem?_map,
        Option.map_eq_some_iff] at hj
      obtain ⟨plan, -, hplan⟩ := hj
      exact absurd hplan.symm (hbegun plan)
  cases h with
  | underWay index current rest _ => exact hmiddle index current rest hearlier hlater
  | stopped index outcome rest _ => exact hmiddle index _ rest hearlier hlater
  | done count => exact List.eq_of_mem_replicate (List.mem_of_getElem? hearlier)
  | refused index rest _ _ =>
    by_cases hlt : i < index
    · exact hfront index _ hlt hearlier
    · exact (hback index rest (by omega) hlater).elim

theorem Traced.begun {mayRefuse : Prop} {plan : Plan Task} {run : Run} {events : List RunEvent}
    {e : RunEvent} (h : Traced mayRefuse plan run events) (he : e ∈ events) :
    ∀ plan', run ≠ .waiting plan' := by
  rintro plan' rfl
  obtain ⟨-, rfl⟩ := h.of_waiting
  exact absurd he List.not_mem_nil

/-- In a sequential group nothing happens in a part after something has happened in a later one. -/
theorem InOrder.within_after {before after : List RunEvent} {e : RunEvent} {i j : Nat}
    {place : Place} (h : InOrder (before ++ e :: after)) (he : e.place = j :: place) (hij : i < j) :
    within i (e :: after) = [] := by
  refine List.filterMap_eq_nil_iff.2 fun x hx => ?_
  have hle : j ≤ x.place.headD 0 := by
    rcases List.mem_cons.1 hx with rfl | hx
    · simp [he]
    · have hafter := (List.pairwise_append.1 h).2.1
      simpa [he] using (List.pairwise_cons.1 hafter).1 x hx
  cases hplace : x.place with
  | nil => simp [Event.outside?, hplace]
  | cons k rest =>
    have hne : k ≠ i := by
      rw [hplace, List.headD_cons] at hle
      omega
    simp [Event.outside?, hplace, hne]

theorem Stands.own_ended {mayRefuse : Prop} {mode : Mode} {parts : List Run} {run : Run}
    {own : List RunEvent} (h : Stands mayRefuse mode parts run own) {e : RunEvent} (he : e ∈ own) :
    ∃ outcome, run = .closed outcome ∧ e = ⟨[], .ended outcome⟩ := by
  cases h with
  | underWay | apart => exact absurd he List.not_mem_nil
  | done | refused | stopped | settled => exact ⟨_, rfl, by simpa [eventsHere] using he⟩

/-- An event of a part comes before the end of the group. -/
theorem Stands.split_parts {mayRefuse : Prop} {mode : Mode} {parts : List Run} {run : Run}
    {own inner before after : List RunEvent} {e : RunEvent}
    (h : Stands mayRefuse mode parts run own)
    (hevents : before ++ e :: after = inner ++ own) (he : e.place ≠ []) :
    ∃ after', inner = before ++ e :: after' ∧ after = after' ++ own := by
  have hnot : e ∉ own := by
    intro hmem
    obtain ⟨outcome, -, rfl⟩ := h.own_ended hmem
    exact he rfl
  rcases List.append_eq_append_iff.1 hevents with ⟨more, hinner, htail⟩ | ⟨more, -, htail⟩
  · cases more with
    | nil => exact absurd (List.nil_append own ▸ htail ▸ List.mem_cons_self) hnot
    | cons x more =>
      obtain ⟨rfl, rfl⟩ := List.cons.inj htail
      exact ⟨more, hinner, rfl⟩
  · exact absurd (htail ▸ List.mem_append_right _ List.mem_cons_self) hnot

/-- **The order of the work.**  What comes earlier in a sequential group has ended well before
anything happens in what comes later, and does nothing from then on. -/
theorem Traced.passed_before {mayRefuse : Prop} {plan node : Plan Task} {p q : Place} {run : Run}
    {before after : List RunEvent} {e : RunEvent}
    (h : Traced mayRefuse plan run (before ++ e :: after)) (hprec : plan.Precedes p q)
    (he : e.place = q) (hnode : plan.at? p = some node) :
    Traced mayRefuse node passed (under p before) ∧ under p (e :: after) = [] := by
  induction hprec generalizing run before after e with
  | @here nested parts i j p q hij =>
    obtain ⟨_, _, _, part, hgroup, hpart, hinner⟩ := Plan.at?_cons hnode
    obtain ⟨rfl, rfl, rfl⟩ := Plan.group.inj hgroup
    generalize hevents : before ++ e :: after = events at h
    cases h with
    | waiting => exact absurd hevents (by simp)
    | @group _ _ _ runs _ inner own hlen hparts hplaces horder hstands =>
      obtain ⟨after', rfl, rfl⟩ := hstands.split_parts hevents (by simp [he])
      have hbehind := (horder rfl).within_after he hij
      have hnone : within i (e :: (after' ++ own)) = [] := by
        rw [← List.cons_append, hstands.within_append_own]
        exact hbehind
      obtain ⟨k, place, hplace, hk⟩ := hplaces e (by simp)
      obtain ⟨rfl, rfl⟩ := List.cons.inj (he.symm.trans hplace)
      obtain ⟨earlier, hearlier⟩ := exists_getElem?_of_length_eq hlen.symm hpart
      obtain ⟨later, hlater⟩ :=
        exists_getElem?_of_length_eq hlen.symm (List.getElem?_eq_getElem hk)
      have hmem : (⟨q, e.occurrence⟩ : RunEvent) ∈ within j (before ++ e :: after') := by
        rw [within_append, within_cons_inside he]
        exact List.mem_append_right _ List.mem_cons_self
      have hbegun := (hparts j _ later (List.getElem?_eq_getElem hk) hlater).begun hmem
      obtain rfl := hstands.passed_of_lt hearlier hlater hij hbegun
      have htraced := hparts i part passed hpart hearlier
      rw [within_append, hbehind, List.append_nil] at htraced
      refine ⟨htraced.passed_at? hinner, ?_⟩
      rw [under, hnone]
      exact under_nil p
  | @inside mode nested parts part i p q hpart _ ih =>
    have hinner : part.at? p = some node := (Plan.at?_inside hpart p).symm.trans hnode
    obtain ⟨run', htraced, -⟩ := h.part hpart
    rw [within_append, within_cons_inside he] at htraced
    obtain ⟨hpassed, hnone⟩ := ih htraced rfl hinner
    refine ⟨hpassed, ?_⟩
    rw [under, within_cons_inside he]
    exact hnone

/-! ## 2. Who makes a request -/

/-- **A request comes from a leaf**, and the work there is that of its activity, between the
beginning of the task and its end. -/
theorem Traced.asked_at {mayRefuse : Prop} {plan : Plan Task} {run : Run} {events : List RunEvent}
    (h : Traced mayRefuse plan run events) {place : Place} {request : Request}
    (hasked : ⟨place, .asked request⟩ ∈ events) :
    ∃ (task : Task) (past ending : List (Occurrence Request Request.Answer))
        (thread : Thread Request Request.Answer Unit), plan.at? place = some (.leaf task) ∧
      task.action.Trace past thread ∧ .asked request ∈ past ∧
      under place events = eventsHere (.began :: past ++ ending) ∧
      ∀ o ∈ ending, ∃ outcome, o = .ended outcome := by
  induction h generalizing place with
  | waiting => exact absurd hasked List.not_mem_nil
  | refused task _ => exact absurd hasked (by simp [eventsHere])
  | @working task past thread htrace _ =>
    obtain ⟨o, ho, heq⟩ := List.mem_map.1 hasked
    obtain ⟨rfl, rfl⟩ := Event.mk.inj heq
    refine ⟨task, past, [], thread, rfl, htrace, by simpa using ho, ?_, by simp⟩
    rw [List.append_nil]
    rfl
  | @finished task past outcome htrace =>
    obtain ⟨o, ho, heq⟩ := List.mem_map.1 hasked
    obtain ⟨rfl, rfl⟩ := Event.mk.inj heq
    exact ⟨task, past, [.ended outcome], _, rfl, htrace, by simpa using ho, rfl, by simp⟩
  | @group mode nested plans parts run events own hlen hparts hplaces horder hstands ih =>
    rcases List.mem_append.1 hasked with hasked | hasked
    · obtain ⟨i, place', hplace, hi⟩ := hplaces _ hasked
      obtain rfl : place = i :: place' := hplace
      have hplan : plans[i]? = some plans[i] := List.getElem?_eq_getElem hi
      obtain ⟨part, hpart⟩ := exists_getElem?_of_length_eq hlen.symm hplan
      have hmem : (⟨place', .asked request⟩ : RunEvent) ∈ within i events := mem_within.2 hasked
      obtain ⟨task, past, ending, thread, hnode, htrace, hpast, hunder, hending⟩ :=
        ih i _ part hplan hpart hmem
      refine ⟨task, past, ending, thread, (Plan.at?_inside hplan place').trans hnode, htrace, hpast,
        ?_, hending⟩
      rw [under, hstands.within_append_own, hunder]
    · obtain ⟨outcome, -, heq⟩ := hstands.own_ended hasked
      exact absurd heq (by simp)

end Teardown
