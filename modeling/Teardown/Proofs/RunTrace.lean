/-
# Traces of runs

The run of a plan is put together from the runs of its parts, and so is what happens in it: the
work of a group is the work of its parts, each seen from its own place (`within`), and one last
event when the group ends.  `Traced` says what work a plan can have done and how the run of it
then stands, by recursion on the plan; for a group, `Stands` says how the group stands if one
knows how its parts stand.  In a sequential group the work of the parts comes in their order; in a
parallel one it may interleave in any way.

The main facts: a first turn is traced (`traced_launch`), and a further turn at any place extends
the trace (`Traced.resume`).  A node refuses to go on only if it may; `mayRefuse` stands for the
reason, which is later that the run is cancelled.

* §1  the events of a group, as one of its parts sees them.
* §2  traces.  `Stands` has one case for each way in which a group can stand, with the events that
      are the group's own.
* §3-4  what becomes of a group when one of its parts has taken a turn.  For a sequential group on
        its way the invariant is `Reached`: some parts are passed, and nothing has happened beyond
        the one after them.
* §5-6  first turns and further turns, by induction on the plan and along the place of the turn.

Where a run stands is not determined by its work, because records and rests are left out of it.
-/
import Teardown.Proofs.Trace

namespace Teardown

variable {R : Type} {A : R → Type}

/-! ## 1. The work of a part -/

/-- The work among some events. -/
def work (events : List (Event R A)) : List (Event R A) :=
  events.filter fun e => e.occurrence.isWork

/-- An event as part `i` of a group sees it, if it happened there. -/
def Event.outside? (i : Nat) (e : Event R A) : Option (Event R A) :=
  match e.place with
  | j :: place => if j = i then some ⟨place, e.occurrence⟩ else none
  | [] => none

/-- The events in part `i` of a group, as that part sees them. -/
def within (i : Nat) (events : List (Event R A)) : List (Event R A) :=
  events.filterMap (Event.outside? i)

@[simp] theorem work_nil : work ([] : List (Event R A)) = [] := rfl

@[simp] theorem work_append (xs ys : List (Event R A)) : work (xs ++ ys) = work xs ++ work ys :=
  List.filter_append ..

theorem mem_work {e : Event R A} {events : List (Event R A)} :
    e ∈ work events ↔ e ∈ events ∧ e.occurrence.isWork = true := List.mem_filter

@[simp] theorem work_eventsHere (happened : List (Occurrence R A)) :
    work (eventsHere happened) = eventsHere (deeds happened) := by
  simp only [work, eventsHere, deeds, List.filter_map]
  rfl

theorem work_inside (i : Nat) (events : List (Event R A)) :
    work (events.map (Event.inside i)) = (work events).map (Event.inside i) := by
  simp only [work, List.filter_map]
  rfl

@[simp] theorem eventsHere_nil : eventsHere ([] : List (Occurrence R A)) = [] := rfl

@[simp] theorem eventsHere_append (xs ys : List (Occurrence R A)) :
    eventsHere (xs ++ ys) = eventsHere xs ++ eventsHere ys := List.map_append

@[simp] theorem within_nil (i : Nat) : within i ([] : List (Event R A)) = [] := rfl

@[simp] theorem within_append (i : Nat) (xs ys : List (Event R A)) :
    within i (xs ++ ys) = within i xs ++ within i ys := List.filterMap_append

theorem within_cons_inside {i : Nat} {place : Place} {e : Event R A} (h : e.place = i :: place)
    (events : List (Event R A)) :
    within i (e :: events) = ⟨place, e.occurrence⟩ :: within i events := by
  have hfirst : e.outside? i = some ⟨place, e.occurrence⟩ := by simp [Event.outside?, h]
  exact List.filterMap_cons_some hfirst

@[simp] theorem within_inside (i : Nat) (events : List (Event R A)) :
    within i (events.map (Event.inside i)) = events := by
  induction events with
  | nil => rfl
  | cons e events ih =>
    rw [List.map_cons, within_cons_inside rfl, ih]
    rfl

theorem within_inside_ne {i j : Nat} (h : j ≠ i) (events : List (Event R A)) :
    within i (events.map (Event.inside j)) = [] := by
  simp [within, List.filterMap_eq_nil_iff, Event.outside?, Event.inside, h]

@[simp] theorem within_here (i : Nat) (happened : List (Occurrence R A)) :
    within i (eventsHere happened) = [] := by
  simp [within, List.filterMap_eq_nil_iff, Event.outside?, eventsHere]

theorem outside?_eq_some_iff {i : Nat} {e e' : Event R A} :
    e.outside? i = some e' ↔ e = e'.inside i := by
  obtain ⟨place, o⟩ := e
  obtain ⟨place', o'⟩ := e'
  cases place with
  | nil => simp [Event.outside?, Event.inside]
  | cons j place =>
    by_cases h : j = i
    · simp [Event.outside?, Event.inside, h]
    · simp [Event.outside?, Event.inside, h]

theorem mem_within {i : Nat} {e : Event R A} {events : List (Event R A)} :
    e ∈ within i events ↔ e.inside i ∈ events := by
  simp only [within, List.mem_filterMap, outside?_eq_some_iff]
  constructor
  · rintro ⟨e', he', rfl⟩
    exact he'
  · exact fun h => ⟨_, h, rfl⟩

/-- The plans of a group and the runs of its parts go side by side. -/
theorem exists_getElem?_of_length_eq {α β : Type} {xs : List α} {ys : List β} {i : Nat} {x : α}
    (hlen : xs.length = ys.length) (h : xs[i]? = some x) : ∃ y, ys[i]? = some y :=
  ⟨_, List.getElem?_eq_getElem (hlen ▸ (List.getElem?_eq_some_iff.1 h).1)⟩

/-! ## 2. Traces -/

open Run

/-- A part that has ended well. -/
abbrev passed : Run := .closed (.ok ())

/-- `Stands mayRefuse mode parts run own`: a group whose parts stand as in `parts` stands at `run`,
and `own` are the events of the group itself.  In a sequential group the parts before the current
one have ended well, and those after it are waiting. -/
inductive Stands (mayRefuse : Prop) : Mode → List Run → Run → List RunEvent → Prop
  | underWay (index : Nat) (current : Run) (rest : List (Plan Task)) : current.outcome? = none →
      Stands mayRefuse .sequential
        (List.replicate index passed ++ current :: rest.map .waiting)
        (.sequence index current rest) []
  | done (count : Nat) :
      Stands mayRefuse .sequential (List.replicate count passed) passed
        (eventsHere [.ended (.ok ())])
  | refused (index : Nat) (rest : List (Plan Task)) : mayRefuse → rest ≠ [] →
      Stands mayRefuse .sequential (List.replicate index passed ++ rest.map .waiting)
        (.closed (cancelledAt "sequential task tree"))
        (eventsHere [.ended (cancelledAt "sequential task tree")])
  | stopped (index : Nat) (outcome : Outcome Unit) (rest : List (Plan Task)) :
      outcome.isOk = false →
      Stands mayRefuse .sequential
        (List.replicate index passed ++ .closed outcome :: rest.map .waiting)
        (.closed outcome) (eventsHere [.ended outcome])
  | apart (parts : List Run) : Stands mayRefuse .parallel parts (.parallel parts) []
  | settled (parts : List Run) (outcomes : List (Outcome Unit)) : outcomes? parts = some outcomes →
      Stands mayRefuse .parallel parts (.closed (combine outcomes))
        (eventsHere [.ended (combine outcomes)])

/-- Events come in the order of the parts in which they happen. -/
def InOrder (events : List RunEvent) : Prop :=
  events.Pairwise fun e e' => e.place.headD 0 ≤ e'.place.headD 0

/-- `Traced mayRefuse plan run events`: the plan can have done the work `events` and stand at
`run`. -/
inductive Traced (mayRefuse : Prop) : Plan Task → Run → List RunEvent → Prop
  | waiting (plan : Plan Task) : Traced mayRefuse plan (.waiting plan) []
  | refused (task : Task) : mayRefuse →
      Traced mayRefuse (.leaf task) (.closed (cancelledAt task.info))
        (eventsHere [.ended (cancelledAt task.info)])
  | working {task : Task} {past : List (Occurrence Request Request.Answer)}
      {thread : Thread Request Request.Answer Unit} :
      task.action.Trace past thread → thread.outcome? = none →
      Traced mayRefuse (.leaf task) (.working task thread) (eventsHere (.began :: past))
  | finished {task : Task} {past : List (Occurrence Request Request.Answer)}
      {outcome : Outcome Unit} : task.action.Trace past (.done outcome) →
      Traced mayRefuse (.leaf task) (.closed outcome)
        (eventsHere (.began :: past ++ [.ended outcome]))
  | group {mode : Mode} {nested : Bool} {plans : List (Plan Task)} {parts : List Run} {run : Run}
      {events own : List RunEvent} :
      parts.length = plans.length →
      (∀ (i : Nat) (plan : Plan Task) (part : Run), plans[i]? = some plan → parts[i]? = some part →
        Traced mayRefuse plan part (within i events)) →
      (∀ e ∈ events, ∃ i place, e.place = i :: place ∧ i < plans.length) →
      (mode = .sequential → InOrder events) →
      Stands mayRefuse mode parts run own →
      Traced mayRefuse (.group mode nested plans) run (events ++ own)

/-- A plan that is waiting has done nothing. -/
theorem Traced.of_waiting {mayRefuse : Prop} {plan plan' : Plan Task} {events : List RunEvent}
    (h : Traced mayRefuse plan (.waiting plan') events) : plan' = plan ∧ events = [] := by
  cases h with
  | waiting => exact ⟨rfl, rfl⟩
  | group _ _ _ _ hstands => nomatch hstands

/-! ## 3. Turns of a group -/

@[simp] theorem Run.outcome?_eq_some_iff {run : Run} {outcome : Outcome Unit} :
    run.outcome? = some outcome ↔ run = .closed outcome := by
  cases run <;> simp [Run.outcome?]

theorem Outcome.isOk_iff {outcome : Outcome Unit} : outcome.isOk = true ↔ outcome = .ok () := by
  cases outcome <;> simp [Outcome.isOk]

namespace Turn

@[simp] theorem close_run (outcome : Outcome Unit) : (close outcome).run = .closed outcome := rfl

@[simp] theorem work_close (outcome : Outcome Unit) :
    work (close outcome).happened = eventsHere [.ended outcome] := rfl

@[simp] theorem after_run (happened : List RunEvent) (turn : Turn) :
    (turn.after happened).run = turn.run := rfl

@[simp] theorem after_happened (happened : List RunEvent) (turn : Turn) :
    (turn.after happened).happened = happened ++ turn.happened := rfl

variable {index : Nat} {rest : List (Plan Task)} {turn : Turn} {later : Unit → Turn}

theorem ofPart_passed (h : turn.run = passed) :
    ofPart index rest turn later = (later ()).after (turn.happened.map (Event.inside index)) := by
  simp only [ofPart, h]

/-- A group ends like its part when that has ended otherwise. -/
theorem ofPart_stopped {outcome : Outcome Unit} (h : turn.run = .closed outcome)
    (hstop : outcome.isOk = false) :
    ofPart index rest turn later =
      (close outcome).after (turn.happened.map (Event.inside index)) := by
  cases outcome with
  | ok value => exact absurd hstop (by simp [Outcome.isOk])
  | _ => simp only [ofPart, h]

theorem ofPart_underWay (h : turn.run.outcome? = none) :
    ofPart index rest turn later =
      ⟨turn.happened.map (Event.inside index), .sequence index turn.run rest⟩ := by
  cases hrun : turn.run with
  | closed outcome => exact absurd h (by simp [hrun, Run.outcome?])
  | _ => simp only [ofPart, hrun]

end Turn

/-! ## 4. Sequential groups on their way -/

section Sequential

variable {mayRefuse : Prop} {front rest : List (Plan Task)} {plan : Plan Task} {nested : Bool}
  {events own : List RunEvent}

/-- `Reached mayRefuse front events`: a sequential group has passed the parts `front`, and nothing
has happened beyond the part after them. -/
structure Reached (mayRefuse : Prop) (front : List (Plan Task)) (events : List RunEvent) :
    Prop where
  parts : ∀ i plan, front[i]? = some plan → Traced mayRefuse plan passed (within i events)
  places : ∀ e ∈ events, ∃ i place, e.place = i :: place ∧ i ≤ front.length
  inOrder : InOrder events

theorem Reached.within_eq_nil (h : Reached mayRefuse front events) {i : Nat}
    (hi : front.length < i) : within i events = [] := by
  refine List.filterMap_eq_nil_iff.2 fun e he => ?_
  obtain ⟨j, place, hplace, hj⟩ := h.places e he
  have hne : j ≠ i := by omega
  simp [Event.outside?, hplace, hne]

/-- Work of the part that is reached comes after all work before it. -/
theorem Reached.inOrder_append (h : Reached mayRefuse front events) (more : List RunEvent) :
    InOrder (events ++ more.map (Event.inside front.length)) := by
  refine List.pairwise_append.2 ⟨h.inOrder, ?_, ?_⟩
  · exact List.pairwise_map.2 (List.pairwise_of_forall fun _ _ => Nat.le_refl _)
  · intro e he e' he'
    obtain ⟨i, place, hplace, hi⟩ := h.places e he
    obtain ⟨x, -, rfl⟩ := List.mem_map.1 he'
    simpa [hplace, Event.inside] using hi

theorem Reached.append (h : Reached mayRefuse front events) (more : List RunEvent) :
    Reached mayRefuse front (events ++ more.map (Event.inside front.length)) where
  parts i plan hplan := by
    have hi : i < front.length := (List.getElem?_eq_some_iff.1 hplan).1
    rw [within_append, within_inside_ne (by omega), List.append_nil]
    exact h.parts i plan hplan
  places e he := by
    rcases List.mem_append.1 he with he | he
    · exact h.places e he
    · obtain ⟨x, -, rfl⟩ := List.mem_map.1 he
      exact ⟨front.length, x.place, rfl, Nat.le_refl _⟩
  inOrder := h.inOrder_append more

/-- A group whose part has ended well has reached the next one. -/
theorem Reached.next (h : Reached mayRefuse front events)
    (hplan : Traced mayRefuse plan passed (within front.length events)) :
    Reached mayRefuse (front ++ [plan]) events where
  parts i plan' hplan' := by
    rcases Nat.lt_trichotomy i front.length with hi | rfl | hi
    · rw [List.getElem?_append_left hi] at hplan'
      exact h.parts i plan' hplan'
    · simp only [List.getElem?_concat_length, Option.some.injEq] at hplan'
      exact hplan' ▸ hplan
    · rw [List.getElem?_eq_none (by simp; omega)] at hplan'
      exact absurd hplan' (by simp)
  places e he := by
    obtain ⟨i, place, hplace, hi⟩ := h.places e he
    exact ⟨i, place, hplace, by simp; omega⟩
  inOrder := h.inOrder

/-- A group that has reached a part is traced as soon as that part is. -/
theorem Reached.traced {part run : Run} (h : Reached mayRefuse front events) (nested : Bool)
    (rest : List (Plan Task))
    (hpart : Traced mayRefuse plan part (within front.length events))
    (hstands : Stands mayRefuse .sequential
      (List.replicate front.length passed ++ part :: rest.map .waiting) run own) :
    Traced mayRefuse (.group .sequential nested (front ++ plan :: rest)) run (events ++ own) := by
  refine .group (by simp) (fun i plan' part' hplan' hpart' => ?_) (fun e he => ?_)
    (fun _ => h.inOrder) hstands
  · rcases Nat.lt_trichotomy i front.length with hi | rfl | hi
    · rw [List.getElem?_append_left hi] at hplan'
      rw [List.getElem?_append_left (by simpa using hi)] at hpart'
      simp only [List.getElem?_replicate, hi, if_true, Option.some.injEq] at hpart'
      exact hpart' ▸ h.parts i plan' hplan'
    · rw [List.getElem?_append_right (Nat.le_refl _)] at hplan'
      rw [List.getElem?_append_right (by simp)] at hpart'
      simp only [Nat.sub_self, List.getElem?_cons_zero, Option.some.injEq, List.length_replicate]
        at hplan' hpart'
      exact hplan' ▸ hpart' ▸ hpart
    · rw [List.getElem?_append_right (by omega)] at hplan'
      rw [List.getElem?_append_right (by simp; omega)] at hpart'
      obtain ⟨k, hk⟩ : ∃ k, i - front.length = k + 1 := ⟨i - front.length - 1, by omega⟩
      simp only [List.length_replicate, hk, List.getElem?_cons_succ, List.getElem?_map]
        at hplan' hpart'
      rw [hplan'] at hpart'
      obtain rfl := Option.some.inj hpart'
      rw [h.within_eq_nil hi]
      exact .waiting plan'
  · obtain ⟨i, place, hplace, hi⟩ := h.places e he
    exact ⟨i, place, hplace, by simp; omega⟩

/-- A group that has passed all its parts ends well. -/
theorem Reached.traced_passed (h : Reached mayRefuse front events)
    (hlast : within front.length events = []) :
    Traced mayRefuse (.group .sequential nested front) passed
      (events ++ eventsHere [.ended (.ok ())]) := by
  refine .group (by simp) (fun i plan' part' hplan' hpart' => ?_) (fun e he => ?_)
    (fun _ => h.inOrder) (.done front.length)
  · have hi : i < front.length := (List.getElem?_eq_some_iff.1 hplan').1
    simp only [List.getElem?_replicate, hi, if_true, Option.some.injEq] at hpart'
    exact hpart' ▸ h.parts i plan' hplan'
  · obtain ⟨i, place, hplace, hi⟩ := h.places e he
    refine ⟨i, place, hplace, Nat.lt_of_le_of_ne hi ?_⟩
    rintro rfl
    have hmem : (⟨place, e.occurrence⟩ : RunEvent) ∈ within front.length events := by
      rw [mem_within]
      simpa [Event.inside, ← hplace] using he
    rw [hlast] at hmem
    exact absurd hmem List.not_mem_nil

/-- **A turn of the current part** is a turn of the group: the group goes on, ends, or stays. -/
theorem Reached.traced_ofPart (h : Reached mayRefuse front events) {turn : Turn}
    {later : Unit → Turn}
    (hturn : Traced mayRefuse plan turn.run (within front.length events ++ work turn.happened))
    (hlater : ∀ events, Reached mayRefuse (front ++ [plan]) events →
      within (front ++ [plan]).length events = [] →
      Traced mayRefuse (.group .sequential nested ((front ++ [plan]) ++ rest)) (later ()).run
        (events ++ work (later ()).happened)) :
    Traced mayRefuse (.group .sequential nested (front ++ plan :: rest))
      (Turn.ofPart front.length rest turn later).run
      (events ++ work (Turn.ofPart front.length rest turn later).happened) := by
  have happ := h.append (work turn.happened)
  have hpart : Traced mayRefuse plan turn.run
      (within front.length (events ++ (work turn.happened).map (Event.inside front.length))) := by
    rwa [within_append, within_inside]
  cases hrun : turn.run.outcome? with
  | none =>
    have hstay := happ.traced nested rest hpart (.underWay _ _ rest hrun)
    rw [Turn.ofPart_underWay hrun, work_inside]
    rwa [List.append_nil] at hstay
  | some outcome =>
    have hclosed := outcome?_eq_some_iff.1 hrun
    by_cases hok : outcome.isOk = true
    · rw [Outcome.isOk_iff] at hok
      rw [hok] at hclosed
      rw [hclosed] at hpart
      have hnext := happ.next hpart
      have hgo := hlater _ hnext (happ.within_eq_nil (by simp))
      rw [Turn.ofPart_passed hclosed, Turn.after_happened, work_append, work_inside,
        ← List.append_assoc]
      rwa [List.append_assoc front, List.singleton_append] at hgo
    · have hstop : outcome.isOk = false := by simpa using hok
      rw [hclosed] at hpart
      have hgo := happ.traced nested rest hpart (.stopped _ _ rest hstop)
      rw [Turn.ofPart_stopped hclosed hstop, Turn.after_happened, work_append, work_inside]
      rwa [List.append_assoc] at hgo

/-- What a group that is under way has reached. -/
theorem Reached.of_parts {index : Nat} {current : Run} {plans : List (Plan Task)}
    (hlen : (List.replicate index passed ++ current :: rest.map .waiting).length = plans.length)
    (hparts : ∀ (i : Nat) (plan : Plan Task) (part : Run), plans[i]? = some plan →
      (List.replicate index passed ++ current :: rest.map .waiting)[i]? = some part →
      Traced mayRefuse plan part (within i events))
    (hplaces : ∀ e ∈ events, ∃ i place, e.place = i :: place ∧ i < plans.length)
    (horder : InOrder events) :
    ∃ front plan, plans = front ++ plan :: rest ∧ front.length = index ∧
      Reached mayRefuse front events ∧ Traced mayRefuse plan current (within index events) := by
  simp only [List.length_append, List.length_replicate, List.length_cons, List.length_map] at hlen
  have hindex : index < plans.length := by omega
  have hfront : (plans.take index).length = index := by simp; omega
  have hlater : ∀ k, plans[index + 1 + k]? = rest[k]? ∧
      (k < rest.length → within (index + 1 + k) events = []) := by
    intro k
    by_cases hk : k < rest.length
    · have hlt : index + 1 + k < plans.length := by omega
      have hplan : plans[index + 1 + k]? = some plans[index + 1 + k] := List.getElem?_eq_getElem hlt
      have hpart := hparts _ _ (.waiting rest[k]) hplan (by
        rw [List.getElem?_append_right (by simp; omega), List.length_replicate,
          show index + 1 + k - index = k + 1 by omega, List.getElem?_cons_succ, List.getElem?_map,
          List.getElem?_eq_getElem hk]
        rfl)
      obtain ⟨hsame, hnone⟩ := hpart.of_waiting
      exact ⟨by rw [hplan, ← hsame, List.getElem?_eq_getElem hk], fun _ => hnone⟩
    · refine ⟨?_, fun h => absurd h hk⟩
      rw [List.getElem?_eq_none (by omega), List.getElem?_eq_none (by omega)]
  have hrest : plans.drop (index + 1) = rest :=
    List.ext_getElem? fun k => by rw [List.getElem?_drop, (hlater k).1]
  refine ⟨plans.take index, plans[index], ?_, hfront,
    ⟨fun i plan hplan => ?_, fun e he => ?_, horder⟩, ?_⟩
  · rw [← hrest, List.getElem_cons_drop, List.take_append_drop]
  · have hi : i < index := by
      have := (List.getElem?_eq_some_iff.1 hplan).1
      omega
    refine hparts i plan passed ?_ ?_
    · rwa [List.getElem?_take_of_lt hi] at hplan
    · rw [List.getElem?_append_left (by simpa using hi)]
      simp [hi]
  · obtain ⟨i, place, hplace, hi⟩ := hplaces e he
    refine ⟨i, place, hplace, ?_⟩
    rw [hfront]
    refine Nat.le_of_not_lt fun hgt => ?_
    have hmem : (⟨place, e.occurrence⟩ : RunEvent) ∈ within i events := by
      rw [mem_within]
      simpa [Event.inside, ← hplace] using he
    obtain ⟨k, rfl⟩ : ∃ k, i = index + 1 + k := ⟨i - (index + 1), by omega⟩
    rw [(hlater k).2 (by omega)] at hmem
    exact absurd hmem List.not_mem_nil
  · refine hparts index _ _ (List.getElem?_eq_getElem hindex) ?_
    rw [List.getElem?_append_right (by simp)]
    simp

end Sequential

/-! ## 5. First turns -/

section Launch

variable {mayRefuse : Prop} {c : Conditions}

/-- The turn of a task extends the trace of its activity, and closes the task if that is done. -/
theorem traced_taskTurn {task : Task} {past : List (Occurrence Request Request.Answer)}
    {step : List (Occurrence Request Request.Answer) × Thread Request Request.Answer Unit}
    (h : task.action.Trace (past ++ deeds step.1) step.2) :
    Traced mayRefuse (.leaf task) (taskTurn task step).run
      (eventsHere (.began :: past) ++ work (taskTurn task step).happened) := by
  obtain ⟨happened, thread⟩ := step
  cases thread with
  | done outcome =>
    have hend : Traced mayRefuse (.leaf task) (.closed outcome) _ := .finished h
    rw [eventsHere_append, ← List.cons_append, eventsHere_append] at hend
    simpa [taskTurn] using hend
  | _ =>
    have hstay : Traced mayRefuse (.leaf task) (.working task _) _ := .working h rfl
    rw [← List.cons_append, eventsHere_append] at hstay
    simpa [taskTurn] using hstay

theorem traced_launchTask (hc : c.cancelled = true → mayRefuse) (task : Task) :
    Traced mayRefuse (.leaf task) (launchTask c task).run
      (work (launchTask c task).happened) := by
  unfold launchTask
  split
  · rename_i hcancelled
    exact .refused task (hc hcancelled)
  · have htrace : task.action.Trace ([] ++ deeds (task.action.proceed c).1)
        (task.action.proceed c).2 := Activity.trace_proceed c task.action
    have h : Traced mayRefuse (.leaf task) (taskTurn task (task.action.proceed c)).run _ :=
      traced_taskTurn htrace
    simpa using h

@[simp] theorem work_opening (index count : Nat) : work (opening index count) = [] := by
  induction count generalizing index with
  | zero => rfl
  | succ count ih => exact ih (index + 1)

theorem traced_launchParts (nested : Bool) (parts : List (Plan Task)) :
    Traced mayRefuse (.group .parallel nested parts) (launchParts parts).run
      (work (launchParts parts).happened) := by
  unfold launchParts
  split
  · rename_i hempty
    obtain rfl := List.isEmpty_iff.1 hempty
    have hstands : Stands mayRefuse .parallel [] _ _ := .settled [] [] rfl
    have hgroup : Traced mayRefuse (.group .parallel nested []) _ ([] ++ _) :=
      .group rfl (by simp) (by simp) (by simp) hstands
    exact hgroup
  · have hwaiting : Traced mayRefuse (.group .parallel nested parts)
        (.parallel (parts.map .waiting)) ([] ++ []) := by
      refine .group (by simp) (fun i plan part hplan hpart => ?_) (by simp) (by simp) (.apart _)
      rw [List.getElem?_map, hplan] at hpart
      obtain rfl := Option.some.inj hpart
      exact .waiting plan
    simpa using hwaiting

mutual

/-- **A first turn** is traced. -/
theorem traced_launch (hc : c.cancelled = true → mayRefuse) (plan : Plan Task) :
    Traced mayRefuse plan (launch c plan).run (work (launch c plan).happened) := by
  match plan with
  | .leaf task => exact traced_launchTask hc task
  | .group .parallel nested parts => exact traced_launchParts nested parts
  | .group .sequential nested parts =>
    exact traced_launchFrom hc nested parts [] [] ⟨by simp, by simp, .nil⟩ rfl

/-- The first turn of a sequential group from a part on is traced. -/
theorem traced_launchFrom (hc : c.cancelled = true → mayRefuse) (nested : Bool)
    (parts front : List (Plan Task)) (events : List RunEvent) (h : Reached mayRefuse front events)
    (hlast : within front.length events = []) :
    Traced mayRefuse (.group .sequential nested (front ++ parts))
      (launchFrom c front.length parts).run
      (events ++ work (launchFrom c front.length parts).happened) := by
  match parts with
  | [] =>
    rw [List.append_nil]
    exact h.traced_passed hlast
  | part :: rest =>
    unfold launchFrom
    split
    · rename_i hcancelled
      have hwaiting : Traced mayRefuse part (.waiting part) (within front.length events) := by
        rw [hlast]
        exact .waiting part
      exact h.traced nested rest hwaiting (.refused _ (part :: rest) (hc hcancelled) (by simp))
    · refine h.traced_ofPart ?_ fun events' h' hlast' => ?_
      · rw [hlast]
        exact traced_launch hc part
      · have hgo := traced_launchFrom hc nested rest (front ++ [part]) events' h' hlast'
        rwa [List.length_append] at hgo

end

end Launch

/-! ## 6. Further turns -/

section Resume

variable {mayRefuse : Prop} {c : Conditions} {cue : Cue Request Request.Answer} {turn : Turn}

theorem resumeAt_closed (place : Place) (outcome : Outcome Unit) :
    resumeAt c cue place (.closed outcome) = none := by
  cases place <;> rfl

theorem resumeAt_waiting {plan : Plan Task} {place : Place}
    (h : resumeAt c cue place (.waiting plan) = some turn) : place = [] ∧ turn = launch c plan := by
  cases place with
  | cons i place => exact absurd h (by simp [resumeAt])
  | nil =>
    cases cue with
    | start => exact ⟨rfl, (Option.some.inj h).symm⟩
    | _ => exact absurd h (by simp [resumeAt])

/-- A turn of a task that is under way is one of its thread. -/
theorem resumeAt_working {task : Task} {thread : Thread Request Request.Answer Unit} {place : Place}
    (h : resumeAt c cue place (.working task thread) = some turn) :
    place = [] ∧ ∃ step, thread.resume c cue = some step ∧ turn = taskTurn task step := by
  cases place with
  | cons i place => exact absurd h (by simp [resumeAt])
  | nil =>
    obtain ⟨step, hstep, rfl⟩ := Option.map_eq_some_iff.1 h
    exact ⟨rfl, step, hstep, rfl⟩

theorem resumeAt_sequence {index : Nat} {current : Run} {rest : List (Plan Task)} {place : Place}
    (h : resumeAt c cue place (.sequence index current rest) = some turn) :
    ∃ place' turn', place = index :: place' ∧ resumeAt c cue place' current = some turn' ∧
      turn = Turn.ofPart index rest turn' fun _ => launchFrom c (index + 1) rest := by
  cases place with
  | nil => exact absurd h (by simp [resumeAt])
  | cons i place =>
    simp only [resumeAt] at h
    split at h
    · rename_i hi
      obtain ⟨turn', hturn', rfl⟩ := Option.map_eq_some_iff.1 h
      exact ⟨place, turn', by rw [hi], hturn', rfl⟩
    · exact absurd h (by simp)

theorem resumeAt_parallel {parts : List Run} {place : Place}
    (h : resumeAt c cue place (.parallel parts) = some turn) :
    (∃ outcomes, place = [] ∧ outcomes? parts = some outcomes ∧ turn = settle outcomes) ∨
    ∃ i place' part turn', place = i :: place' ∧ parts[i]? = some part ∧
      resumeAt c cue place' part = some turn' ∧
      turn = ⟨turn'.happened.map (Event.inside i), .parallel (parts.set i turn'.run)⟩ := by
  cases place with
  | nil =>
    cases cue with
    | settle =>
      obtain ⟨outcomes, houtcomes, rfl⟩ := Option.map_eq_some_iff.1 h
      exact .inl ⟨outcomes, rfl, houtcomes, rfl⟩
    | _ => exact absurd h (by simp [resumeAt])
  | cons i place =>
    simp only [resumeAt, Option.bind_eq_bind, Option.bind_eq_some_iff, Option.some.injEq] at h
    obtain ⟨part, hpart, turn', hturn', rfl⟩ := h
    exact .inr ⟨i, place, part, turn', rfl, hpart, hturn', rfl⟩

/-- **A further turn** at any place extends the trace by its work. -/
theorem Traced.resume {plan : Plan Task} {run : Run} {events : List RunEvent}
    (h : Traced mayRefuse plan run events) (hc : c.cancelled = true → mayRefuse) {place : Place}
    (hturn : resumeAt c cue place run = some turn) :
    Traced mayRefuse plan turn.run (events ++ work turn.happened) := by
  induction h generalizing place turn with
  | waiting plan =>
    obtain ⟨-, rfl⟩ := resumeAt_waiting hturn
    exact traced_launch hc plan
  | refused | finished =>
    rw [resumeAt_closed] at hturn
    exact absurd hturn (by simp)
  | working htrace hunderWay =>
    obtain ⟨-, ⟨happened, thread⟩, hstep, rfl⟩ := resumeAt_working hturn
    exact traced_taskTurn (htrace.resume hstep)
  | @group mode nested plans parts run events own hlen hparts hplaces horder hstands ih =>
    cases hstands with
    | done | refused | stopped | settled =>
      rw [resumeAt_closed] at hturn
      exact absurd hturn (by simp)
    | underWay index current rest hcurrent =>
      obtain ⟨place', turn', rfl, hturn', rfl⟩ := resumeAt_sequence hturn
      obtain ⟨front, plan, rfl, rfl, hreached, -⟩ :=
        Reached.of_parts hlen hparts hplaces (horder rfl)
      have hpart := ih front.length plan current (by simp) (by simp) hturn'
      rw [List.append_nil]
      refine hreached.traced_ofPart hpart fun events' h' hlast' => ?_
      have hgo := traced_launchFrom hc nested rest (front ++ [plan]) events' h' hlast'
      rwa [List.length_append] at hgo
    | apart parts =>
      rw [List.append_nil]
      rcases resumeAt_parallel hturn with
        ⟨outcomes, rfl, houtcomes, rfl⟩ | ⟨i, place', part, turn', rfl, hpart, hturn', rfl⟩
      · have hsettled : Traced mayRefuse (.group .parallel nested plans) _ (events ++ _) :=
          .group hlen hparts hplaces horder (.settled parts outcomes houtcomes)
        exact hsettled
      · have hi : i < plans.length := hlen ▸ (List.getElem?_eq_some_iff.1 hpart).1
        have hgroup : Traced mayRefuse (.group .parallel nested plans)
            (.parallel (parts.set i turn'.run))
            ((events ++ (work turn'.happened).map (Event.inside i)) ++ []) := by
          refine .group (by simpa using hlen) (fun j plan part' hplan hpart' => ?_) (fun e he => ?_)
            (by simp) (.apart _)
          · by_cases hj : i = j
            · subst hj
              rw [List.getElem?_set_self (by omega)] at hpart'
              obtain rfl := Option.some.inj hpart'
              rw [within_append, within_inside]
              exact ih i plan part hplan hpart hturn'
            · rw [List.getElem?_set_ne hj] at hpart'
              rw [within_append, within_inside_ne hj, List.append_nil]
              exact hparts j plan part' hplan hpart'
          · rcases List.mem_append.1 he with he | he
            · exact hplaces e he
            · obtain ⟨x, -, rfl⟩ := List.mem_map.1 he
              exact ⟨i, x.place, rfl, hi⟩
        rw [List.append_nil] at hgroup
        rwa [work_inside]

end Resume

end Teardown
