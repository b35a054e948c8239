/-
# Histories of a run and of its parts

A run has a history: the events of all its turns, one after the other, records and rests included.
Seen from one of its nodes, the history of a run is a history of that node, whatever the rest of
the plan does in between (`History.at?`).  For a turn of a group is, for each of its parts, a turn
of that part, or the hand-over to a lane of its own, or nothing at all (`partTurn_resumeAt`).

So what can be shown of the root of every plan holds at every place.  Two such facts are here: the
parts of a sequential group come strictly one after the other, with everything that happens in
them (`History.parts_in_order`), and the end of a node is the last thing that happens in it
(`History.ends_last`).

* §1  histories, and that a run without a cancellation has one.
* §2  the turns of a group, seen from a part: one lemma for each function of which a turn is made.
* §3  the histories of the nodes, by induction on the place.
* §4  a sequential group never goes back (`Onward`): a turn begins with the events of the current
      part, and then come those of parts that were not begun before.
* §5  the end of a node.

A history has no cancellation in it, because a cancellation has no place of its own in the plan.
-/
import Teardown.Proofs.Failures

namespace Teardown

open Run

/-! ## 1. Histories -/

/-- `History plan run events`: the plan can have come to `run`, and `events` is all that happened. -/
inductive History (plan : Plan Task) : Run → List RunEvent → Prop
  | start : History plan (.waiting plan) []
  | opened {node : Plan Task} {events : List RunEvent} : History plan (.waiting node) events →
      History plan (.waiting node) (events ++ [⟨[], .opened⟩])
  | turn {run : Run} {events : List RunEvent} {c : Conditions}
      {cue : Cue Request Request.Answer} {place : Place} {turn : Turn} : History plan run events →
      resumeAt c cue place run = some turn → History plan turn.run (events ++ turn.happened)

/-- A run that nobody cancels has a history. -/
theorem history_follow {plan : Plan Task} {now : Moment} {cancelled : Bool}
    {moves : List (Move Request Request.Answer)} {entries : List (Entry Request Request.Answer)}
    {s : Situation Run}
    (h : (Run.about plan now cancelled).follow Run.process moves = some (entries, s))
    (hmoves : Move.cancel ∉ moves) : History plan s.state (happened entries) := by
  refine Situation.follow_induction
    (fun s past => History plan s.state (happened past)) ?_ [] .start h
  intro move hmove s s' past now hhistory hafter
  rcases Situation.after?_cases hafter with
    ⟨place, cue, factor, events, state, -, -, hturn, rfl, rfl⟩ | ⟨rfl, -, -⟩ |
      ⟨_, -, rfl, rfl⟩ | ⟨-, rfl, rfl⟩
  · obtain ⟨turn, hresume, hstate⟩ := Option.map_eq_some_iff.1 hturn
    obtain ⟨rfl, rfl⟩ := Prod.mk.inj hstate
    rw [happened_append, happened_at]
    exact hhistory.turn hresume
  · exact absurd hmove hmoves
  · rwa [List.append_nil]
  · rwa [List.append_nil]

/-! ## 2. The parts of a group -/

/-- The run of part `i`, if `parts` are the runs of the parts from a given one on. -/
def Run.fromPart (index i : Nat) (parts : List Run) : Option Run :=
  if i < index then none else parts[i - index]?

/-- The run of part `i`, as far as the run of the group still holds it. -/
def Run.part? (i : Nat) : Run → Option Run
  | .waiting (.group _ _ plans) => fromPart 0 i (plans.map .waiting)
  | .sequence index current rest => fromPart index i (current :: rest.map .waiting)
  | .parallel parts => parts[i]?
  | _ => none

theorem Run.fromPart_lt {index i : Nat} (h : i < index) (parts : List Run) :
    fromPart index i parts = none := if_pos h

theorem Run.fromPart_self (index : Nat) (part : Run) (parts : List Run) :
    fromPart index index (part :: parts) = some part := by
  simp [fromPart]

theorem Run.fromPart_gt {index i : Nat} (h : index < i) (part : Run) (parts : List Run) :
    fromPart index i (part :: parts) = fromPart (index + 1) i parts := by
  rw [fromPart, if_neg (by omega), fromPart, if_neg (by omega),
    show i - index = i - (index + 1) + 1 by omega, List.getElem?_cons_succ]

/-- `PartTurn c before happened after`: what a turn of a group brings for one of its parts, given the
runs of the part as far as the group holds them. -/
inductive PartTurn (c : Conditions) : Option Run → List RunEvent → Option Run → Prop
  | still (part : Option Run) : PartTurn c part [] part
  | opened (plan : Plan Task) :
      PartTurn c (some (.waiting plan)) [⟨[], .opened⟩] (some (.waiting plan))
  | turn {part : Run} {cue : Cue Request Request.Answer} {place : Place} {turn : Turn} :
      resumeAt c cue place part = some turn →
      PartTurn c (some part) turn.happened (some turn.run)
  | forgotten {before after : Option Run} {happened : List RunEvent} :
      PartTurn c before happened after → PartTurn c before happened none

theorem PartTurn.of_none {c : Conditions} {before after : Option Run} {happened : List RunEvent}
    (h : PartTurn c before happened after) (hbefore : before = none) :
    happened = [] ∧ after = none := by
  induction h with
  | still part => exact ⟨rfl, hbefore⟩
  | opened plan => exact absurd hbefore (by simp)
  | turn _ => exact absurd hbefore (by simp)
  | forgotten _ ih => exact ⟨(ih hbefore).1, rfl⟩

section PartTurns

variable {c : Conditions} {cue : Cue Request Request.Answer} {index : Nat} {current : Run}
  {rest : List (Plan Task)} {turn : Turn}

/-- A turn of the current part of a sequential group is nothing for the parts before it, and for the
parts after it what the group does if it goes on. -/
theorem partTurn_ofPart {place : Place} {later : Unit → Turn}
    (hturn : resumeAt c cue place current = some turn)
    (hlater : ∀ i, PartTurn c (fromPart (index + 1) i (rest.map .waiting))
      (within i (later ()).happened) (part? i (later ()).run)) (i : Nat) :
    PartTurn c (fromPart index i (current :: rest.map .waiting))
      (within i (Turn.ofPart index rest turn later).happened)
      (part? i (Turn.ofPart index rest turn later).run) := by
  have hbefore : ∀ {i}, i ≤ index → within i (later ()).happened = [] ∧
      part? i (later ()).run = none := by
    intro i hi
    exact (hlater i).of_none (fromPart_lt (by omega) _)
  cases hrun : turn.run.outcome? with
  | none =>
    rw [Turn.ofPart_underWay hrun, part?]
    rcases Nat.lt_trichotomy i index with hi | rfl | hi
    · rw [within_inside_ne (by omega), fromPart_lt hi, fromPart_lt hi]
      exact .still none
    · rw [within_inside, fromPart_self, fromPart_self]
      exact .turn hturn
    · rw [within_inside_ne (by omega), fromPart_gt hi, fromPart_gt hi]
      exact .still _
  | some outcome =>
    have hclosed := outcome?_eq_some_iff.1 hrun
    by_cases hok : outcome.isOk = true
    · rw [Outcome.isOk_iff.1 hok] at hclosed
      rw [Turn.ofPart_passed hclosed, Turn.after_happened, Turn.after_run, within_append]
      rcases Nat.lt_trichotomy i index with hi | rfl | hi
      · rw [within_inside_ne (by omega), fromPart_lt hi, (hbefore (by omega)).1, (hbefore (by omega)).2]
        exact .still none
      · rw [within_inside, fromPart_self, (hbefore (Nat.le_refl i)).1, (hbefore (Nat.le_refl i)).2,
          List.append_nil]
        exact (PartTurn.turn hturn).forgotten
      · rw [within_inside_ne (by omega), fromPart_gt hi, List.nil_append]
        exact hlater i
    · have hend : within i (Turn.close outcome).happened = [] := within_here i [.ended outcome]
      rw [Turn.ofPart_stopped hclosed (by simpa using hok), Turn.after_happened, Turn.after_run,
        within_append, hend, List.append_nil]
      rcases Nat.lt_trichotomy i index with hi | rfl | hi
      · rw [within_inside_ne (by omega), fromPart_lt hi]
        exact .still none
      · rw [within_inside, fromPart_self]
        exact (PartTurn.turn hturn).forgotten
      · rw [within_inside_ne (by omega)]
        exact (PartTurn.still _).forgotten

/-- The first turn of a sequential group from a part on is the first turn of some of its parts. -/
theorem partTurn_launchFrom (c : Conditions) (index : Nat) (plans : List (Plan Task)) (i : Nat) :
    PartTurn c (fromPart index i (plans.map .waiting))
      (within i (launchFrom c index plans).happened) (part? i (launchFrom c index plans).run) := by
  induction plans generalizing index i with
  | nil => exact (PartTurn.still _).forgotten
  | cons plan rest ih =>
    unfold launchFrom
    split
    · exact (PartTurn.still _).forgotten
    · have hlaunch : resumeAt c .start [] (.waiting plan) = some (launch c plan) := rfl
      exact partTurn_ofPart hlaunch (ih (index + 1)) i

/-- A group that hands its parts on does so with each of them once. -/
theorem within_opening (i index count : Nat) :
    within i (opening index count) =
      if index ≤ i ∧ i < index + count then [⟨[], .opened⟩] else [] := by
  induction count generalizing index with
  | zero => rw [if_neg (by omega)]; rfl
  | succ count ih =>
    rw [opening]
    by_cases hi : i = index
    · subst hi
      rw [within_cons_inside rfl, ih, if_neg (by omega), if_pos (by omega)]
    · have hfirst : Event.outside? i (⟨[index], .opened⟩ : RunEvent) = none := by
        simp [Event.outside?, Ne.symm hi]
      rw [within, List.filterMap_cons_none hfirst, ← within, ih]
      by_cases hin : index + 1 ≤ i ∧ i < index + 1 + count
      · rw [if_pos hin, if_pos (by omega)]
      · rw [if_neg hin, if_neg (by omega)]

/-- The first turn of a parallel group hands its parts on. -/
theorem partTurn_launchParts (c : Conditions) (plans : List (Plan Task)) (i : Nat) :
    PartTurn c (fromPart 0 i (plans.map .waiting)) (within i (launchParts plans).happened)
      (part? i (launchParts plans).run) := by
  unfold launchParts
  split
  · exact (PartTurn.still _).forgotten
  · rw [within_append, within_here, List.nil_append, within_opening, part?, fromPart,
      if_neg (by omega), Nat.sub_zero, List.getElem?_map]
    by_cases hi : i < plans.length
    · rw [if_pos (by omega), List.getElem?_eq_getElem hi]
      exact .opened _
    · rw [if_neg (by omega)]
      exact .still _

theorem within_taskTurn (i : Nat) (task : Task)
    (step : List (Occurrence Request Request.Answer) × Thread Request Request.Answer Unit) :
    within i (taskTurn task step).happened = [] ∧ part? i (taskTurn task step).run = none := by
  obtain ⟨happened, thread⟩ := step
  cases thread with
  | done outcome =>
    have hend : within i (Turn.close outcome).happened = [] := within_here i [.ended outcome]
    refine ⟨?_, rfl⟩
    rw [taskTurn, Turn.after_happened, within_append, within_here, hend]
    rfl
  | _ => exact ⟨within_here i happened, rfl⟩

theorem within_launchTask (i : Nat) (c : Conditions) (task : Task) :
    within i (launchTask c task).happened = [] ∧ part? i (launchTask c task).run = none := by
  unfold launchTask
  split
  · exact ⟨within_here i [_], rfl⟩
  · obtain ⟨hnone, hpart⟩ := within_taskTurn i task (task.action.proceed c)
    refine ⟨?_, hpart⟩
    rw [Turn.after_happened, within_append, within_here, hnone]
    rfl

/-- **A turn of a group**, seen from one of its parts. -/
theorem partTurn_resumeAt {run : Run} {place : Place} (h : resumeAt c cue place run = some turn)
    (i : Nat) : PartTurn c (part? i run) (within i turn.happened) (part? i turn.run) := by
  cases run with
  | closed outcome =>
    rw [resumeAt_closed] at h
    exact absurd h (by simp)
  | waiting plan =>
    obtain ⟨-, rfl⟩ := resumeAt_waiting h
    match plan with
    | .leaf task =>
      obtain ⟨hnone, hpart⟩ := within_launchTask i c task
      rw [launch, hnone, hpart]
      exact .still none
    | .group .sequential nested plans => exact partTurn_launchFrom c 0 plans i
    | .group .parallel nested plans => exact partTurn_launchParts c plans i
  | working task thread =>
    obtain ⟨-, step, -, rfl⟩ := resumeAt_working h
    obtain ⟨hnone, hpart⟩ := within_taskTurn i task step
    rw [hnone, hpart]
    exact .still none
  | sequence index current rest =>
    obtain ⟨place', turn', -, hturn', rfl⟩ := resumeAt_sequence h
    exact partTurn_ofPart hturn' (partTurn_launchFrom c (index + 1) rest) i
  | parallel parts =>
    rcases resumeAt_parallel h with
      ⟨outcomes, -, -, rfl⟩ | ⟨j, place', part, turn', -, hpart, hturn', rfl⟩
    · have hnone : within i (settle outcomes).happened = [] := within_here i [_, _]
      rw [hnone]
      exact (PartTurn.still _).forgotten
    · by_cases hj : j = i
      · subst hj
        have hlt := (List.getElem?_eq_some_iff.1 hpart).1
        rw [within_inside, part?, part?, hpart, List.getElem?_set_self hlt]
        exact .turn hturn'
      · rw [within_inside_ne hj, part?, part?, List.getElem?_set_ne hj]
        exact .still _

end PartTurns

/-! ## 3. Histories of the nodes -/

section Nodes

variable {plan node : Plan Task} {run : Run} {events : List RunEvent}

/-- A turn of the group continues the history of the part. -/
theorem PartTurn.history {c : Conditions} {before after : Option Run} {more : List RunEvent}
    (h : PartTurn c before more after)
    (hpart : ∃ part, History plan part events ∧ ∀ held, before = some held → held = part) :
    ∃ part, History plan part (events ++ more) ∧ ∀ held, after = some held → held = part := by
  induction h with
  | still held => rwa [List.append_nil]
  | opened plan' =>
    obtain ⟨part, hhistory, hheld⟩ := hpart
    obtain rfl := hheld _ rfl
    exact ⟨_, hhistory.opened, fun _ h => (Option.some.inj h).symm⟩
  | turn hturn =>
    obtain ⟨part, hhistory, hheld⟩ := hpart
    obtain rfl := hheld _ rfl
    exact ⟨_, hhistory.turn hturn, fun _ h => (Option.some.inj h).symm⟩
  | forgotten _ ih =>
    obtain ⟨part, hhistory, -⟩ := ih hpart
    exact ⟨part, hhistory, fun _ h => absurd h (by simp)⟩

theorem History.part_start {mode : Mode} {nested : Bool} {plans : List (Plan Task)} {i : Nat}
    (hplan : plans[i]? = some plan) {held : Run}
    (h : (Run.waiting (.group mode nested plans)).part? i = some held) : held = .waiting plan := by
  rw [part?, fromPart, if_neg (by omega), Nat.sub_zero, List.getElem?_map, hplan] at h
  exact (Option.some.inj h).symm

/-- The history of a group, seen from one of its parts, is the history of that part. -/
theorem History.part {mode : Mode} {nested : Bool} {plans : List (Plan Task)}
    (h : History (.group mode nested plans) run events) {i : Nat}
    (hplan : plans[i]? = some plan) : ∃ part, History plan part (within i events) := by
  have hheld : ∃ part, History plan part (within i events) ∧
      ∀ held, run.part? i = some held → held = part := by
    induction h with
    | start => exact ⟨_, .start, fun held hheld => History.part_start hplan hheld⟩
    | @opened node events _ ih =>
      have hown : within i ([⟨[], .opened⟩] : List RunEvent) = [] := rfl
      rw [within_append, hown, List.append_nil]
      exact ih
    | turn _ hturn ih =>
      rw [within_append]
      exact (partTurn_resumeAt hturn i).history ih
  obtain ⟨part, hhistory, -⟩ := hheld
  exact ⟨part, hhistory⟩

/-- **Every node has a history**: all that happened at and below its place. -/
theorem History.at? (h : History plan run events) {place : Place}
    (hnode : plan.at? place = some node) : ∃ run', History node run' (under place events) := by
  induction place generalizing plan run events with
  | nil =>
    obtain rfl := Option.some.inj hnode
    exact ⟨run, h⟩
  | cons i place ih =>
    obtain ⟨mode, nested, parts, part, rfl, hpart, hinner⟩ := Plan.at?_cons hnode
    obtain ⟨run', hhistory⟩ := h.part hpart
    exact ih hhistory hinner

/-- The work in a history is traced. -/
theorem History.traced (h : History plan run events) : Traced True plan run (work events) := by
  induction h with
  | start => exact .waiting plan
  | @opened node events _ ih =>
    have hown : work ([⟨[], .opened⟩] : List RunEvent) = [] := rfl
    rwa [work_append, hown, List.append_nil]
  | turn _ hturn ih =>
    rw [work_append]
    exact ih.resume (fun _ => trivial) hturn

/-- What is seen of a node from further up. -/
theorem mem_under {place : Place} {e : RunEvent} :
    e ∈ under place events ↔ ⟨place ++ e.place, e.occurrence⟩ ∈ events := by
  induction place generalizing events with
  | nil => rfl
  | cons i place ih => rw [under, ih, mem_within]; rfl

theorem under_cons_below {place rest : Place} {e : RunEvent} (h : e.place = place ++ rest)
    (events : List RunEvent) :
    under place (e :: events) = ⟨rest, e.occurrence⟩ :: under place events := by
  induction place generalizing e events with
  | nil =>
    obtain rfl : e.place = rest := h
    rfl
  | cons i place ih =>
    rw [under, within_cons_inside h, ih rfl]
    rfl

end Nodes

/-! ## 4. The parts of a sequential group -/

/-- Events in the parts of a group come in the order of the parts. -/
def PartsInOrder (events : List RunEvent) : Prop :=
  events.Pairwise fun e e' => ∀ i j p q, e.place = i :: p → e'.place = j :: q → i ≤ j

/-- Whether a sequential group has come as far as part `i`. -/
def Run.Reaches (i : Nat) : Run → Prop
  | .waiting _ => False
  | .sequence index _ _ => i ≤ index
  | _ => True

/-- `Onward index turn`: the turn of a sequential group begins with part `index` and never goes
back. -/
structure Onward (index : Nat) (turn : Turn) : Prop where
  inOrder : PartsInOrder turn.happened
  places : ∀ e ∈ turn.happened, ∀ i place, e.place = i :: place → index ≤ i ∧ turn.run.Reaches i
  reached : ∀ i, i ≤ index → turn.run.Reaches i

theorem onward_close (index : Nat) (outcome : Outcome Unit) : Onward index (Turn.close outcome) where
  inOrder := List.pairwise_singleton _ _
  places e he i place hplace := by
    rw [List.mem_singleton.1 he] at hplace
    exact absurd hplace (by simp)
  reached _ _ := trivial

/-- The events of one part before those of the parts after it go onward. -/
theorem Onward.after {index : Nat} {turn : Turn} (h : Onward (index + 1) turn)
    (events : List RunEvent) : Onward index (turn.after (events.map (Event.inside index))) where
  inOrder := by
    refine List.pairwise_append.2 ⟨?_, h.inOrder, fun e he e' he' i j p q hi hj => ?_⟩
    · refine List.pairwise_map.2 (List.pairwise_of_forall fun e e' i j p q hi hj => ?_)
      have hi : index = i := (List.cons.inj hi).1
      have hj : index = j := (List.cons.inj hj).1
      omega
    · obtain ⟨x, -, rfl⟩ := List.mem_map.1 he
      have hi : index = i := (List.cons.inj hi).1
      have hlater := (h.places e' he' j q hj).1
      omega
  places e he i place hplace := by
    rcases List.mem_append.1 he with he | he
    · obtain ⟨x, -, rfl⟩ := List.mem_map.1 he
      obtain rfl : index = i := (List.cons.inj hplace).1
      exact ⟨Nat.le_refl index, h.reached index (by omega)⟩
    · obtain ⟨hlater, hreached⟩ := h.places e he i place hplace
      exact ⟨by omega, hreached⟩
  reached i hi := h.reached i (by omega)

theorem onward_ofPart {index : Nat} {rest : List (Plan Task)} (turn : Turn) {later : Unit → Turn}
    (hlater : Onward (index + 1) (later ())) :
    Onward index (Turn.ofPart index rest turn later) := by
  cases hrun : turn.run.outcome? with
  | none =>
    rw [Turn.ofPart_underWay hrun]
    refine ⟨?_, fun e he i place hplace => ?_, fun i hi => hi⟩
    · refine List.pairwise_map.2 (List.pairwise_of_forall fun e e' i j p q hi hj => ?_)
      have hi : index = i := (List.cons.inj hi).1
      have hj : index = j := (List.cons.inj hj).1
      omega
    · obtain ⟨x, -, rfl⟩ := List.mem_map.1 he
      obtain rfl : index = i := (List.cons.inj hplace).1
      exact ⟨Nat.le_refl index, Nat.le_refl index⟩
  | some outcome =>
    have hclosed := outcome?_eq_some_iff.1 hrun
    by_cases hok : outcome.isOk = true
    · rw [Outcome.isOk_iff.1 hok] at hclosed
      rw [Turn.ofPart_passed hclosed]
      exact hlater.after turn.happened
    · rw [Turn.ofPart_stopped hclosed (by simpa using hok)]
      exact (onward_close (index + 1) outcome).after turn.happened

theorem onward_launchFrom (c : Conditions) (index : Nat) (plans : List (Plan Task)) :
    Onward index (launchFrom c index plans) := by
  induction plans generalizing index with
  | nil => exact onward_close index (.ok ())
  | cons plan rest ih =>
    unfold launchFrom
    split
    · exact onward_close index _
    · exact onward_ofPart (launch c plan) (ih (index + 1))

/-- **The parts of a sequential group come one after the other**, with everything that happens in
them. -/
theorem History.parts_in_order {nested : Bool} {plans : List (Plan Task)} {run : Run}
    {events : List RunEvent} (h : History (.group .sequential nested plans) run events) :
    PartsInOrder events ∧ ∀ e ∈ events, ∀ i place, e.place = i :: place → run.Reaches i := by
  induction h with
  | start => exact ⟨.nil, fun e he => absurd he List.not_mem_nil⟩
  | @opened node events _ ih =>
    obtain ⟨horder, hreached⟩ := ih
    refine ⟨List.pairwise_append.2 ⟨horder, List.pairwise_singleton _ _, ?_⟩, ?_⟩
    · intro e _ e' he' i j p q _ hj
      rw [List.mem_singleton.1 he'] at hj
      exact absurd hj (by simp)
    · intro e he i place hplace
      rcases List.mem_append.1 he with he | he
      · exact hreached e he i place hplace
      · rw [List.mem_singleton.1 he] at hplace
        exact absurd hplace (by simp)
  | @turn run events c cue place turn hbefore hturn ih =>
    obtain ⟨horder, hreached⟩ := ih
    -- What happens from now on is in the part that is reached, or beyond it.
    have honward : ∃ index, Onward index turn ∧ ∀ i, run.Reaches i → i ≤ index := by
      have htraced := hbefore.traced
      generalize work events = done at htraced
      cases run with
      | closed outcome =>
        rw [resumeAt_closed] at hturn
        exact absurd hturn (by simp)
      | waiting plan =>
        obtain ⟨rfl, -⟩ := htraced.of_waiting
        obtain ⟨-, rfl⟩ := resumeAt_waiting hturn
        exact ⟨0, onward_launchFrom c 0 plans, fun _ hwaiting => hwaiting.elim⟩
      | sequence index current rest =>
        obtain ⟨_, turn', -, -, rfl⟩ := resumeAt_sequence hturn
        exact ⟨index, onward_ofPart turn' (onward_launchFrom c (index + 1) rest), fun _ hi => hi⟩
      | working task thread =>
        cases htraced with
        | group _ _ _ _ hstands => nomatch hstands
      | parallel parts =>
        cases htraced with
        | group _ _ _ _ hstands => nomatch hstands
    obtain ⟨index, hturns, hupto⟩ := honward
    refine ⟨List.pairwise_append.2 ⟨horder, hturns.inOrder, ?_⟩, ?_⟩
    · intro e he e' he' i j p q hi hj
      exact Nat.le_trans (hupto i (hreached e he i p hi)) (hturns.places e' he' j q hj).1
    · intro e he i place hplace
      rcases List.mem_append.1 he with he | he
      · exact hturns.reached i (hupto i (hreached e he i place hplace))
      · exact (hturns.places e he i place hplace).2

theorem le_of_open {index i : Nat} {back : List Run} {part : Run}
    (hpart : (List.replicate index passed ++ back)[i]? = some part)
    (hopen : ∀ outcome, part ≠ .closed outcome) : index ≤ i := by
  refine Nat.le_of_not_lt fun hi => hopen (.ok ()) ?_
  rw [List.getElem?_append_left (by simpa using hi)] at hpart
  exact List.eq_of_mem_replicate (List.mem_of_getElem? hpart)

/-- A group whose part is under way is under way itself, and holds the part. -/
theorem Stands.holds {mayRefuse : Prop} {mode : Mode} {parts : List Run} {run part : Run}
    {own : List RunEvent} (h : Stands mayRefuse mode parts run own) {i : Nat}
    (hpart : parts[i]? = some part) (hopen : ∀ outcome, part ≠ .closed outcome)
    (hbegun : ∀ plan, part ≠ .waiting plan) :
    (∃ rest, run = .sequence i part rest) ∨ run = .parallel parts := by
  have hnever : ¬ ((∃ outcome, part = .closed outcome) ∨ part.Quiet) := by
    rintro (⟨outcome, hclosed⟩ | hpassed | ⟨plan, hwaiting⟩)
    · exact hopen outcome hclosed
    · exact hopen _ hpassed
    · exact hbegun plan hwaiting
  cases hrun : run.outcome? with
  | some outcome =>
    obtain rfl := outcome?_eq_some_iff.1 hrun
    exact absurd (h.at_rest part (List.mem_of_getElem? hpart)) hnever
  | none =>
    cases h with
    | done | refused | stopped | settled => exact absurd hrun (by simp [Run.outcome?])
    | apart => exact .inr rfl
    | underWay index current rest hcurrent =>
      rcases Nat.lt_or_eq_of_le (le_of_open hpart hopen) with hi | rfl
      · rw [List.getElem?_append_right (by simp; omega), List.length_replicate,
          show i - index = (i - index - 1) + 1 by omega, List.getElem?_cons_succ,
          List.getElem?_map, Option.map_eq_some_iff] at hpart
        obtain ⟨plan, -, hwaiting⟩ := hpart
        exact absurd hwaiting.symm (hbegun plan)
      · obtain rfl : current = part := by simpa using hpart
        exact .inl ⟨rest, rfl⟩

/-! ## 5. The end of a node -/

/-- A turn that closes the node ends with its end. -/
def Turn.EndsLast (turn : Turn) : Prop :=
  ∀ outcome, turn.run = .closed outcome → ∃ before, turn.happened = before ++ [⟨[], .ended outcome⟩]

theorem Turn.endsLast_close (outcome : Outcome Unit) : (Turn.close outcome).EndsLast := by
  intro outcome' hrun
  obtain rfl := Run.closed.inj hrun
  exact ⟨[], rfl⟩

theorem Turn.EndsLast.after {turn : Turn} (h : turn.EndsLast) (events : List RunEvent) :
    (turn.after events).EndsLast := by
  intro outcome hrun
  obtain ⟨before, hbefore⟩ := h outcome hrun
  exact ⟨events ++ before, by rw [Turn.after_happened, hbefore, List.append_assoc]⟩

theorem Turn.endsLast_of_open {turn : Turn} (h : turn.run.outcome? = none) : turn.EndsLast := by
  intro outcome hrun
  rw [hrun] at h
  exact absurd h (by simp [Run.outcome?])

theorem endsLast_taskTurn (task : Task)
    (step : List (Occurrence Request Request.Answer) × Thread Request Request.Answer Unit) :
    (taskTurn task step).EndsLast := by
  obtain ⟨happened, thread⟩ := step
  cases thread with
  | done outcome => exact (Turn.endsLast_close outcome).after _
  | _ => exact Turn.endsLast_of_open rfl

theorem endsLast_ofPart {index : Nat} {rest : List (Plan Task)} (turn : Turn) {later : Unit → Turn}
    (hlater : (later ()).EndsLast) : (Turn.ofPart index rest turn later).EndsLast := by
  cases hrun : turn.run.outcome? with
  | none =>
    rw [Turn.ofPart_underWay hrun]
    exact Turn.endsLast_of_open rfl
  | some outcome =>
    have hclosed := outcome?_eq_some_iff.1 hrun
    by_cases hok : outcome.isOk = true
    · rw [Outcome.isOk_iff.1 hok] at hclosed
      rw [Turn.ofPart_passed hclosed]
      exact hlater.after _
    · rw [Turn.ofPart_stopped hclosed (by simpa using hok)]
      exact (Turn.endsLast_close outcome).after _

theorem endsLast_launchFrom (c : Conditions) (index : Nat) (plans : List (Plan Task)) :
    (launchFrom c index plans).EndsLast := by
  induction plans generalizing index with
  | nil => exact Turn.endsLast_close _
  | cons plan rest ih =>
    unfold launchFrom
    split
    · exact Turn.endsLast_close _
    · exact endsLast_ofPart _ (ih (index + 1))

theorem endsLast_launch (c : Conditions) (plan : Plan Task) : (launch c plan).EndsLast := by
  cases plan with
  | leaf task =>
    unfold launch launchTask
    split
    · exact Turn.endsLast_close _
    · exact (endsLast_taskTurn task _).after _
  | group mode nested plans =>
    cases mode with
    | sequential => exact endsLast_launchFrom c 0 plans
    | parallel =>
      unfold launch launchParts
      split
      · exact ((Turn.endsLast_close _).after _).after _
      · exact Turn.endsLast_of_open rfl

theorem endsLast_resumeAt {c : Conditions} {cue : Cue Request Request.Answer} {place : Place}
    {run : Run} {turn : Turn} (h : resumeAt c cue place run = some turn) : turn.EndsLast := by
  cases run with
  | closed outcome =>
    rw [resumeAt_closed] at h
    exact absurd h (by simp)
  | waiting plan =>
    obtain ⟨-, rfl⟩ := resumeAt_waiting h
    exact endsLast_launch c plan
  | working task thread =>
    obtain ⟨-, step, -, rfl⟩ := resumeAt_working h
    exact endsLast_taskTurn task step
  | sequence index current rest =>
    obtain ⟨_, turn', -, -, rfl⟩ := resumeAt_sequence h
    exact endsLast_ofPart turn' (endsLast_launchFrom c (index + 1) rest)
  | parallel parts =>
    rcases resumeAt_parallel h with ⟨outcomes, -, -, rfl⟩ | ⟨_, _, _, _, -, -, -, rfl⟩
    · exact (Turn.endsLast_close _).after _
    · exact Turn.endsLast_of_open rfl

section Ends

variable {plan : Plan Task} {run : Run} {events : List RunEvent}

/-- A node that is closed has ended once, with its outcome, and no other node has ended at its
place. -/
theorem Traced.ends_eq {mayRefuse : Prop} (h : Traced mayRefuse plan run events) :
    (occurrencesAt [] events).filterMap Occurrence.end? = run.outcome?.toList := by
  cases h with
  | waiting => rfl
  | refused task _ => rw [occurrencesAt_here]; rfl
  | @working task past thread htrace hopen =>
    have hrun : (Run.working task thread).outcome? = none := rfl
    rw [occurrencesAt_here, List.filterMap_cons_none rfl, htrace.no_end, hrun]
    rfl
  | finished htrace =>
    rw [occurrencesAt_here, List.cons_append, List.filterMap_cons_none rfl, List.filterMap_append,
      htrace.no_end]
    rfl
  | @group _ _ plans _ _ events own _ _ hplaces _ hstands =>
    rw [occurrencesAt_append, occurrencesAt_parts hplaces, List.nil_append]
    cases hstands with
    | underWay | apart => rfl
    | done | refused | stopped | settled => rw [occurrencesAt_here]; rfl

/-- What has happened at a place is seen among the events. -/
theorem mem_occurrencesAt {place : Place} {o : Occurrence Request Request.Answer} :
    o ∈ occurrencesAt place events ↔ ⟨place, o⟩ ∈ events := by
  rw [occurrencesAt, List.mem_filterMap]
  constructor
  · rintro ⟨⟨p, o'⟩, he, hsome⟩
    rw [Option.ite_none_right_eq_some] at hsome
    obtain ⟨rfl, hsame⟩ := hsome
    obtain rfl := Option.some.inj hsame
    exact he
  · intro he
    exact ⟨_, he, if_pos rfl⟩

/-- A node is closed exactly if its end was seen. -/
theorem Traced.ended_iff {mayRefuse : Prop} (h : Traced mayRefuse plan run events)
    {outcome : Outcome Unit} : ⟨[], .ended outcome⟩ ∈ events ↔ run = .closed outcome := by
  have hends := h.ends_eq
  rw [← mem_occurrencesAt, ← outcome?_eq_some_iff, ← Option.mem_toList, ← hends, List.mem_filterMap]
  constructor
  · intro hmem
    exact ⟨_, hmem, rfl⟩
  · rintro ⟨o, hmem, hend⟩
    cases o with
    | ended outcome' =>
      obtain rfl := Option.some.inj hend
      exact hmem
    | _ => exact absurd hend (by simp [Occurrence.end?])

/-- **When a plan is closed, every task that was begun has ended.** -/
theorem Traced.ended_of_closed {mayRefuse : Prop} (h : Traced mayRefuse plan run events)
    {outcome : Outcome Unit} (hclosed : run = .closed outcome) {place : Place} {task : Task}
    (hleaf : plan.at? place = some (.leaf task)) (hbegan : ⟨place, .began⟩ ∈ events) :
    ∃ outcome', ⟨place, .ended outcome'⟩ ∈ events := by
  induction h generalizing place outcome with
  | waiting | working => exact absurd hclosed (by simp)
  | refused task hrefuse =>
    cases place with
    | nil => exact ⟨_, (Traced.refused task hrefuse).ended_iff.2 rfl⟩
    | cons i place => exact absurd hleaf (by simp [Plan.at?])
  | finished htrace =>
    cases place with
    | nil =>
      have hfinished : Traced mayRefuse _ _ _ := .finished htrace
      exact ⟨_, hfinished.ended_iff.2 rfl⟩
    | cons i place => exact absurd hleaf (by simp [Plan.at?])
  | @group mode nested plans parts run events own hlen hparts hplaces horder hstands ih =>
    subst hclosed
    obtain ⟨i, place, plan, rfl, hplan, hinner⟩ := Plan.at?_group hleaf
    obtain ⟨part, hpart⟩ := exists_getElem?_of_length_eq hlen.symm hplan
    have hseen : ⟨place, .began⟩ ∈ within i (events ++ own) := mem_within.2 hbegan
    rw [hstands.within_append_own] at hseen
    have hended : ∃ outcome', ⟨place, .ended outcome'⟩ ∈ within i events := by
      rcases hstands.at_rest part (List.mem_of_getElem? hpart) with
        ⟨outcome', rfl⟩ | rfl | ⟨plan', rfl⟩
      · exact ih i plan _ hplan hpart rfl hinner hseen
      · exact ih i plan _ hplan hpart rfl hinner hseen
      · obtain ⟨-, hnone⟩ := (hparts i plan _ hplan hpart).of_waiting
        rw [hnone] at hseen
        exact absurd hseen List.not_mem_nil
    obtain ⟨outcome', hmem⟩ := hended
    exact ⟨outcome', List.mem_append_left _ (mem_within.1 hmem)⟩

/-- **The end of a node is the last thing that happens in it.** -/
theorem History.ends_last (h : History plan run events) :
    (∀ outcome, run = .closed outcome → ∃ before, events = before ++ [⟨[], .ended outcome⟩]) ∧
    ∀ before after outcome, events = before ++ ⟨[], .ended outcome⟩ :: after →
      after = [] ∧ run = .closed outcome := by
  have hlast : ∀ outcome, run = .closed outcome →
      ∃ before, events = before ++ [⟨[], .ended outcome⟩] := by
    intro outcome hrun
    cases h with
    | start | opened => exact absurd hrun (by simp)
    | @turn run events c cue place turn _ hturn =>
      obtain ⟨before, hbefore⟩ := endsLast_resumeAt hturn outcome hrun
      exact ⟨events ++ before, by rw [hbefore, List.append_assoc]⟩
  refine ⟨hlast, fun before after outcome hevents => ?_⟩
  have hends := h.traced.ends_eq
  have hend : (Occurrence.ended outcome : Occurrence Request Request.Answer).end? = some outcome :=
    rfl
  rw [occurrencesAt_work, ← filterMap_end?_deeds, hevents, occurrencesAt_append,
    occurrencesAt_cons_self, List.filterMap_append, List.filterMap_cons_some hend] at hends
  cases hrun : run.outcome? with
  | none =>
    rw [hrun] at hends
    exact absurd hends (by simp)
  | some outcome' =>
    rw [hrun, Option.toList_some] at hends
    obtain ⟨-, hsame⟩ | ⟨-, habsurd⟩ := List.append_eq_singleton_iff.1 hends
    · obtain ⟨rfl, hnone⟩ := List.cons.inj hsame
      have hclosed := outcome?_eq_some_iff.1 hrun
      refine ⟨?_, hclosed⟩
      -- The last event is an end at the root, and there is none in what follows the given one.
      obtain ⟨before', hbefore'⟩ := hlast outcome hclosed
      rcases List.eq_nil_or_concat after with rfl | ⟨init, last, rfl⟩
      · rfl
      · have hlist : (before ++ ⟨[], .ended outcome⟩ :: init) ++ [last] =
            before' ++ [⟨[], .ended outcome⟩] := by
          rw [← hbefore', hevents, List.concat_eq_append, List.append_assoc, List.cons_append]
        obtain rfl := List.cons.inj (List.append_inj_right' hlist rfl) |>.1
        rw [List.concat_eq_append, occurrencesAt_append, List.filterMap_append] at hnone
        exact absurd hnone (by simp [hend])
    · exact absurd habsurd (by simp)

end Ends

end Teardown
