/-
# What a run can reach

A run changes by moves, in any order and at any speed, and it may be cancelled at any time.  Here
is what all runs have in common.  `follow_induction` is the principle: a property that every
possible move keeps holds after any sequence of moves.  With it every run is traced
(`traced_follow`, `traced_execution`), so the work that has happened and the way in which the run
stands fit together.

A trace of a run contains a trace of every node (`Traced.at?`), and a run that has ended well has
carried every node to a good end (`Traced.passed_at?`).  That is how later modules read a trace:
they go down to the one node they are about, and what happened elsewhere is no longer in sight.

* §1  sequences of moves, and the induction over them.  The clock and the cancellation leave the
      run itself as it is (`after?_cases`), so only turns need a proof.
* §2  what is shown for the turns of a run holds for every process that carries the run out and
      adds nothing but records (`Carries`), the execution with its log among them.
* §3  the outcome of a group, from those of its parts.
* §4  the events below a place, as the node there sees them (`under`, `occurrencesAt`).

A trace speaks of the order of events and not of their times.  How long a wait lasts is a matter
of `Teardown.Proofs.Scripts` and what follows it.
-/
import Teardown.Proofs.Places
import Teardown.Proofs.RunTrace

namespace Teardown

variable {R : Type} {A : R → Type} {σ : Type}

/-! ## 1. Sequences of moves -/

def happened (entries : List (Entry R A)) : List (Event R A) := entries.map Entry.event

@[simp] theorem happened_nil : happened ([] : List (Entry R A)) = [] := rfl

@[simp] theorem happened_append (xs ys : List (Entry R A)) :
    happened (xs ++ ys) = happened xs ++ happened ys := List.map_append

@[simp] theorem happened_at (now : Moment) (events : List (Event R A)) :
    happened (events.map (Entry.mk now)) = events := by
  rw [happened, List.map_map]
  exact List.map_id events

namespace Situation

variable {process : Process R A σ} {s s' : Situation σ} {entries : List (Entry R A)}

theorem follow_cons {move : Move R A} {moves : List (Move R A)} :
    s.follow process (move :: moves) = some (entries, s') ↔
      ∃ now next later, s.after? process move = some (now, next) ∧
        next.follow process moves = some (later, s') ∧ entries = now ++ later := by
  simp only [follow, Option.bind_eq_bind, Option.bind_eq_some_iff, Option.some.injEq, Prod.mk.injEq,
    Prod.exists]
  constructor
  · rintro ⟨now, next, hafter, later, _, hfollow, rfl, rfl⟩
    exact ⟨now, next, later, hafter, hfollow, rfl⟩
  · rintro ⟨now, next, later, hafter, hfollow, rfl⟩
    exact ⟨now, next, hafter, later, s', hfollow, rfl, rfl⟩

theorem follow_append {moves more : List (Move R A)} :
    s.follow process (moves ++ more) = some (entries, s') ↔
      ∃ now next later, s.follow process moves = some (now, next) ∧
        next.follow process more = some (later, s') ∧ entries = now ++ later := by
  induction moves generalizing s entries with
  | nil =>
    constructor
    · intro h
      exact ⟨[], s, entries, rfl, h, rfl⟩
    · rintro ⟨now, next, later, hnow, hlater, rfl⟩
      obtain ⟨rfl, rfl⟩ : [] = now ∧ s = next := by simpa [follow] using hnow
      exact hlater
  | cons move moves ih =>
    rw [List.cons_append, follow_cons]
    constructor
    · rintro ⟨first, between, rest, hafter, hrest, rfl⟩
      obtain ⟨now, next, later, hnow, hlater, rfl⟩ := ih.1 hrest
      exact ⟨first ++ now, next, later, follow_cons.2 ⟨first, between, now, hafter, hnow, rfl⟩,
        hlater, (List.append_assoc ..).symm⟩
    · rintro ⟨_, next, later, hmoves, hlater, rfl⟩
      obtain ⟨first, between, now, hafter, hnow, rfl⟩ := follow_cons.1 hmoves
      exact ⟨first, between, now ++ later, hafter, ih.2 ⟨now, next, later, hnow, hlater, rfl⟩,
        List.append_assoc ..⟩

/-- **The principle of induction over moves.**  A property of the situation and of all that has
happened holds after a sequence of moves if each of its moves keeps it. -/
theorem follow_induction (P : Situation σ → List (Entry R A) → Prop) {moves : List (Move R A)}
    (hstep : ∀ move ∈ moves, ∀ s s' past now, P s past → s.after? process move = some (now, s') →
      P s' (past ++ now))
    (past : List (Entry R A)) (h : P s past)
    (hfollow : s.follow process moves = some (entries, s')) : P s' (past ++ entries) := by
  induction moves generalizing s past entries with
  | nil =>
    obtain ⟨rfl, rfl⟩ : [] = entries ∧ s = s' := by simpa [follow] using hfollow
    rwa [List.append_nil]
  | cons move moves ih =>
    obtain ⟨now, next, later, hafter, hlater, rfl⟩ := follow_cons.1 hfollow
    rw [← List.append_assoc]
    have hnow := hstep move List.mem_cons_self s next past now h hafter
    exact ih (fun m hm => hstep m (List.mem_cons_of_mem _ hm)) _ hnow hlater

/-- Every move is a turn of the process, the cancellation, a wait, or the end of all moves. -/
theorem after?_cases {move : Move R A} (h : s.after? process move = some (entries, s')) :
    (∃ place cue factor events state, move = .resume place cue factor ∧ s.dropped = false ∧
      process.resume ⟨s.now, s.cancelled, factor⟩ place cue s.state = some (events, state) ∧
      entries = events.map (Entry.mk s.now) ∧ s' = { s with state }) ∨
    (move = .cancel ∧ entries = [⟨s.now, [], .cancelled⟩] ∧ s' = { s with cancelled := true }) ∨
    (∃ length, move = .pass length ∧ entries = [] ∧ s' = { s with now := s.now + length }) ∨
    (move = .drop ∧ entries = [] ∧ s' = { s with dropped := true }) := by
  cases move with
  | resume place cue factor =>
    simp only [after?] at h
    split at h
    · exact absurd h (by simp)
    · rename_i hdropped
      obtain ⟨⟨events, state⟩, hturn, heq⟩ := Option.map_eq_some_iff.1 h
      simp only [Prod.mk.injEq] at heq
      exact .inl ⟨place, cue, factor, events, state, rfl, by simpa using hdropped, hturn,
        heq.1.symm, heq.2.symm⟩
  | cancel =>
    obtain ⟨rfl, rfl⟩ : _ = entries ∧ _ = s' := by simpa [after?] using h
    exact .inr (.inl ⟨rfl, rfl, rfl⟩)
  | pass length =>
    simp only [after?] at h
    split at h
    · obtain ⟨rfl, rfl⟩ : [] = entries ∧ _ = s' := by simpa using h
      exact .inr (.inr (.inl ⟨length, rfl, rfl, rfl⟩))
    · exact absurd h (by simp)
  | drop =>
    obtain ⟨rfl, rfl⟩ : [] = entries ∧ _ = s' := by simpa [after?] using h
    exact .inr (.inr (.inr ⟨rfl, rfl, rfl⟩))

/-- A process is cancelled only by the cancellation. -/
theorem cancelled_of_follow {moves : List (Move R A)} (hmoves : Move.cancel ∉ moves)
    (hfollow : s.follow process moves = some (entries, s')) : s'.cancelled = s.cancelled := by
  refine follow_induction (fun t _ => t.cancelled = s.cancelled) ?_ [] rfl hfollow
  intro move hmove t t' past now ht hafter
  rcases after?_cases hafter with ⟨_, _, _, _, _, -, -, -, -, rfl⟩ | ⟨rfl, -, -⟩ |
    ⟨_, -, -, rfl⟩ | ⟨-, -, rfl⟩
  · exact ht
  · exact absurd hmove hmoves
  · exact ht
  · exact ht

end Situation

/-! ## 2. Runs and executions -/

open Run

/-- `Carries process run`: the turns of a process are turns of the run in it, with nothing but
records added to them. -/
def Carries (process : Process Request Request.Answer σ) (run : σ → Run) : Prop :=
  ∀ c place cue s events s', process.resume c place cue s = some (events, s') →
    ∃ turn, resumeAt c cue place (run s) = some turn ∧ run s' = turn.run ∧
      work events = work turn.happened

theorem Run.carries : Carries Run.process id := by
  intro c place cue s events s' h
  obtain ⟨turn, hturn, heq⟩ := Option.map_eq_some_iff.1 h
  obtain ⟨rfl, rfl⟩ := Prod.mk.inj heq
  exact ⟨turn, hturn, rfl, rfl⟩

theorem Execution.work_ofTurn (c : Conditions) (tasks : Nat) (started : Moment) (turn : Turn) :
    work (Execution.ofTurn c tasks started turn).1 = work turn.happened := by
  simp [Execution.ofTurn]

theorem Execution.carries : Carries Execution.process Execution.run := by
  intro c place cue s events s' h
  obtain ⟨turn, hturn, heq⟩ := Option.map_eq_some_iff.1 h
  have hwork := Execution.work_ofTurn c s.tasks s.started turn
  rw [heq] at hwork
  obtain ⟨-, rfl⟩ := Prod.mk.inj heq
  exact ⟨turn, hturn, rfl, hwork⟩

theorem Stands.mono {P Q : Prop} (hPQ : P → Q) {mode : Mode} {parts : List Run} {run : Run}
    {own : List RunEvent} (h : Stands P mode parts run own) : Stands Q mode parts run own := by
  cases h with
  | underWay index current rest hcurrent => exact .underWay index current rest hcurrent
  | done count => exact .done count
  | refused index rest hp hrest => exact .refused index rest (hPQ hp) hrest
  | stopped index outcome rest hstop => exact .stopped index outcome rest hstop
  | apart parts => exact .apart parts
  | settled parts outcomes houtcomes => exact .settled parts outcomes houtcomes

theorem Traced.mono {P Q : Prop} (hPQ : P → Q) {plan : Plan Task} {run : Run}
    {events : List RunEvent} (h : Traced P plan run events) : Traced Q plan run events := by
  induction h with
  | waiting plan => exact .waiting plan
  | refused task hp => exact .refused task (hPQ hp)
  | working htrace hunderWay => exact .working htrace hunderWay
  | finished htrace => exact .finished htrace
  | group hlen _ hplaces horder hstands ih =>
    exact .group hlen ih hplaces horder (hstands.mono hPQ)

/-- A process that carries out a run stays traced in all its moves. -/
theorem Carries.traced {process : Process Request Request.Answer σ} {run : σ → Run}
    (hcarries : Carries process run) {plan : Plan Task} {s s' : Situation σ}
    (past : List (Entry Request Request.Answer)) {entries : List (Entry Request Request.Answer)}
    {moves : List (Move Request Request.Answer)}
    (h : Traced (s.cancelled = true) plan (run s.state) (work (happened past)))
    (hfollow : s.follow process moves = some (entries, s')) :
    Traced (s'.cancelled = true) plan (run s'.state) (work (happened (past ++ entries))) := by
  refine Situation.follow_induction
    (fun s past => Traced (s.cancelled = true) plan (run s.state) (work (happened past)))
    ?_ past h hfollow
  intro move _ s s' past now h hafter
  rcases Situation.after?_cases hafter with
    ⟨place, cue, factor, events, state, -, -, hturn, rfl, rfl⟩ | ⟨-, rfl, rfl⟩ |
      ⟨_, -, rfl, rfl⟩ | ⟨-, rfl, rfl⟩
  · obtain ⟨turn, hresume, hrun, hwork⟩ := hcarries _ _ _ _ _ _ hturn
    have hgo := h.resume id hresume
    rw [← hrun, ← hwork, ← work_append] at hgo
    rwa [happened_append, happened_at]
  · rw [happened_append, work_append]
    exact (List.append_nil (work (happened past))).symm ▸ h.mono fun _ => rfl
  · rwa [List.append_nil]
  · rwa [List.append_nil]

/-- A plan about to be carried out. -/
def Run.about (plan : Plan Task) (now : Moment) (cancelled : Bool) : Situation Run :=
  ⟨.waiting plan, now, cancelled, false⟩

/-- **Every run is traced.** -/
theorem traced_follow {plan : Plan Task} {now : Moment} {cancelled : Bool}
    {moves : List (Move Request Request.Answer)} {entries : List (Entry Request Request.Answer)}
    {s : Situation Run}
    (h : (Run.about plan now cancelled).follow Run.process moves = some (entries, s)) :
    Traced (s.cancelled = true) plan s.state (work (happened entries)) :=
  Run.carries.traced [] (.waiting plan) h

/-- A plan about to be executed, with what has happened in the first turn of its execution. -/
def Execution.about (plan : Plan Task) (c : Conditions) :
    List (Entry Request Request.Answer) × Situation Execution :=
  let (events, execution) := Execution.start c plan
  (events.map (Entry.mk c.now), ⟨execution, c.now, c.cancelled, false⟩)

/-- **Every execution of a plan with tasks is traced.** -/
theorem traced_execution {plan : Plan Task} (hplan : plan.isEmpty = false) {c : Conditions}
    {moves : List (Move Request Request.Answer)} {entries : List (Entry Request Request.Answer)}
    {s : Situation Execution}
    (h : (Execution.about plan c).2.follow Execution.process moves = some (entries, s)) :
    Traced (s.cancelled = true) plan s.state.run
      (work (happened ((Execution.about plan c).1 ++ entries))) := by
  refine Execution.carries.traced _ ?_ h
  have hlaunch : Traced (c.cancelled = true) plan _ _ := traced_launch id plan
  simpa [Execution.about, Execution.start, hplan, Execution.work_ofTurn, Execution.ofTurn]
    using hlaunch

/-! ## 3. Outcomes of several parts -/

theorem Run.outcomes?_eq_some_iff {parts : List Run} {outcomes : List (Outcome Unit)} :
    outcomes? parts = some outcomes ↔ parts = outcomes.map .closed := by
  induction parts generalizing outcomes with
  | nil => cases outcomes <;> simp [outcomes?]
  | cons part parts ih =>
    simp only [outcomes?, Option.bind_eq_bind, Option.bind_eq_some_iff, outcome?_eq_some_iff, ih,
      Option.some.injEq]
    constructor
    · rintro ⟨outcome, rfl, _, rfl, rfl⟩
      rfl
    · intro h
      cases outcomes with
      | nil => exact absurd h (by simp)
      | cons outcome outcomes =>
        obtain ⟨rfl, rfl⟩ := List.cons.inj h
        exact ⟨outcome, rfl, outcomes, rfl, rfl⟩

theorem Run.partFaults_eq_nil_iff {index : Nat} {outcomes : List (Outcome Unit)} :
    partFaults index outcomes = [] ↔ ∀ outcome ∈ outcomes, outcome = .ok () := by
  induction outcomes generalizing index with
  | nil => simp [partFaults]
  | cons outcome outcomes ih =>
    cases outcome with
    | ok value => simp [partFaults, partFault?, ih]
    | fault cause => simp [partFaults, partFault?]
    | panic text => simp [partFaults, partFault?]

/-- A parallel group ends well exactly if all its parts have. -/
theorem Run.combine_eq_ok_iff {outcomes : List (Outcome Unit)} :
    combine outcomes = .ok () ↔ ∀ outcome ∈ outcomes, outcome = .ok () := by
  have hnil : partFaults 0 outcomes = [] ↔ ∀ outcome ∈ outcomes, outcome = .ok () :=
    partFaults_eq_nil_iff
  rw [← hnil, combine]
  cases partFaults 0 outcomes <;> simp

/-- A group that has ended well has carried all its parts to a good end. -/
theorem Stands.all_passed {mayRefuse : Prop} {mode : Mode} {parts : List Run} {own : List RunEvent}
    (h : Stands mayRefuse mode parts passed own) : ∀ part ∈ parts, part = passed := by
  generalize hrun : passed = run at h
  cases h with
  | underWay => exact absurd hrun (by simp)
  | apart => exact absurd hrun (by simp)
  | refused => exact absurd hrun (by simp [cancelledAt])
  | done count => exact fun part hpart => List.eq_of_mem_replicate hpart
  | stopped index outcome rest hstop =>
    obtain rfl := Run.closed.inj hrun
    exact absurd hstop (by simp [Outcome.isOk])
  | settled parts outcomes houtcomes =>
    have hall := combine_eq_ok_iff.1 (Run.closed.inj hrun).symm
    obtain rfl := outcomes?_eq_some_iff.1 houtcomes
    intro part hpart
    obtain ⟨outcome, houtcome, rfl⟩ := List.mem_map.1 hpart
    rw [hall outcome houtcome]
    exact hrun

theorem Stands.own_eq {mayRefuse : Prop} {mode : Mode} {parts : List Run} {run : Run}
    {own : List RunEvent} (h : Stands mayRefuse mode parts run own) :
    ∃ here, own = eventsHere here := by
  cases h with
  | underWay | apart => exact ⟨[], rfl⟩
  | done | refused | stopped | settled => exact ⟨_, rfl⟩

theorem Stands.within_append_own {mayRefuse : Prop} {mode : Mode} {parts : List Run} {run : Run}
    {events own : List RunEvent} (h : Stands mayRefuse mode parts run own) (i : Nat) :
    within i (events ++ own) = within i events := by
  obtain ⟨here, rfl⟩ := h.own_eq
  rw [within_append, within_here, List.append_nil]

/-- The parts of a group are traced on all that happened in the group. -/
theorem Stands.traced_parts {mayRefuse : Prop} {mode : Mode} {plans : List (Plan Task)}
    {parts : List Run} {run : Run} {events own : List RunEvent}
    (h : Stands mayRefuse mode parts run own)
    (hparts : ∀ (i : Nat) (plan : Plan Task) (part : Run), plans[i]? = some plan →
      parts[i]? = some part → Traced mayRefuse plan part (within i events)) :
    ∀ (i : Nat) (plan : Plan Task) (part : Run), plans[i]? = some plan →
      parts[i]? = some part → Traced mayRefuse plan part (within i (events ++ own)) := by
  intro i plan part hplan hpart
  rw [h.within_append_own]
  exact hparts i plan part hplan hpart

/-! ## 4. Nodes -/

/-- The events at and below a place, as the node there sees them. -/
def under : Place → List (Event R A) → List (Event R A)
  | [], events => events
  | i :: place, events => under place (within i events)

/-- What has happened at a place, in order. -/
def occurrencesAt (place : Place) (events : List (Event R A)) : List (Occurrence R A) :=
  events.filterMap fun e => if e.place = place then some e.occurrence else none

@[simp] theorem under_nil (place : Place) : under place ([] : List (Event R A)) = [] := by
  induction place with
  | nil => rfl
  | cons i place ih => exact ih

@[simp] theorem under_append (place : Place) (xs ys : List (Event R A)) :
    under place (xs ++ ys) = under place xs ++ under place ys := by
  induction place generalizing xs ys with
  | nil => rfl
  | cons i place ih => rw [under, within_append, ih]; rfl

@[simp] theorem occurrencesAt_append (place : Place) (xs ys : List (Event R A)) :
    occurrencesAt place (xs ++ ys) = occurrencesAt place xs ++ occurrencesAt place ys :=
  List.filterMap_append

@[simp] theorem occurrencesAt_cons_self (place : Place) (o : Occurrence R A)
    (events : List (Event R A)) :
    occurrencesAt place (⟨place, o⟩ :: events) = o :: occurrencesAt place events := by
  simp [occurrencesAt]

@[simp] theorem occurrencesAt_here (happened : List (Occurrence R A)) :
    occurrencesAt [] (eventsHere happened) = happened := by
  rw [occurrencesAt, eventsHere, List.filterMap_map]
  exact List.filterMap_some

/-- What has happened at a place within a part has happened at that place of the part. -/
theorem occurrencesAt_cons (i : Nat) (place : Place) (events : List (Event R A)) :
    occurrencesAt (i :: place) events = occurrencesAt place (within i events) := by
  simp only [occurrencesAt, within, List.filterMap_filterMap]
  refine congrArg (List.filterMap · events) (funext fun e => ?_)
  obtain ⟨p, o⟩ := e
  cases p with
  | nil => simp [Event.outside?]
  | cons j p =>
    by_cases hj : j = i
    · simp [Event.outside?, hj]
    · simp [Event.outside?, hj]

theorem occurrencesAt_under (place : Place) (events : List (Event R A)) :
    occurrencesAt place events = occurrencesAt [] (under place events) := by
  induction place generalizing events with
  | nil => rfl
  | cons i place ih => rw [occurrencesAt_cons, ih]; rfl

/-- The work at a place is the work among all that has happened there. -/
theorem occurrencesAt_work (place : Place) (events : List (Event R A)) :
    occurrencesAt place (work events) = deeds (occurrencesAt place events) := by
  induction events with
  | nil => rfl
  | cons e events ih =>
    obtain ⟨p, o⟩ := e
    by_cases hp : p = place <;> by_cases ho : o.isWork = true <;>
      simp_all [work, occurrencesAt, deeds]

section Nodes

variable {mayRefuse : Prop} {plan node : Plan Task} {run : Run} {events : List RunEvent}

/-- The parts of a group that is traced are traced on what happened in them. -/
theorem Traced.part {mode : Mode} {nested : Bool} {plans : List (Plan Task)}
    (h : Traced mayRefuse (.group mode nested plans) run events) {i : Nat}
    (hplan : plans[i]? = some plan) :
    ∃ part, Traced mayRefuse plan part (within i events) ∧ (run = passed → part = passed) := by
  cases h with
  | waiting => exact ⟨.waiting plan, .waiting plan, fun h => absurd h (by simp)⟩
  | @group _ _ _ parts _ events own hlen hparts hplaces horder hstands =>
    obtain ⟨part, hpart⟩ := exists_getElem?_of_length_eq hlen.symm hplan
    refine ⟨part, hstands.traced_parts hparts i plan part hplan hpart, fun hrun => ?_⟩
    rw [hrun] at hstands
    exact hstands.all_passed part (List.mem_of_getElem? hpart)

/-- **Every node is traced** on what happened at and below its place, and if the plan has ended
well, so has the node. -/
theorem Traced.at? (h : Traced mayRefuse plan run events) {place : Place}
    (hnode : plan.at? place = some node) :
    ∃ run', Traced mayRefuse node run' (under place events) ∧ (run = passed → run' = passed) := by
  induction place generalizing plan run events with
  | nil =>
    obtain rfl := Option.some.inj hnode
    exact ⟨run, h, id⟩
  | cons i place ih =>
    obtain ⟨mode, nested, parts, part, rfl, hpart, hinner⟩ := Plan.at?_cons hnode
    obtain ⟨part', htraced, hpassed⟩ := h.part hpart
    obtain ⟨run', htraced', hpassed'⟩ := ih htraced hinner
    exact ⟨run', htraced', fun hrun => hpassed' (hpassed hrun)⟩

/-- If a plan has ended well, so has every node. -/
theorem Traced.passed_at? (h : Traced mayRefuse plan passed events) {place : Place}
    (hnode : plan.at? place = some node) : Traced mayRefuse node passed (under place events) := by
  obtain ⟨run', htraced, hpassed⟩ := h.at? hnode
  exact hpassed rfl ▸ htraced

/-- The work of a leaf is the work of its thread, between its beginning and its end. -/
theorem Traced.leaf_passed {task : Task} (h : Traced mayRefuse (.leaf task) passed events) :
    ∃ past, task.action.Trace past (.done (.ok ())) ∧
      events = eventsHere (.began :: past ++ [.ended (.ok ())]) := by
  generalize hrun : passed = run at h
  cases h with
  | waiting | working => exact absurd hrun (by simp)
  | refused => exact absurd hrun (by simp [cancelledAt])
  | finished htrace =>
    obtain rfl := Run.closed.inj hrun
    exact ⟨_, htrace, rfl⟩

theorem deeds_occurrencesAt {happened : List (Occurrence Request Request.Answer)} {place : Place}
    (h : under place (work events) = eventsHere happened) :
    deeds (occurrencesAt place events) = happened := by
  rw [← occurrencesAt_work, occurrencesAt_under, h, occurrencesAt_here]

/-- A leaf that has ended well has done at its place what its activity does. -/
theorem Traced.passed_leaf {task : Task} {place : Place}
    (h : Traced mayRefuse (.leaf task) passed (under place (work events))) :
    ∃ past, task.action.Trace past (.done (.ok ())) ∧
      deeds (occurrencesAt place events) = .began :: past ++ [.ended (.ok ())] := by
  obtain ⟨past, htrace, hunder⟩ := h.leaf_passed
  exact ⟨past, htrace, deeds_occurrencesAt hunder⟩

end Nodes

end Teardown
