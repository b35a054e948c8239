/-
# What a cancellation leaves running

Once a run is cancelled it begins nothing any more: no task, and no call, with a single exception.
A task that was waiting for a connection goes on to the one call that it wanted the connection
for.  Every other call that was under way comes to its reply, and the task ends with it; a task
that was resting between two questions can be interrupted, and ends without another question.

The reason is the same for all kinds of tasks: what follows a call or a watch is silent in a
cancelled run (`Activity.Silent`).  `Traced.turn_cancelled` brings this to the turns of a whole
plan, where groups and lanes begin nothing either, and `nothing_starts_after_cancellation` to its
runs.

* §1  one turn.  Beyond what the thread of one task does, the turn is idle: groups that go on,
      lanes that open and groups that settle begin nothing (`idle_launch`, `idle_settle`).
* §2  what a cancelled run can still do is a relation between the events before the cancellation
      and those after it (`Subdued`).  It holds of no events, it is kept by idle ones, and it is
      kept by a further turn (`Subdued.turn`); the run follows by induction on its moves.  That
      every task comes to its end is a statement of its own (`Traced.comes_to_end`).

Nothing is said about how long a reply takes.  A call in flight is not interrupted, so a run may
be under way for any time after it was cancelled.
-/
import Teardown.Proofs.Conversations
import Teardown.Proofs.Silence

namespace Teardown

open Run

variable {R : Type} {A : R → Type} {α : Type}

/-! ## 1. Turns of a cancelled run -/

/-- Neither the beginning of a task nor a request nor a reply. -/
def Occurrence.Idle (o : Occurrence R A) : Prop := o.isBegan = false ∧ o.isTalk = false

section Turns

variable {mayRefuse : Prop} {plan : Plan Task} {run : Run} {events : List RunEvent}
  {c : Conditions} {cue : Cue Request Request.Answer} {place : Place} {turn : Turn}

theorem idle_close (outcome : Outcome Unit) :
    ∀ e ∈ (Turn.close outcome).happened, e.occurrence.Idle := by
  intro e he
  obtain rfl := List.mem_singleton.1 he
  exact ⟨rfl, rfl⟩

/-- A cancelled run goes on with no further part. -/
theorem idle_launchFrom (hc : c.cancelled = true) (index : Nat) (plans : List (Plan Task)) :
    ∀ e ∈ (launchFrom c index plans).happened, e.occurrence.Idle := by
  cases plans with
  | nil => exact idle_close _
  | cons plan rest =>
    unfold launchFrom
    rw [if_pos hc]
    exact idle_close _

theorem idle_opening (index count : Nat) : ∀ e ∈ opening index count, e.occurrence.Idle := by
  induction count generalizing index with
  | zero => exact fun _ he => absurd he List.not_mem_nil
  | succ count ih =>
    intro e he
    rcases List.mem_cons.1 he with rfl | he
    · exact ⟨rfl, rfl⟩
    · exact ih (index + 1) e he

theorem idle_settle (outcomes : List (Outcome Unit)) :
    ∀ e ∈ (settle outcomes).happened, e.occurrence.Idle := by
  intro e he
  rcases List.mem_append.1 he with he | he
  · obtain rfl := List.mem_singleton.1 he
    exact ⟨rfl, rfl⟩
  · exact idle_close _ e he

/-- In a cancelled run nothing is begun in a first turn. -/
theorem idle_launch (hc : c.cancelled = true) (plan : Plan Task) :
    ∀ e ∈ (launch c plan).happened, e.occurrence.Idle := by
  cases plan with
  | leaf task =>
    unfold launch launchTask
    rw [if_pos hc]
    exact idle_close _
  | group mode nested plans =>
    cases mode with
    | sequential => exact idle_launchFrom hc 0 plans
    | parallel =>
      unfold launch launchParts
      split
      · intro e he
        rcases List.mem_append.1 he with he | he
        · obtain rfl := List.mem_singleton.1 he
          exact ⟨rfl, rfl⟩
        · exact idle_settle [] e he
      · intro e he
        rcases List.mem_append.1 he with he | he
        · obtain rfl := List.mem_singleton.1 he
          exact ⟨rfl, rfl⟩
        · exact idle_opening 0 _ e he

theorem mem_ofPart {index : Nat} {rest : List (Plan Task)} {later : Unit → Turn} {e : RunEvent}
    (he : e ∈ (Turn.ofPart index rest turn later).happened) :
    (∃ e' ∈ turn.happened, e = e'.inside index) ∨ e ∈ (later ()).happened ∨
      ∃ outcome, e ∈ (Turn.close outcome).happened := by
  have hpart : e ∈ turn.happened.map (Event.inside index) →
      ∃ e' ∈ turn.happened, e = e'.inside index := by
    intro hmem
    obtain ⟨e', he', rfl⟩ := List.mem_map.1 hmem
    exact ⟨e', he', rfl⟩
  unfold Turn.ofPart at he
  split at he
  · exact (List.mem_append.1 he).imp hpart .inl
  · exact (List.mem_append.1 he).imp hpart fun hend => .inr ⟨_, hend⟩
  · exact .inl (hpart he)

/-- `ThreadTurn plan events c cue place turn`: the turn of a plan is one of the thread of the task at
the place, and beyond what that thread does in it, the plan is idle. -/
def ThreadTurn (plan : Plan Task) (events : List RunEvent) (c : Conditions)
    (cue : Cue Request Request.Answer) (place : Place) (turn : Turn) : Prop :=
  ∃ task past thread step, plan.at? place = some (.leaf task) ∧ task.action.Trace past thread ∧
    under place events = eventsHere (.began :: past) ∧ thread.resume c cue = some step ∧
    (∀ e ∈ turn.happened, e.occurrence.Idle ∨ e.place = place ∧ e.occurrence ∈ step.1) ∧
    ∀ outcome, step.2 = .done outcome → ⟨place, .ended outcome⟩ ∈ turn.happened

/-- What a thread does in its turn is seen at the place of the task, and nothing else but its end and
records. -/
theorem threadTurn_taskTurn {task : Task} {past : List (Occurrence Request Request.Answer)}
    {thread : Thread Request Request.Answer Unit}
    {step : List (Occurrence Request Request.Answer) × Thread Request Request.Answer Unit}
    (htrace : task.action.Trace past thread) (hstep : thread.resume c cue = some step) :
    ThreadTurn (.leaf task) (eventsHere (.began :: past)) c cue [] (taskTurn task step) := by
  refine ⟨task, past, thread, step, rfl, htrace, rfl, hstep, fun e he => ?_, fun outcome hdone => ?_⟩
  · obtain ⟨happened, thread'⟩ := step
    have hstay : e ∈ eventsHere happened →
        e.occurrence.Idle ∨ e.place = [] ∧ e.occurrence ∈ happened := by
      intro hmem
      obtain ⟨o, ho, rfl⟩ := List.mem_map.1 hmem
      exact .inr ⟨rfl, ho⟩
    cases thread' with
    | done outcome =>
      rcases List.mem_append.1 he with he | he
      · rw [eventsHere_append] at he
        rcases List.mem_append.1 he with he | he
        · exact hstay he
        · obtain ⟨o, ho, rfl⟩ := List.mem_map.1 he
          obtain ⟨record, -, rfl⟩ := List.mem_map.1 ho
          exact .inl ⟨rfl, rfl⟩
      · exact .inl (idle_close outcome e he)
    | _ => exact hstay he
  · obtain ⟨happened, thread'⟩ := step
    obtain rfl : thread' = .done outcome := hdone
    exact List.mem_append_right _ (List.mem_singleton_self _)

/-- **A turn of a cancelled run** begins nothing, but for what the thread of one task does. -/
theorem Traced.turn_cancelled (h : Traced mayRefuse plan run events) (hc : c.cancelled = true)
    (hturn : resumeAt c cue place run = some turn) :
    (∀ e ∈ turn.happened, e.occurrence.Idle) ∨ ThreadTurn plan events c cue place turn := by
  induction h generalizing place turn with
  | waiting plan =>
    obtain ⟨-, rfl⟩ := resumeAt_waiting hturn
    exact .inl (idle_launch hc plan)
  | refused | finished =>
    rw [resumeAt_closed] at hturn
    exact absurd hturn (by simp)
  | working htrace _ =>
    obtain ⟨rfl, step, hstep, rfl⟩ := resumeAt_working hturn
    exact .inr (threadTurn_taskTurn htrace hstep)
  | @group mode nested plans parts run events own hlen hparts hplaces horder hstands ih =>
    cases hstands with
    | done | refused | stopped | settled =>
      rw [resumeAt_closed] at hturn
      exact absurd hturn (by simp)
    | underWay index current rest hcurrent =>
      obtain ⟨place', turn', rfl, hturn', rfl⟩ := resumeAt_sequence hturn
      have hpart : (List.replicate index passed ++ current :: rest.map .waiting)[index]? =
          some current := by simp
      obtain ⟨plan, hplan⟩ := exists_getElem?_of_length_eq hlen hpart
      rcases ih index plan current hplan hpart hturn' with hidle |
        ⟨task, past, thread, step, hleaf, htrace, hseen, hstep, honly, hend⟩
      · refine .inl fun e he => ?_
        rcases mem_ofPart he with ⟨e', he', rfl⟩ | he | ⟨outcome, he⟩
        · exact hidle e' he'
        · exact idle_launchFrom hc _ rest e he
        · exact idle_close outcome e he
      · refine .inr ⟨task, past, thread, step, (Plan.at?_inside hplan place').trans hleaf, htrace,
          ?_, hstep, fun e he => ?_, fun outcome hdone => mem_ofPart_inside (hend outcome hdone)⟩
        · rwa [List.append_nil]
        · rcases mem_ofPart he with ⟨e', he', rfl⟩ | he | ⟨outcome, he⟩
          · exact (honly e' he').imp id fun ⟨hplace, ho⟩ => ⟨congrArg (index :: ·) hplace, ho⟩
          · exact .inl (idle_launchFrom hc _ rest e he)
          · exact .inl (idle_close outcome e he)
    | apart parts =>
      rcases resumeAt_parallel hturn with
        ⟨outcomes, rfl, -, rfl⟩ | ⟨i, place', part, turn', rfl, hpart, hturn', rfl⟩
      · exact .inl (idle_settle outcomes)
      · obtain ⟨plan, hplan⟩ := exists_getElem?_of_length_eq hlen hpart
        rcases ih i plan part hplan hpart hturn' with hidle |
          ⟨task, past, thread, step, hleaf, htrace, hseen, hstep, honly, hend⟩
        · refine .inl fun e he => ?_
          obtain ⟨e', he', rfl⟩ := List.mem_map.1 he
          exact hidle e' he'
        · refine .inr ⟨task, past, thread, step, (Plan.at?_inside hplan place').trans hleaf, htrace,
            ?_, hstep, fun e he => ?_, fun outcome hdone => List.mem_map_of_mem (hend outcome hdone)⟩
          · rwa [List.append_nil]
          · obtain ⟨e', he', rfl⟩ := List.mem_map.1 he
            exact (honly e' he').imp id fun ⟨hplace, ho⟩ => ⟨congrArg (i :: ·) hplace, ho⟩

end Turns

/-! ## 2. Runs after a cancellation -/

/-- A turn that is possible is a possible move, as long as nothing is dropped. -/
theorem after?_resume {s : Situation Run} (hdropped : s.dropped = false) {place : Place}
    {cue : Cue Request Request.Answer} {factor : Binary64} {turn : Turn}
    (hturn : resumeAt ⟨s.now, s.cancelled, factor⟩ cue place s.state = some turn) :
    s.after? Run.process (.resume place cue factor) =
      some (turn.happened.map (Entry.mk s.now), { s with state := turn.run }) := by
  rw [Situation.after?, if_neg (by simp [hdropped])]
  simp [Run.process, Run.resume, hturn]

section After

variable {plan : Plan Task} {place : Place} {task : Task}

/-- `Subdued plan earlier later`: after `earlier`, the run of a plan does in `later` what a cancelled
run can still do. -/
structure Subdued (plan : Plan Task) (earlier later : List RunEvent) : Prop where
  /-- No task is begun. -/
  began : ∀ place, ⟨place, .began⟩ ∉ later
  /-- Nothing is asked for but the deletion of an account, where the connection had been asked for. -/
  asked : ∀ place request, ⟨place, .asked request⟩ ∈ later →
    InFlight earlier place .connect ∧ ∃ task name account, plan.at? place = some (.leaf task) ∧
      task.work = .deleteAccount name ∧ Account.parse name = .ok account ∧
      request = .deleteAccount account
  /-- A task ends with the reply to its call. -/
  replied : ∀ place request reply, ⟨place, .replied request reply⟩ ∈ later → request ≠ .connect →
    ∃ outcome, ⟨place, .ended outcome⟩ ∈ later

theorem subdued_nil (plan : Plan Task) (earlier : List RunEvent) : Subdued plan earlier [] where
  began _ := List.not_mem_nil
  asked _ _ hasked := absurd hasked List.not_mem_nil
  replied _ _ _ hreplied := absurd hreplied List.not_mem_nil

section Subdued

variable {earlier later : List RunEvent}

/-- Events that are idle add nothing to it. -/
theorem Subdued.append_idle (h : Subdued plan earlier later) {more : List RunEvent}
    (hidle : ∀ e ∈ more, e.occurrence.Idle) : Subdued plan earlier (later ++ more) where
  began place hmem := by
    rcases List.mem_append.1 hmem with hmem | hmem
    · exact h.began place hmem
    · exact absurd (hidle _ hmem).1 (by simp [Occurrence.isBegan])
  asked place request hmem := by
    rcases List.mem_append.1 hmem with hmem | hmem
    · exact h.asked place request hmem
    · exact absurd (hidle _ hmem).2 (by simp [Occurrence.isTalk])
  replied place request reply hmem hne := by
    rcases List.mem_append.1 hmem with hmem | hmem
    · obtain ⟨outcome, hended⟩ := h.replied place request reply hmem hne
      exact ⟨outcome, List.mem_append_left _ hended⟩
    · exact absurd (hidle _ hmem).2 (by simp [Occurrence.isTalk])

/-- A connection that a task waits for had been asked for before the cancellation. -/
theorem Subdued.inFlight_connect (h : Subdued plan earlier later)
    (hdeeds : deeds (occurrencesAt place (earlier ++ later)) = [.began, .asked .connect]) :
    InFlight earlier place .connect := by
  rw [occurrencesAt_append, deeds_append] at hdeeds
  rcases List.eq_nil_or_concat (deeds (occurrencesAt place later)) with hnone | ⟨init, last, hlast⟩
  · rw [hnone, List.append_nil] at hdeeds
    rw [InFlight, hdeeds]
    rfl
  · -- Otherwise it was asked for afterwards, and that is not one of the things that can be.
    rw [hlast, List.concat_eq_append, ← List.append_assoc,
      show ([.began, .asked .connect] : List (Occurrence Request Request.Answer)) =
        [.began] ++ [.asked .connect] from rfl] at hdeeds
    obtain rfl := (List.cons.inj (List.append_inj_right' hdeeds rfl)).1
    have hmem : .asked .connect ∈ deeds (occurrencesAt place later) := by
      rw [hlast]
      simp
    obtain ⟨-, _, _, account, -, -, -, heq⟩ :=
      h.asked place .connect (mem_occurrencesAt.1 (List.mem_filter.1 hmem).1)
    exact absurd heq (by simp)

/-- **A further turn** of a cancelled run is no more than it can still do. -/
theorem Subdued.turn (h : Subdued plan earlier later) {mayRefuse : Prop} {run : Run}
    (htraced : Traced mayRefuse plan run (work (earlier ++ later))) {c : Conditions}
    (hc : c.cancelled = true) {cue : Cue Request Request.Answer} {turn : Turn}
    (hturn : resumeAt c cue place run = some turn) :
    Subdued plan earlier (later ++ turn.happened) := by
  rcases htraced.turn_cancelled hc hturn with hidle |
    ⟨task, past, thread, step, hleaf, htrace, hseen, hstep, honly, hend⟩
  · exact h.append_idle hidle
  -- Whatever is not idle was done by the thread of this one task.
  have hthread : ∀ e ∈ turn.happened, ¬ e.occurrence.Idle → e.place = place ∧
      e.occurrence ∈ step.1 := fun e he hbusy => (honly e he).resolve_left hbusy
  have hbegan : .began ∉ step.1 := by
    intro hmem
    have htalk := (htrace.resume hstep).talks .began
      (List.mem_append_right _ (List.mem_filter.2 ⟨hmem, rfl⟩))
    exact absurd htalk (by simp [Occurrence.isTalk])
  have hasked : ∀ request, .asked request ∈ step.1 →
      InFlight earlier place .connect ∧ ∃ task name account, plan.at? place = some (.leaf task) ∧
        task.work = .deleteAccount name ∧ Account.parse name = .ok account ∧
        request = .deleteAccount account := by
    intro request hmem
    rcases Task.trace_brief htrace with hbrief | ⟨name, hwork, rfl, rfl⟩
    · exact absurd hmem ((hbrief.resume hc hstep).2 request)
    · obtain ⟨account, hparse, heq⟩ := (Task.resume_afterConnect hstep).1 request hmem
      exact ⟨h.inFlight_connect (deeds_occurrencesAt hseen), task, name, account, hleaf, hwork,
        hparse, heq⟩
  have hreplied : ∀ request reply, .replied request reply ∈ step.1 → request ≠ .connect →
      ∃ outcome, ⟨place, .ended outcome⟩ ∈ turn.happened := by
    intro request reply hmem hne
    rcases Task.trace_brief htrace with hbrief | ⟨name, -, rfl, rfl⟩
    · obtain ⟨⟨outcome, hdone⟩, -⟩ := hbrief.resume hc hstep
      exact ⟨outcome, hend outcome hdone⟩
    · exact absurd ((Task.resume_afterConnect hstep).2 request reply hmem) hne
  constructor
  · intro p hmem
    rcases List.mem_append.1 hmem with hmem | hmem
    · exact h.began p hmem
    · exact hbegan (hthread _ hmem (by simp [Occurrence.Idle, Occurrence.isBegan])).2
  · intro p request hmem
    rcases List.mem_append.1 hmem with hmem | hmem
    · exact h.asked p request hmem
    · obtain ⟨rfl, ho⟩ := hthread _ hmem (by simp [Occurrence.Idle, Occurrence.isTalk])
      exact hasked request ho
  · intro p request reply hmem hne
    rcases List.mem_append.1 hmem with hmem | hmem
    · obtain ⟨outcome, hended⟩ := h.replied p request reply hmem hne
      exact ⟨outcome, List.mem_append_left _ hended⟩
    · obtain ⟨rfl, ho⟩ := hthread _ hmem (by simp [Occurrence.Idle, Occurrence.isTalk])
      obtain ⟨outcome, hended⟩ := hreplied request reply ho hne
      exact ⟨outcome, List.mem_append_right _ hended⟩

end Subdued

/-- **A task that was begun ends.**  In a cancelled run it has ended, or its call is in flight and any
reply to it is possible, or it rests, and can be interrupted and ends with that. -/
theorem Traced.comes_to_end {mayRefuse : Prop} {s : Situation Run} {events : List RunEvent}
    (h : Traced mayRefuse plan s.state (work events)) (hcancelled : s.cancelled = true)
    (hleaf : plan.at? place = some (.leaf task)) (hbegan : ⟨place, .began⟩ ∈ events) :
    (∃ outcome, ⟨place, .ended outcome⟩ ∈ events) ∨
    (∃ request, InFlight events place request ∧ (s.dropped = false → ∀ answer factor,
      (s.after? Run.process (.resume place (.reply answer) factor)).isSome = true)) ∨
    (s.dropped = false → ∀ factor, ∃ more s' outcome,
      s.after? Run.process (.resume place .interrupt factor) = some (more, s') ∧
        ⟨place, .ended outcome⟩ ∈ happened more) := by
  by_cases hended : ∃ outcome, ⟨place, .ended outcome⟩ ∈ events
  · exact .inl hended
  have hopen : ∀ outcome, ⟨place, .ended outcome⟩ ∉ work events :=
    fun outcome hmem => hended ⟨outcome, (mem_work.1 hmem).1⟩
  obtain ⟨past, thread, htrace, hunderWay, hunder, hturns⟩ :=
    h.working_at hleaf (mem_work.2 ⟨hbegan, rfl⟩) hopen
  have hreply : ∀ request, thread.awaits = some request →
      (∀ c answer, (thread.resume c (.reply answer)).isSome = true) →
      ∃ request, InFlight events place request ∧ (s.dropped = false → ∀ answer factor,
        (s.after? Run.process (.resume place (.reply answer) factor)).isSome = true) := by
    intro request hawaits hresume
    refine ⟨request, inFlight_of_awaits htrace (deeds_occurrencesAt hunder) hawaits, ?_⟩
    intro hdropped answer factor
    obtain ⟨step, hstep⟩ :=
      Option.isSome_iff_exists.1 (hresume ⟨s.now, s.cancelled, factor⟩ answer)
    obtain ⟨turn, hturn, -⟩ := hturns _ _ step hstep
    rw [after?_resume hdropped hturn]
    rfl
  cases thread with
  | done outcome => exact absurd hunderWay (by simp [Thread.outcome?])
  | asking request next => exact .inr (.inl (hreply request rfl fun _ _ => rfl))
  | looking w state next => exact .inr (.inl (hreply w.request rfl fun _ _ => rfl))
  | resting w state due next =>
    refine .inr (.inr fun hdropped factor => ?_)
    have hbrief : (Thread.resting w state due next).Brief := by
      rcases Task.trace_brief htrace with hbrief | ⟨_, -, -, habsurd⟩
      · exact hbrief
      · exact absurd habsurd (by simp)
    have hstep : (Thread.resting w state due next).resume ⟨s.now, s.cancelled, factor⟩ .interrupt =
        some ((next (.error w.interrupted)).proceed ⟨s.now, s.cancelled, factor⟩) := by
      rw [Thread.resume, if_pos hcancelled]
    obtain ⟨⟨outcome, hdone⟩, -⟩ := hbrief.resume hcancelled hstep
    obtain ⟨turn, hturn, hend⟩ := hturns _ _ _ hstep
    refine ⟨_, _, outcome, after?_resume hdropped hturn, ?_⟩
    rw [happened_at]
    exact hend outcome hdone

end After

/-- **Nothing starts after a cancellation.**  Once a run is cancelled, no task is begun, and nothing
is asked for but the deletion of an account by a task that had asked for its connection before.
Every other call in flight comes to its reply, with which its task ends; and a task that was begun
has ended, or waits for such a reply, or can be interrupted in its rest and ends with that. -/
theorem nothing_starts_after_cancellation {plan : Plan Task} {now : Moment} {cancelled : Bool}
    {moves moves' : List (Move Request Request.Answer)}
    {entries later : List (Entry Request Request.Answer)} {s s' : Situation Run}
    (hrun : (Run.about plan now cancelled).follow Run.process moves = some (entries, s))
    (hcancelled : s.cancelled = true)
    (hlater : s.follow Run.process moves' = some (later, s')) :
    Subdued plan (happened entries) (happened later) ∧
    (∀ place request, InFlight (happened entries) place request →
      (∃ reply, ⟨place, .replied request reply⟩ ∈ happened later) ∨
        InFlight (happened (entries ++ later)) place request) ∧
    ∀ place task, plan.at? place = some (.leaf task) → ⟨place, .began⟩ ∈ happened entries →
      (∃ outcome, ⟨place, .ended outcome⟩ ∈ happened (entries ++ later)) ∨
      (∃ request, InFlight (happened (entries ++ later)) place request ∧
        (s'.dropped = false → ∀ answer factor,
          (s'.after? Run.process (.resume place (.reply answer) factor)).isSome = true)) ∨
      (s'.dropped = false → ∀ factor, ∃ more s'' outcome,
        s'.after? Run.process (.resume place .interrupt factor) = some (more, s'') ∧
          ⟨place, .ended outcome⟩ ∈ happened more) := by
  have htraced := traced_follow hrun
  have hafter : s'.cancelled = true ∧
      Traced (s'.cancelled = true) plan s'.state (work (happened (entries ++ later))) ∧
      ∃ more, entries ++ later = entries ++ more ∧
        Subdued plan (happened entries) (happened more) := by
    refine Situation.follow_induction (fun t past => t.cancelled = true ∧
      Traced (t.cancelled = true) plan t.state (work (happened past)) ∧
      ∃ more, past = entries ++ more ∧ Subdued plan (happened entries) (happened more))
      ?_ entries ⟨hcancelled, htraced, [], (List.append_nil _).symm, subdued_nil _ _⟩ hlater
    rintro move - t t' past events ⟨ht, htraced, more, rfl, hsubdued⟩ hafter
    have hmove : t.follow Run.process [move] = some (events, t') :=
      Situation.follow_cons.2 ⟨events, t', [], hafter, rfl, (List.append_nil _).symm⟩
    have htraced' := Run.carries.traced (entries ++ more) htraced hmove
    rw [happened_append] at htraced
    rcases Situation.after?_cases hafter with
      ⟨place, cue, factor, _, state, -, -, hturn, rfl, rfl⟩ | ⟨-, rfl, rfl⟩ | ⟨_, -, rfl, rfl⟩ |
        ⟨-, rfl, rfl⟩
    · obtain ⟨turn, hresume, heq⟩ := Option.map_eq_some_iff.1 hturn
      obtain ⟨rfl, rfl⟩ := Prod.mk.inj heq
      refine ⟨ht, htraced', _, List.append_assoc .., ?_⟩
      rw [happened_append, happened_at]
      exact hsubdued.turn htraced ht hresume
    · refine ⟨rfl, htraced', _, List.append_assoc .., ?_⟩
      rw [happened_append]
      refine hsubdued.append_idle fun e he => ?_
      obtain rfl := List.mem_singleton.1 he
      exact ⟨rfl, rfl⟩
    · exact ⟨ht, htraced', more, List.append_nil _, hsubdued⟩
    · exact ⟨ht, htraced', more, List.append_nil _, hsubdued⟩
  obtain ⟨hcancelled', htraced', more, hmore, hsubdued⟩ := hafter
  obtain rfl := List.append_cancel_left hmore
  refine ⟨hsubdued, fun place request hflight => ?_, fun place task hleaf hbegan => ?_⟩
  · rw [happened_append] at htraced' ⊢
    exact htraced.in_flight_until htraced' hflight
  · refine htraced'.comes_to_end hcancelled' hleaf ?_
    rw [happened_append]
    exact List.mem_append_left _ hbegan

namespace Sample

/-- A stack, an account and an errand side by side. -/
def leave : Plan Task :=
  .group .parallel false
    [.leaf ⟨"stack", .deleteStack (.plain "demo" .cluster .createComplete) (some .standard)⟩,
     .leaf ⟨"account", .deleteAccount "default/app"⟩, .leaf ⟨"errand", .supplied 1 none⟩]

def accepted (place : Place) : Move Request Request.Answer :=
  .resume place (.reply fun
    | .deleteStack stack => .ok ⟨stack.name, "accepted"⟩
    | .connect | .deleteAccount _ => .ok ()
    | _ => .panic none) 1

/-- The cancellation comes while two calls are in flight, and the errand has not begun. -/
def leaveMoves : List (Move Request Request.Answer) :=
  [.resume [] .start 1, .resume [0] .start 1, .resume [1] .start 1, .cancel]

def leaveRun : Option (List (Entry Request Request.Answer) × Situation Run) :=
  (Run.about leave ⟨0⟩ false).follow Run.process leaveMoves

def leftMoves : List (Move Request Request.Answer) :=
  [accepted [0], accepted [1], .resume [2] .start 1]

def leftRun : Option (List (Entry Request Request.Answer) × Situation Run) :=
  leaveRun.bind fun reached => reached.2.follow Run.process leftMoves

end Sample

/-- Only the account is still asked for. -/
theorem nothing_starts_after_cancellation_of_sample :
    ∃ (entries later : List (Entry Request Request.Answer)) (s s' : Situation Run),
      Sample.leaveRun = some (entries, s) ∧ s.cancelled = true ∧
      s.follow Run.process Sample.leftMoves = some (later, s') ∧
      ⟨[1], .asked (.deleteAccount ⟨"default", "app"⟩)⟩ ∈ happened later ∧
      Subdued Sample.leave (happened entries) (happened later) := by
  have hreached : Sample.leaveRun.isSome = true := rfl
  have hover : Sample.leftRun.isSome = true := rfl
  have hrun : (Run.about Sample.leave ⟨0⟩ false).follow Run.process Sample.leaveMoves =
      some (Sample.leaveRun.get hreached) := (Option.some_get hreached).symm
  have hlater : (Sample.leaveRun.get hreached).2.follow Run.process Sample.leftMoves =
      some (Sample.leftRun.get hover) := (Option.some_get hover).symm
  have hasked : (work (happened (Sample.leftRun.get hover).1))[3]? =
      some ⟨[1], .asked (.deleteAccount ⟨"default", "app"⟩)⟩ := rfl
  exact ⟨_, _, _, _, (Option.some_get hreached).symm, rfl, hlater,
    (mem_work.1 (List.mem_of_getElem? hasked)).1,
    (nothing_starts_after_cancellation hrun rfl hlater).1⟩

end Teardown
