/-
# Calls and their replies

The work of a task is a conversation: requests, each with its reply, and at most one request at
the end that is still open (`Activity.Trace.conversation`).  So a request that is in flight comes
to its reply before anything else happens at its place (`Traced.in_flight_until`), and a task that
is under way can have every turn of its thread (`Traced.working_at`).

All of it holds of any plan and any run, cancelled or not, because a trace of an activity is a
conversation whatever the activity does: there is one place in it at which a thread can stand, and
it either waits for one reply or for none.

* §1  conversations as lists, and what can follow a request in them.
* §2  the same at the place of a task, among the events of a run.  What has been done at a leaf
      since it began is a trace, with its end behind it if the thread is done (`Traced.deeds_at`).
* §3  requests in flight: asked, and not replied to yet.  Such a request is what the thread waits
      for, and the other way round (`Traced.inFlight`, `inFlight_of_awaits`).
-/
import Teardown.Proofs.Ordering
import Teardown.Proofs.Parts

namespace Teardown

open Run

variable {R : Type} {A : R → Type} {α : Type}

/-! ## 1. Conversations -/

/-- What a thread has asked and still waits for. -/
def Thread.awaits : Thread R A α → Option R
  | .asking request _ => some request
  | .looking w _ _ => some w.request
  | .resting .. | .done _ => none

/-- Requests with their replies, one after the other. -/
inductive Conversation : List (Occurrence R A) → Prop
  | nil : Conversation []
  | round (request : R) (reply : Outcome (A request)) {rest : List (Occurrence R A)} :
      Conversation rest → Conversation (.asked request :: .replied request reply :: rest)

theorem Conversation.append {xs ys : List (Occurrence R A)} (hx : Conversation xs)
    (hy : Conversation ys) : Conversation (xs ++ ys) := by
  induction hx with
  | nil => exact hy
  | round request reply _ ih => exact .round request reply ih

theorem Watch.Rounds.conversation {w : Watch R A} {past : List (Occurrence R A)}
    (h : w.Rounds past) : Conversation past := by
  induction h with
  | none => exact .nil
  | round reply _ ih => exact ih.append (.round w.request reply .nil)

/-- **A trace is a conversation**, with one request left open if the thread waits for a reply. -/
theorem Activity.Trace.conversation {a : Activity R A α} {past : List (Occurrence R A)}
    {thread : Thread R A α} (h : a.Trace past thread) :
    ∃ rounds, Conversation rounds ∧ past = rounds ++ (thread.awaits.map .asked).toList := by
  induction h with
  | finish outcome => exact ⟨[], .nil, rfl⟩
  | note _ ih => exact ih
  | asking request next => exact ⟨[], .nil, rfl⟩
  | @granted request _ _ _ value _ ih =>
    obtain ⟨rounds, hrounds, rfl⟩ := ih
    exact ⟨_, .round request (.ok value) hrounds, rfl⟩
  | @refused request _ _ _ cause _ ih =>
    obtain ⟨rounds, hrounds, rfl⟩ := ih
    exact ⟨_, .round request (.fault cause) hrounds, rfl⟩
  | @broken request _ text => exact ⟨_, .round request (.panic text) .nil, rfl⟩
  | looking s hpast => exact ⟨_, hpast.conversation, rfl⟩
  | resting s due hpast => exact ⟨_, hpast.conversation, (List.append_nil _).symm⟩
  | watchBroken text hpast => exact ⟨_, hpast.conversation, (List.append_nil _).symm⟩
  | @succeeded w _ _ _ _ seen hpast _ _ ih =>
    obtain ⟨rounds, hrounds, rfl⟩ := ih
    refine ⟨_, hpast.conversation.append (.round w.request (.ok seen) hrounds), ?_⟩
    rw [List.append_assoc]
    rfl
  | failed cause hpast _ ih =>
    obtain ⟨rounds, hrounds, rfl⟩ := ih
    exact ⟨_, hpast.conversation.append hrounds, (List.append_assoc ..).symm⟩

/-- A conversation ends with a reply. -/
theorem Conversation.getLast?_ne {rounds : List (Occurrence R A)} (h : Conversation rounds)
    (request : R) : rounds.getLast? ≠ some (.asked request) := by
  induction h with
  | nil => simp
  | round request' reply hrest ih =>
    rename_i rest
    cases rest with
    | nil => simp
    | cons o rest => simpa using ih

/-- In a conversation every reply has its request. -/
theorem Conversation.asked {rounds : List (Occurrence R A)} (h : Conversation rounds) {request : R}
    {reply : Outcome (A request)} (hreplied : .replied request reply ∈ rounds) :
    .asked request ∈ rounds := by
  induction h with
  | nil => exact absurd hreplied List.not_mem_nil
  | round request' reply' _ ih =>
    rcases List.mem_cons.1 hreplied with heq | hreplied
    · exact absurd heq (by simp)
    · rcases List.mem_cons.1 hreplied with heq | hreplied
      · obtain ⟨rfl, -⟩ := Occurrence.replied.inj heq
        exact List.mem_cons_self
      · exact List.mem_cons_of_mem _ (List.mem_cons_of_mem _ (ih hreplied))

/-- What follows a request that is left open is its reply, if anything follows. -/
theorem Conversation.reply_follows {rounds rounds' more ending : List (Occurrence R A)}
    (h : Conversation rounds) (h' : Conversation rounds') {request : R}
    (heq : rounds ++ .asked request :: more = rounds' ++ ending) (hending : ending.length ≤ 1) :
    ending = .asked request :: more ∨ ∃ reply rest, more = .replied request reply :: rest := by
  induction h generalizing rounds' with
  | nil =>
    cases h' with
    | nil => exact .inl heq.symm
    | round request' reply _ =>
      obtain ⟨hasked, htail⟩ := List.cons.inj heq
      obtain rfl := Occurrence.asked.inj hasked
      exact .inr ⟨reply, _, htail⟩
  | round request' reply _ ih =>
    cases h' with
    | nil =>
      have hlength := congrArg List.length heq
      simp only [List.length_append, List.length_cons, List.nil_append, List.cons_append] at hlength
      omega
    | round _ _ hrest' =>
      obtain ⟨-, htail⟩ := List.cons.inj heq
      obtain ⟨-, htail⟩ := List.cons.inj htail
      exact ih hrest' htail

/-! ## 2. Tasks under way -/

section Tasks

variable {mayRefuse : Prop} {plan : Plan Task} {run : Run} {events : List RunEvent}
  {place : Place} {task : Task}

/-- A reply comes where the request was made. -/
theorem Traced.asked_of_replied (h : Traced mayRefuse plan run events) {request : Request}
    {reply : Outcome request.Answer} (hreplied : ⟨place, .replied request reply⟩ ∈ events) :
    ⟨place, .asked request⟩ ∈ events := by
  have hpast : ∀ {task : Task} {past : List (Occurrence Request Request.Answer)}
      {thread : Thread Request Request.Answer Unit}, task.action.Trace past thread →
      .replied request reply ∈ past → .asked request ∈ past := by
    intro task past thread htrace hmem
    obtain ⟨rounds, hrounds, rfl⟩ := htrace.conversation
    rcases List.mem_append.1 hmem with hmem | hmem
    · exact List.mem_append_left _ (hrounds.asked hmem)
    · exact absurd hmem (by simp)
  induction h generalizing place with
  | waiting => exact absurd hreplied List.not_mem_nil
  | refused => exact absurd hreplied (by simp [eventsHere])
  | @working task past thread htrace _ =>
    obtain ⟨o, ho, heq⟩ := List.mem_map.1 hreplied
    obtain ⟨rfl, rfl⟩ := Event.mk.inj heq
    have hmem : .asked request ∈ past := hpast htrace (by simpa using ho)
    exact List.mem_map_of_mem (List.mem_cons_of_mem _ hmem)
  | @finished task past outcome htrace =>
    obtain ⟨o, ho, heq⟩ := List.mem_map.1 hreplied
    obtain ⟨rfl, rfl⟩ := Event.mk.inj heq
    have hmem : .asked request ∈ past := hpast htrace (by simpa using ho)
    exact List.mem_map_of_mem (List.mem_append_left _ (List.mem_cons_of_mem _ hmem))
  | @group mode nested plans parts run events own hlen hparts hplaces horder hstands ih =>
    rcases List.mem_append.1 hreplied with hreplied | hreplied
    · obtain ⟨i, place', hplace, hi⟩ := hplaces _ hreplied
      obtain rfl : place = i :: place' := hplace
      obtain ⟨part, hpart⟩ :=
        exists_getElem?_of_length_eq hlen.symm (List.getElem?_eq_getElem hi)
      have hmem : ⟨place', .asked request⟩ ∈ within i events :=
        ih i _ part (List.getElem?_eq_getElem hi) hpart (mem_within.2 hreplied)
      exact List.mem_append_left _ (mem_within.1 hmem)
    · obtain ⟨outcome, -, heq⟩ := hstands.own_ended hreplied
      exact absurd heq (by simp)

/-- **What has been done at a task.**  Either it was not begun, or what it has done since is a trace of
its activity, and it has ended exactly if its thread is done. -/
theorem Traced.deeds_at (h : Traced mayRefuse plan run (work events))
    (hleaf : plan.at? place = some (.leaf task)) :
    ⟨place, .began⟩ ∉ events ∨ ∃ past thread, task.action.Trace past thread ∧
      ((thread.outcome? = none ∧ deeds (occurrencesAt place events) = .began :: past) ∨
        ∃ outcome, thread = .done outcome ∧
          deeds (occurrencesAt place events) = .began :: past ++ [.ended outcome]) := by
  obtain ⟨run', htraced, -⟩ := h.at? hleaf
  have hdeeds : ∀ {done}, under place (work events) = eventsHere done →
      deeds (occurrencesAt place events) = done := deeds_occurrencesAt
  have hbegan : ⟨place, .began⟩ ∈ events → .began ∈ deeds (occurrencesAt place events) :=
    fun hmem => List.mem_filter.2 ⟨mem_occurrencesAt.2 hmem, rfl⟩
  generalize under place (work events) = seen at htraced hdeeds
  cases htraced with
  | waiting =>
    refine .inl fun hmem => ?_
    have hnone := hbegan hmem
    have hempty : deeds (occurrencesAt place events) = [] := hdeeds rfl
    rw [hempty] at hnone
    exact absurd hnone List.not_mem_nil
  | refused =>
    refine .inl fun hmem => ?_
    have hnone := hbegan hmem
    rw [hdeeds rfl] at hnone
    exact absurd hnone (by simp)
  | working htrace hopen => exact .inr ⟨_, _, htrace, .inl ⟨hopen, hdeeds rfl⟩⟩
  | finished htrace => exact .inr ⟨_, _, htrace, .inr ⟨_, rfl, hdeeds rfl⟩⟩

/-- All that the current part does is seen from the group. -/
theorem mem_ofPart_inside {index : Nat} {rest : List (Plan Task)} {turn : Turn}
    {later : Unit → Turn} {e : RunEvent} (he : e ∈ turn.happened) :
    e.inside index ∈ (Turn.ofPart index rest turn later).happened := by
  have hmem : e.inside index ∈ turn.happened.map (Event.inside index) := List.mem_map_of_mem he
  unfold Turn.ofPart
  split
  · exact List.mem_append_left _ hmem
  · exact List.mem_append_left _ hmem
  · exact hmem

/-- **A task that is under way can have every turn of its thread.** -/
theorem Traced.working_at (h : Traced mayRefuse plan run events)
    (hleaf : plan.at? place = some (.leaf task)) (hbegan : ⟨place, .began⟩ ∈ events)
    (hopen : ∀ outcome, ⟨place, .ended outcome⟩ ∉ events) :
    ∃ past thread, task.action.Trace past thread ∧ thread.outcome? = none ∧
      under place events = eventsHere (.began :: past) ∧
      ∀ c cue step, thread.resume c cue = some step →
        ∃ turn, resumeAt c cue place run = some turn ∧
          ∀ outcome, step.2 = .done outcome → ⟨place, .ended outcome⟩ ∈ turn.happened := by
  induction h generalizing place with
  | waiting => exact absurd hbegan List.not_mem_nil
  | refused => exact absurd hbegan (by simp [eventsHere])
  | @finished _ past outcome htrace =>
    cases place with
    | nil => exact absurd (List.mem_map_of_mem (by simp)) (hopen outcome)
    | cons i place => exact absurd hleaf (by simp [Plan.at?])
  | @working task' past thread htrace hunderWay =>
    cases place with
    | cons i place => exact absurd hleaf (by simp [Plan.at?])
    | nil =>
      obtain rfl : task' = task := Plan.leaf.inj (Option.some.inj hleaf)
      refine ⟨past, thread, htrace, hunderWay, rfl, fun c cue step hstep => ?_⟩
      refine ⟨taskTurn task' step, ?_, fun outcome hdone => ?_⟩
      · rw [resumeAt, hstep]
        rfl
      · obtain ⟨happened, thread'⟩ := step
        obtain rfl : thread' = .done outcome := hdone
        exact List.mem_append_right _ (List.mem_singleton_self _)
  | @group mode nested plans parts run events own hlen hparts hplaces horder hstands ih =>
    obtain ⟨i, place, plan, rfl, hplan, hinner⟩ := Plan.at?_group hleaf
    obtain ⟨part, hpart⟩ := exists_getElem?_of_length_eq hlen.symm hplan
    have hseen : ⟨place, .began⟩ ∈ within i events := by
      rw [← hstands.within_append_own i]
      exact mem_within.2 hbegan
    have hnone : ∀ outcome, ⟨place, .ended outcome⟩ ∉ within i events := fun outcome hmem =>
      hopen outcome (List.mem_append_left _ (mem_within.1 hmem))
    obtain ⟨past, thread, htrace, hunderWay, hunder, hturns⟩ :=
      ih i plan part hplan hpart hinner hseen hnone
    refine ⟨past, thread, htrace, hunderWay, ?_, fun c cue step hstep => ?_⟩
    · rw [under, hstands.within_append_own, hunder]
    obtain ⟨turn, hturn, hend⟩ := hturns c cue step hstep
    -- The part is under way itself: it has begun, and it is not closed.
    have hpartOpen : ∀ outcome, part ≠ .closed outcome := by
      rintro outcome rfl
      rw [resumeAt_closed] at hturn
      exact absurd hturn (by simp)
    have hpartBegun := (hparts i plan part hplan hpart).begun hseen
    rcases hstands.holds hpart hpartOpen hpartBegun with ⟨rest, rfl⟩ | rfl
    · refine ⟨Turn.ofPart i rest turn fun _ => launchFrom c (i + 1) rest, ?_,
        fun outcome hdone => mem_ofPart_inside (hend outcome hdone)⟩
      simp [resumeAt, hturn]
    · refine ⟨⟨turn.happened.map (Event.inside i), .parallel (parts.set i turn.run)⟩, ?_,
        fun outcome hdone => List.mem_map_of_mem (hend outcome hdone)⟩
      simp [resumeAt, hpart, hturn]

/-! ## 3. Calls in flight -/

/-- A request was made at a place, and nothing has come of it yet. -/
def InFlight (events : List RunEvent) (place : Place) (request : Request) : Prop :=
  (deeds (occurrencesAt place events)).getLast? = some (.asked request)

/-- What is in flight waits at a task that is under way. -/
theorem Traced.inFlight {mayRefuse : Prop} {run : Run} {events : List RunEvent}
    (h : Traced mayRefuse plan run (work events)) {request : Request}
    (hflight : InFlight events place request) :
    ∃ task past thread, plan.at? place = some (.leaf task) ∧ task.action.Trace past thread ∧
      thread.awaits = some request ∧ deeds (occurrencesAt place events) = .began :: past := by
  have hasked : ⟨place, .asked request⟩ ∈ work events := by
    have hmem := List.mem_of_getLast? hflight
    exact mem_work.2 ⟨mem_occurrencesAt.1 (List.mem_filter.1 hmem).1, rfl⟩
  obtain ⟨task, past, ending, thread, hleaf, htrace, -, hunder, hending⟩ := h.asked_at hasked
  have hdeeds := deeds_occurrencesAt hunder
  rw [InFlight, hdeeds] at hflight
  have hnone : ending = [] := by
    rcases List.eq_nil_or_concat ending with rfl | ⟨init, last, rfl⟩
    · rfl
    · obtain ⟨outcome, rfl⟩ := hending last (by simp)
      rw [List.concat_eq_append, ← List.append_assoc, List.getLast?_concat] at hflight
      exact absurd (Option.some.inj hflight) (by simp)
  subst hnone
  rw [List.append_nil] at hflight hdeeds
  refine ⟨task, past, thread, hleaf, htrace, ?_, hdeeds⟩
  obtain ⟨rounds, hrounds, rfl⟩ := htrace.conversation
  cases hawaits : thread.awaits with
  | none =>
    rw [hawaits] at hflight
    cases rounds with
    | nil => exact absurd hflight (by simp)
    | cons o rounds =>
      rw [Option.map_none, Option.toList_none, List.append_nil, List.getLast?_cons_cons] at hflight
      exact absurd hflight (hrounds.getLast?_ne request)
  | some awaited =>
    rw [hawaits, Option.map_some, Option.toList_some, ← List.cons_append, List.getLast?_concat]
      at hflight
    rw [Occurrence.asked.inj (Option.some.inj hflight)]

/-- What a thread waits for is in flight. -/
theorem inFlight_of_awaits {past : List (Occurrence Request Request.Answer)}
    {thread : Thread Request Request.Answer Unit} {events : List RunEvent}
    (htrace : task.action.Trace past thread)
    (hdeeds : deeds (occurrencesAt place events) = .began :: past) {request : Request}
    (hawaits : thread.awaits = some request) : InFlight events place request := by
  obtain ⟨rounds, -, rfl⟩ := htrace.conversation
  rw [InFlight, hdeeds, hawaits, Option.map_some, Option.toList_some, ← List.cons_append,
    List.getLast?_concat]

/-- **A call in flight comes to its reply**: as long as it has not, it is in flight. -/
theorem Traced.in_flight_until {P Q : Prop} {run run' : Run} {events more : List RunEvent}
    (h : Traced P plan run (work events)) (h' : Traced Q plan run' (work (events ++ more)))
    {request : Request} (hflight : InFlight events place request) :
    (∃ reply, ⟨place, .replied request reply⟩ ∈ more) ∨
      InFlight (events ++ more) place request := by
  obtain ⟨task, past, thread, hleaf, htrace, hawaits, hdeeds⟩ := h.inFlight hflight
  have hbegan : ⟨place, .began⟩ ∈ events := by
    have hmem : .began ∈ deeds (occurrencesAt place events) := hdeeds ▸ List.mem_cons_self
    exact mem_occurrencesAt.1 (List.mem_filter.1 hmem).1
  have happend : deeds (occurrencesAt place (events ++ more)) =
      .began :: past ++ deeds (occurrencesAt place more) := by
    rw [occurrencesAt_append, deeds_append, hdeeds]
  obtain ⟨rounds, hrounds, rfl⟩ := htrace.conversation
  rw [hawaits, Option.map_some, Option.toList_some, List.cons_append, List.append_assoc,
    List.singleton_append] at happend
  -- What has been done is again a conversation, with at most one more thing at its end.
  have hnow : ∃ rounds' ending, Conversation rounds' ∧ ending.length ≤ 1 ∧
      rounds ++ .asked request :: deeds (occurrencesAt place more) = rounds' ++ ending := by
    rcases h'.deeds_at hleaf with hnever | ⟨past', thread', htrace', hcase⟩
    · exact absurd (List.mem_append_left _ hbegan) hnever
    obtain ⟨rounds', hrounds', rfl⟩ := htrace'.conversation
    rcases hcase with ⟨-, hdeeds'⟩ | ⟨outcome, rfl, hdeeds'⟩
    · refine ⟨rounds', (thread'.awaits.map .asked).toList, hrounds', ?_, ?_⟩
      · cases thread'.awaits with
        | none => exact Nat.zero_le 1
        | some awaited => exact Nat.le_refl 1
      · exact (List.cons.inj (happend.symm.trans hdeeds')).2
    · refine ⟨rounds', [.ended outcome], hrounds', Nat.le_refl 1, ?_⟩
      have hall := (List.cons.inj (happend.symm.trans hdeeds')).2
      rwa [show (Thread.done outcome : Thread Request Request.Answer Unit).awaits = none from rfl,
        Option.map_none, Option.toList_none, List.append_nil] at hall
  obtain ⟨rounds', ending, hrounds', hshort, heq⟩ := hnow
  rcases hrounds.reply_follows hrounds' heq hshort with hsame | ⟨reply, rest, hreply⟩
  · right
    have hnone : deeds (occurrencesAt place more) = [] := by
      rw [hsame, List.length_cons] at hshort
      exact List.length_eq_zero_iff.1 (by omega)
    rw [InFlight, happend, hnone, ← List.cons_append, List.getLast?_concat]
  · left
    have hmem : .replied request reply ∈ deeds (occurrencesAt place more) :=
      hreply ▸ List.mem_cons_self
    exact ⟨reply, mem_occurrencesAt.1 (List.mem_filter.1 hmem).1⟩

end Tasks

end Teardown
