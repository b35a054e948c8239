/-
# Waits that may be cancelled

A wait stands as one that nobody cancels, or it was interrupted, and then no poll had decided it
(`Goal.Fares`).  That is so after every sequence of moves, the cancellation included: a cancelled
wait judges its last answer as any other and takes no rest after it, and a rest that it takes
already has no question after it (`Goal.Fares.resume`).

The invariant says nothing of where the wait began or of what happened before, so it serves for
waits that are a part of something larger (`Goal.Faring.move`).

What is not in it is also of interest.  A cancelled wait whose question is open stands as any
other, since the answer may still decide it; and a wait that is cancelled while it rests stands as
any other too, until the interruption comes.  Whether it has been cancelled matters only for what
may follow.
-/
import Teardown.Proofs.Rounds

namespace Teardown

variable {R : Type} {A : R → Type} {S : Type}

namespace Goal

/-! ## 1. How a wait fares -/

/-- `Fares g started now cancelled polls asked thread`: a wait that began at a given moment, and that was
cancelled or not, has seen the answers of `polls`, has asked so often, and stands at `thread`. -/
inductive Fares [BEq S] (g : Goal R A S) (started now : Moment) (cancelled : Bool) (polls : List (Poll g)) :
    Nat → Thread R A Unit → Prop
  | waits {asked : Nat} {thread : Thread R A Unit} : g.Waits started now polls asked thread →
      Fares g started now cancelled polls asked thread
  | interrupted : cancelled = true → (∀ poll ∈ polls, ¬ g.Decides started poll) →
      Fares g started now cancelled polls polls.length (.done (.fault g.watch.interrupted))

variable [BEq S] {g : Goal R A S} {started now now' : Moment} {cancelled : Bool} {polls : List (Poll g)}
  {asked : Nat} {thread thread' : Thread R A Unit} {c : Conditions}

/-- A wait that would rest is interrupted instead. -/
theorem Waits.cutOff {next : Watch.Next} (h : g.Waits started now polls asked (g.halt next)) :
    Fares g started now true polls asked (g.halt (next.cutOff g.watch)) := by
  cases next with
  | «over» outcome => exact .waits h
  | rest state due =>
    cases h with
    | resting _ _ _ _ _ _ hpolls => exact .interrupted rfl hpolls

/-- **After an answer** a wait is decided by it, or goes on, or is interrupted. -/
theorem Fares.receive (hpolls : ∀ poll ∈ polls, ¬ g.Decides started poll) {s : WatchState}
    (hstarted : s.started = started) (hlast : s.lastState = g.lastState polls)
    (answer : Except Fault (A g.request)) :
    Fares g started c.now c.cancelled (polls ++ [⟨c.now, answer⟩]) (polls.length + 1)
      (g.halt (g.watch.receive c s answer).2) := by
  obtain ⟨now, cancelled, factor⟩ := c
  have hwaits := waits_receive (c := ⟨now, false, factor⟩) rfl hpolls hstarted hlast answer
  cases cancelled with
  | false => exact .waits hwaits
  | true =>
    rw [Watch.receive_cutOff]
    exact hwaits.cutOff

/-- **After a rest** a wait asks again, unless it is interrupted or there is no delay. -/
theorem Fares.afterRest (hpolls : ∀ poll ∈ polls, ¬ g.Decides started poll) {s : WatchState}
    (hstarted : s.started = started) (hlast : s.lastState = g.lastState polls) :
    ∃ happened thread, Thread.afterRest c g.watch s Activity.ofExcept = (happened, thread) ∧
      repliesOf (entriesAt c.now happened) = [] ∧
      Fares g started c.now c.cancelled polls
        (polls.length + requestCount (entriesAt c.now happened)) thread := by
  obtain ⟨now, cancelled, factor⟩ := c
  cases cancelled with
  | false =>
    rcases wake_cases (g := g) (c := ⟨now, false, factor⟩) rfl s with
      ⟨cause, hrest⟩ | ⟨s', hsame, hnext, hrest⟩
    · exact ⟨_, _, hrest, rfl, .waits (.overflowed polls cause hpolls)⟩
    · exact ⟨_, _, hrest, rfl,
        .waits (.looking polls s' (hsame.trans hstarted) (hnext.trans hlast) hpolls)⟩
  | true =>
    cases hleave : g.watch.leave s with
    | error cause =>
      refine ⟨[], .done (.overflow cause), ?_, rfl, .waits (.overflowed polls cause hpolls)⟩
      rw [Thread.afterRest, hleave]
      rfl
    | ok next =>
      refine ⟨[], .done (.fault g.watch.interrupted), ?_, rfl, .interrupted rfl hpolls⟩
      rw [Thread.afterRest, hleave]
      rfl

/-! ## 2. Moves -/

/-- **A turn of a wait** that may be cancelled. -/
theorem Fares.resume (h : Fares g started c.now c.cancelled polls asked thread) {cue : Cue R A}
    {happened : List (Occurrence R A)} (hturn : thread.resume c cue = some (happened, thread'))
    (hanswered : ∀ request text, .replied request (.panic text) ∉ happened) :
    ∃ more : List (Poll g), repliesOf (entriesAt c.now happened) = more.map g.entry ∧
      Fares g started c.now c.cancelled (polls ++ more)
        (asked + requestCount (entriesAt c.now happened)) thread' := by
  cases h with
  | interrupted _ _ =>
    rw [Thread.resume_done] at hturn
    exact absurd hturn (by simp)
  | waits hwaits =>
    cases hwaits with
    | decided | overflowed =>
      rw [Thread.resume_done] at hturn
      exact absurd hturn (by simp)
    | looking _ state hstarted hlast hpolls =>
      cases cue with
      | reply answer =>
        obtain ⟨reply, hreply⟩ : ∃ reply, answer g.request = .ofExcept reply := by
          cases hanswer : answer g.request with
          | ok value => exact ⟨.ok value, rfl⟩
          | fault cause => exact ⟨.error cause, rfl⟩
          | panic text =>
            simp only [Thread.resume, hanswer, Option.some.injEq, Prod.mk.injEq] at hturn
            obtain ⟨rfl, -⟩ := hturn
            exact absurd List.mem_cons_self (hanswered g.request text)
        rw [Thread.resume_looking hreply] at hturn
        obtain ⟨rfl, rfl⟩ := Prod.mk.inj (Option.some.inj hturn)
        obtain ⟨hthread, hquiet⟩ := afterLook_eq (g := g) c state reply
        obtain ⟨hasked, hreplies⟩ := quiet_entriesAt c.now hquiet
        refine ⟨[⟨c.now, reply⟩], congrArg (_ :: ·) hreplies, ?_⟩
        have hcount : requestCount (entriesAt c.now (Occurrence.replied g.request
            (.ofExcept reply) :: (Thread.afterLook c g.watch state Activity.ofExcept reply).1)) =
              0 := hasked ▸ List.countP_cons_of_neg (by simp [Occurrence.isAsked])
        rw [hcount, Nat.add_zero, hthread]
        exact Fares.receive hpolls hstarted hlast reply
      | _ => exact absurd hturn (by simp [Thread.resume])
    | resting _ state due hdue hstarted hlast hpolls =>
      refine ⟨[], ?_⟩
      rw [List.append_nil]
      cases cue with
      | wake =>
        simp only [Thread.resume] at hturn
        split at hturn
        · obtain ⟨happened', next, hrest, hreplies, hfares⟩ :=
            Fares.afterRest (c := c) hpolls hstarted hlast
          obtain ⟨rfl, rfl⟩ := Prod.mk.inj (hrest.symm.trans (Option.some.inj hturn))
          exact ⟨hreplies, hfares⟩
        · exact absurd hturn (by simp)
      | interrupt =>
        simp only [Thread.resume] at hturn
        split at hturn
        case isTrue hcancelled =>
          obtain ⟨rfl, rfl⟩ := Prod.mk.inj (Option.some.inj hturn)
          exact ⟨rfl, .interrupted hcancelled hpolls⟩
        case isFalse => exact absurd hturn (by simp)
      | _ => exact absurd hturn (by simp [Thread.resume])

theorem Fares.pass (h : Fares g started now cancelled polls asked thread)
    (hdue : ∀ due, thread.due? = some due → now' ≤ due) :
    Fares g started now' cancelled polls asked thread := by
  cases h with
  | waits hwaits => exact .waits (hwaits.pass hdue)
  | interrupted hcancelled hpolls => exact .interrupted hcancelled hpolls

theorem Fares.cancel (h : Fares g started now cancelled polls asked thread) :
    Fares g started now true polls asked thread := by
  cases h with
  | waits hwaits => exact .waits hwaits
  | interrupted _ hpolls => exact .interrupted rfl hpolls

/-- How a situation fares, with the replies that the wait has had and the questions that it has asked.
Once it is dropped, its time goes on without it. -/
def Faring (g : Goal R A S) (started : Moment) (s : Situation (Thread R A Unit)) (polls : List (Poll g))
    (asked : Nat) : Prop :=
  ∃ now, (s.dropped = false → now = s.now) ∧ Fares g started now s.cancelled polls asked s.state

/-- **A move of a wait**, the cancellation included. -/
theorem Faring.move {s s' : Situation (Thread R A Unit)} (h : g.Faring started s polls asked)
    {move : Move R A} {entries : List (Entry R A)}
    (hafter : s.after? (Thread.process R A Unit) move = some (entries, s'))
    (hanswered : ∀ e ∈ entries, ∀ request text,
      e.event.occurrence ≠ .replied request (.panic text)) :
    ∃ more : List (Poll g), repliesOf entries = more.map g.entry ∧
      g.Faring started s' (polls ++ more) (asked + requestCount entries) := by
  obtain ⟨moment, hnow, hfares⟩ := h
  have hsame : polls ++ [] = polls := List.append_nil polls
  rcases Situation.after?_cases hafter with
    ⟨place, cue, factor, events, thread, -, hdropped, hturn, rfl, rfl⟩ | ⟨-, rfl, rfl⟩ |
      ⟨length, rfl, rfl, rfl⟩ | ⟨-, rfl, rfl⟩
  · rw [hnow hdropped] at hfares
    obtain ⟨happened, hresume, rfl⟩ := Thread.resume_of_process hturn
    obtain ⟨more, hmore, hnext⟩ := Fares.resume (c := ⟨s.now, s.cancelled, factor⟩) hfares hresume
      fun request text hpanic => hanswered ⟨s.now, [], .replied request (.panic text)⟩
        (List.mem_map_of_mem (List.mem_map_of_mem hpanic)) request text rfl
    exact ⟨more, hmore, s.now, fun _ => rfl, hnext⟩
  · exact ⟨[], rfl, moment, hnow, hsame.symm ▸ hfares.cancel⟩
  · refine ⟨[], rfl, ?_⟩
    rw [hsame]
    cases hdropped : s.dropped with
    | true => exact ⟨moment, by simp, hfares⟩
    | false =>
      refine ⟨s.now + length, fun _ => rfl, hfares.pass fun due hdue => ?_⟩
      exact Situation.le_due_of_pass hafter hdropped hdue
  · refine ⟨[], rfl, moment, by simp, ?_⟩
    rw [hsame]
    exact hfares

end Goal

end Teardown
