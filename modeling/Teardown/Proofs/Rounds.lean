/-
# The rounds of a wait

A wait that keeps to a script and that nobody cancels goes in rounds.  A round begins with a
question.  When the answer comes, the wait is over, or it rests; after the rest the next round
begins, unless the next delay has no duration (`Script.Rounds`).  The runs of such a wait are its
rounds, and nothing else (`Script.run_iff_rounds`), so what holds of them is shown round by round.

* §1  what can follow an answer is said once.  A state that ends the wait ends it under all
      circumstances (`Watch.receive_of_terminal`), and after every other answer it is a matter of
      time (`Watch.receive_of_open`, `Watch.pause_rest`).  A cancelled wait differs in a single
      place: instead of a rest it takes its end (`Watch.receive_cutOff`).
* §2  rounds.  The relation also tells what happens and when the wait is over, so that the bounds
      on the time are an induction on it.
* §3  each rule of the relation is one step of the script, or two.
* §4  the steps of a wait are rounds, and rounds are steps.
* §5  what happens in a round: no entry comes before its question, and every question has its
      reply (`Script.Rounds.paired`).

The rounds end because the relation is inductive.  That there always are some, that a wait which
keeps to a script comes to its end, is another matter, and `Teardown.Proofs.Deadline` settles it.
-/
import Teardown.Proofs.Scripts

namespace Teardown

variable {R : Type} {A : R → Type}

/-! ## 1. What follows an answer -/

namespace Watch

variable {w : Watch R A} {c : Conditions} {s rested : WatchState} {due : Moment}
  {answer : Except Fault (A w.request)} {records : List Record}

/-- An answer leaves the matter open: it is a refusal, or it shows a state that decides nothing. -/
def Open (w : Watch R A) (answer : Except Fault (A w.request)) : Prop :=
  ∀ value, answer = .ok value → (w.observe value).verdict = .undecided

/-- The outcomes that a state can have. -/
def Terminal (w : Watch R A) (outcome : Outcome Unit) : Prop :=
  outcome = .ok () ∨ ∃ state, outcome = .fault (w.failed state)

/-- A state that decides ends the wait under all circumstances. -/
theorem receive_of_terminal (h : ¬ w.Open answer) (s : WatchState) :
    ∃ records outcome, w.Terminal outcome ∧
      ∀ c, w.receive c s answer = (records, .over outcome) := by
  cases answer with
  | error cause => exact absurd (fun value hvalue => absurd hvalue (by simp)) h
  | ok value =>
    have hverdict : (w.observe value).verdict ≠ .undecided := by
      intro hverdict
      refine h fun value' hvalue => ?_
      rwa [← Except.ok.inj hvalue]
    cases hseen : (w.observe value).verdict with
    | undecided => exact absurd hseen hverdict
    | success =>
      refine ⟨[w.observed s (w.observe value)], .ok (), .inl rfl, fun c => ?_⟩
      simp only [receive, hseen]
    | failure =>
      refine ⟨[w.observed s (w.observe value)], .fault (w.failed (w.observe value).state),
        .inr ⟨_, rfl⟩, fun c => ?_⟩
      simp only [receive, hseen]

theorem receive_of_open (h : w.Open answer) (s : WatchState) :
    ∃ record rested, rested.started = s.started ∧ rested.delay = s.delay ∧
      ∀ c, w.receive c s answer = (record :: (w.pause c rested).1, (w.pause c rested).2) := by
  cases answer with
  | error cause => exact ⟨w.unanswered s cause, s, rfl, rfl, fun c => rfl⟩
  | ok value =>
    have hseen := h value rfl
    refine ⟨w.observed s (w.observe value), { s with lastState := some (w.observe value).state }, rfl,
      rfl, fun c => ?_⟩
    simp only [receive, hseen]

/-- **A rest** is taken before the time is up, by a wait that is not cancelled, and it takes no more than
what is left of the time. -/
theorem pause_rest (h : w.pause c s = (records, .rest rested due)) :
    rested = s ∧ c.cancelled = false ∧ c.now - s.started < w.settings.timeout ∧
      ∃ rest, w.settings.scaled c.factor s.delay = .ok rest ∧
        due = restEnd c.now (min rest (w.settings.timeout - (c.now - s.started))) := by
  unfold pause at h
  by_cases htime : w.settings.timeout ≤ c.now - s.started
  · rw [if_pos htime] at h
    exact absurd (congrArg Prod.snd h) (by simp)
  · rw [if_neg htime] at h
    split at h
    case h_1 => exact absurd (congrArg Prod.snd h) (by simp)
    case h_2 rest hrest =>
      split at h
      case isTrue => exact absurd (congrArg Prod.snd h) (by simp)
      case isFalse hcancelled =>
        obtain ⟨rfl, rfl⟩ := Next.rest.inj (congrArg Prod.snd h)
        exact ⟨rfl, by simpa using hcancelled, Nat.not_le.1 htime, rest, hrest, rfl⟩

/-- **The end of a pause** is the end of the time, or a delay that has no duration, or the cancellation. -/
theorem pause_over {outcome : Outcome Unit} (h : w.pause c s = (records, .over outcome)) :
    (w.settings.timeout ≤ c.now - s.started ∧ outcome = .fault (w.timedOut s)) ∨
      (∃ cause, w.settings.scaled c.factor s.delay = .error cause ∧ outcome = .overflow cause) ∨
      (c.cancelled = true ∧ outcome = .fault w.interrupted) := by
  unfold pause at h
  by_cases htime : w.settings.timeout ≤ c.now - s.started
  · rw [if_pos htime] at h
    exact .inl ⟨htime, (Next.over.inj (congrArg Prod.snd h)).symm⟩
  · rw [if_neg htime] at h
    split at h
    case h_1 cause hcause =>
      exact .inr (.inl ⟨cause, hcause, (Next.over.inj (congrArg Prod.snd h)).symm⟩)
    case h_2 =>
      split at h
      case isTrue hcancelled =>
        exact .inr (.inr ⟨hcancelled, (Next.over.inj (congrArg Prod.snd h)).symm⟩)
      case isFalse => exact absurd (congrArg Prod.snd h) (by simp)

/-- A rest is taken after an answer that leaves the matter open. -/
theorem receive_rest (h : w.receive c s answer = (records, .rest rested due)) :
    w.Open answer ∧ rested.started = s.started ∧ rested.delay = s.delay ∧ c.cancelled = false ∧
      c.now - s.started < w.settings.timeout ∧
      ∃ rest, w.settings.scaled c.factor s.delay = .ok rest ∧
        due = restEnd c.now (min rest (w.settings.timeout - (c.now - s.started))) := by
  by_cases hopen : w.Open answer
  · obtain ⟨record, paused, hstarted, hdelay, hreceive⟩ := receive_of_open hopen s
    rw [hreceive] at h
    have hnext : (w.pause c paused).2 = .rest rested due := congrArg Prod.snd h
    obtain ⟨rfl, hcancelled, htime, rest, hrest, hdue⟩ := pause_rest (Prod.ext rfl hnext)
    rw [hstarted] at htime hdue
    rw [hdelay] at hrest
    exact ⟨hopen, hstarted, hdelay, hcancelled, htime, rest, hrest, hdue⟩
  · obtain ⟨_, outcome, -, hreceive⟩ := receive_of_terminal hopen s
    rw [hreceive] at h
    exact absurd (congrArg Prod.snd h) (by simp)

theorem le_due (h : w.receive c s answer = (records, .rest rested due)) : c.now ≤ due := by
  obtain ⟨-, -, -, -, -, rest, -, rfl⟩ := receive_rest h
  exact Goal.le_restEnd c.now _

/-- What a cancelled wait does: it takes no rest. -/
def Next.cutOff (w : Watch R A) : Next → Next
  | .over outcome => .over outcome
  | .rest .. => .over (.fault w.interrupted)

/-- A cancellation makes no difference to a pause but that there is no rest. -/
theorem pause_cutOff (w : Watch R A) (now : Moment) (factor : Binary64) (s : WatchState) :
    w.pause ⟨now, true, factor⟩ s =
      ((w.pause ⟨now, false, factor⟩ s).1, (w.pause ⟨now, false, factor⟩ s).2.cutOff w) := by
  unfold pause
  by_cases htime : w.settings.timeout ≤ now - s.started
  · simp only [if_pos htime]
    rfl
  · simp only [if_neg htime]
    cases w.settings.scaled factor s.delay <;> rfl

/-- **A cancellation makes no difference to an answer** but that no rest follows it. -/
theorem receive_cutOff (w : Watch R A) (now : Moment) (factor : Binary64) (s : WatchState)
    (answer : Except Fault (A w.request)) :
    w.receive ⟨now, true, factor⟩ s answer =
      ((w.receive ⟨now, false, factor⟩ s answer).1,
        (w.receive ⟨now, false, factor⟩ s answer).2.cutOff w) := by
  by_cases hopen : w.Open answer
  · obtain ⟨record, rested, -, -, hreceive⟩ := receive_of_open hopen s
    rw [hreceive, hreceive, pause_cutOff]
  · obtain ⟨records, outcome, -, hreceive⟩ := receive_of_terminal hopen s
    rw [hreceive, hreceive]
    rfl

end Watch

/-! ## 2. Rounds -/

namespace Script

section Definitions

variable (script : Script R A) (w : Watch R A)

/-- When the answer to a question comes. -/
def answerAt (k : Nat) (asked : Moment) : Moment := asked + script.latency k

/-- What follows the answer to a question. -/
def received (cancelled : Bool) (state : WatchState) (k : Nat) (asked : Moment) :
    List Record × Watch.Next :=
  w.receive ⟨script.answerAt k asked, cancelled, script.factor k⟩ state (script.answer k w.request)

/-- What happens when the answer to a question comes. -/
def replyAt (k : Nat) (asked : Moment) (more : List (Occurrence R A)) : List (Entry R A) :=
  entriesAt (script.answerAt k asked)
    (.replied w.request (.ofExcept (script.answer k w.request)) :: more)

/-- `script.Rounds w state k asked later outcome ended`: a wait whose question number `k` is asked at the
moment `asked` is over at the moment `ended` with the outcome, and `later` is what happens from then
on. -/
inductive Rounds : WatchState → Nat → Moment → List (Entry R A) → Outcome Unit → Moment → Prop
  | decided {state : WatchState} {k : Nat} {asked : Moment} {records : List Record}
      {outcome : Outcome Unit} :
      script.received w false state k asked = (records, .over outcome) →
      Rounds state k asked (script.replyAt w k asked (records.map .noted)) outcome
        (script.answerAt k asked)
  | again {state rested next : WatchState} {k : Nat} {asked due ended : Moment} {records : List Record}
      {later : List (Entry R A)} {outcome : Outcome Unit} :
      script.received w false state k asked = (records, .rest rested due) → w.leave rested = .ok next →
      Rounds { next with attempt := next.attempt + 1 } (k + 1) due later outcome ended →
      Rounds state k asked (script.replyAt w k asked (records.map .noted ++ [.rested due]) ++
        ⟨due, [], .asked w.request⟩ :: later) outcome ended
  | stuck {state rested : WatchState} {k : Nat} {asked due : Moment} {records : List Record}
      {cause : Duration.Overflow} :
      script.received w false state k asked = (records, .rest rested due) →
      w.leave rested = .error cause →
      Rounds state k asked (script.replyAt w k asked (records.map .noted ++ [.rested due]))
        (.overflow cause) due

end Definitions

variable {script : Script R A} {cancelAt : Option Moment} {w : Watch R A}
  {state rested next : WatchState} {k : Nat} {asked now due ended started : Moment} {cancelled : Bool}
  {records : List Record} {outcome : Outcome Unit} {later entries : List (Entry R A)}

/-! ## 3. Steps of a round -/

theorem le_answerAt (script : Script R A) (k : Nat) (asked : Moment) :
    asked ≤ script.answerAt k asked :=
  Nat.le_add_right asked.nanos (script.latency k).nanos

/-- What is due comes first if the wait is cancelled already, or not before. -/
theorem cancelledBefore?_eq_none {p : Performance R A}
    (h : p.situation.cancelled = true ∨ ∀ moment ∈ cancelAt, due ≤ moment) :
    cancelledBefore? cancelAt p due = none := by
  refine Option.filter_eq_none_iff.2 fun moment hmoment => ?_
  rcases h with h | h
  · simp [h]
  · have hlate : ¬ moment < due := Nat.not_lt.2 (h moment hmoment)
    simp [hlate]

theorem step?_decided (h : script.received w cancelled state k asked = (records, .over outcome))
    (hnow : now ≤ script.answerAt k asked)
    (hfirst : cancelled = true ∨ ∀ moment ∈ cancelAt, script.answerAt k asked ≤ moment) :
    script.step? cancelAt (.looking w state k asked now cancelled) =
      some (script.replyAt w k asked (records.map .noted),
        ⟨⟨.done outcome, script.answerAt k asked, cancelled, false⟩, k + 1, asked⟩) := by
  have hturn : Thread.afterLook ⟨script.answerAt k asked, cancelled, script.factor k⟩ w state
      Activity.ofExcept (script.answer k w.request) = (records.map .noted, .done outcome) := by
    rw [received] at h
    rw [Thread.afterLook_await, h]
    simp [Watch.Next.turn]
  exact step?_answer rfl rfl hturn hnow (cancelledBefore?_eq_none hfirst)

theorem step?_rested (h : script.received w cancelled state k asked = (records, .rest rested due))
    (hnow : now ≤ script.answerAt k asked)
    (hfirst : cancelled = true ∨ ∀ moment ∈ cancelAt, script.answerAt k asked ≤ moment) :
    script.step? cancelAt (.looking w state k asked now cancelled) =
      some (script.replyAt w k asked (records.map .noted ++ [.rested due]),
        .resting w rested due (k + 1) asked (script.answerAt k asked) cancelled) := by
  have hturn : Thread.afterLook ⟨script.answerAt k asked, cancelled, script.factor k⟩ w state
      Activity.ofExcept (script.answer k w.request) =
      (records.map .noted ++ [.rested due], .resting w rested due Activity.ofExcept) := by
    rw [received] at h
    rw [Thread.afterLook_await, h]
    rfl
  exact step?_answer rfl rfl hturn hnow (cancelledBefore?_eq_none hfirst)

theorem step?_again (h : w.leave rested = .ok next) (hnow : now ≤ due)
    (hfirst : ∀ moment ∈ cancelAt, due ≤ moment) :
    script.step? cancelAt (.resting w rested due k asked now false) =
      some ([⟨due, [], .asked w.request⟩],
        .looking w { next with attempt := next.attempt + 1 } k due due false) := by
  have hturn : Thread.afterRest ⟨due, false, script.factor k⟩ w rested Activity.ofExcept =
      ([.asked w.request], .looking w { next with attempt := next.attempt + 1 } Activity.ofExcept) := by
    rw [Thread.afterRest, h]
    rfl
  exact step?_wake hturn hnow (cancelledBefore?_eq_none (.inr hfirst))

theorem step?_stuck {cause : Duration.Overflow} (h : w.leave rested = .error cause) (hnow : now ≤ due)
    (hfirst : ∀ moment ∈ cancelAt, due ≤ moment) :
    script.step? cancelAt (.resting w rested due k asked now false) =
      some ([], ⟨⟨.done (.overflow cause), due, false, false⟩, k, asked⟩) := by
  have hturn : Thread.afterRest ⟨due, false, script.factor k⟩ w rested Activity.ofExcept =
      ([], .done (.overflow cause)) := by
    rw [Thread.afterRest, h]
    rfl
  exact step?_wake hturn hnow (cancelledBefore?_eq_none (.inr hfirst))

/-! ## 4. Runs in rounds -/

theorem Leads.peel {p p' q : Performance R A} {first : List (Entry R A)}
    (h : script.Leads cancelAt p entries q) (hover : q.situation.state.outcome?.isSome = true)
    (hstep : script.step? cancelAt p = some (first, p')) :
    ∃ later, entries = first ++ later ∧ script.Leads cancelAt p' later q := by
  cases h with
  | here =>
    rw [step?_over hover] at hstep
    exact absurd hstep (by simp)
  | step hstep' hlater =>
    obtain ⟨rfl, rfl⟩ := Prod.mk.inj (Option.some.inj (hstep'.symm.trans hstep))
    exact ⟨_, rfl, hlater⟩

theorem Leads.over {p q : Performance R A} (h : script.Leads cancelAt p entries q)
    (hover : p.situation.state.outcome?.isSome = true) : entries = [] ∧ q = p := by
  cases h with
  | here => exact ⟨rfl, rfl⟩
  | step hstep _ =>
    rw [step?_over hover] at hstep
    exact absurd hstep (by simp)

/-- Rounds are steps. -/
theorem Rounds.leads (h : script.Rounds w state k asked later outcome ended) :
    ∃ q : Performance R A, q.situation = ⟨.done outcome, ended, false, false⟩ ∧
      script.Leads none (.looking w state k asked asked false) later q := by
  induction h with
  | @decided _ k asked _ outcome hreceived =>
    refine ⟨⟨⟨.done outcome, script.answerAt k asked, false, false⟩, k + 1, asked⟩, rfl, ?_⟩
    rw [← List.append_nil (script.replyAt _ _ _ _)]
    exact .step (step?_decided hreceived (le_answerAt ..) (.inr (by simp))) (.here _)
  | @stuck _ _ k asked due _ cause hreceived hleave =>
    refine ⟨⟨⟨.done (.overflow cause), due, false, false⟩, k + 1, asked⟩, rfl, ?_⟩
    rw [← List.append_nil (script.replyAt _ _ _ _)]
    refine .step (step?_rested hreceived (le_answerAt ..) (.inr (by simp))) ?_
    exact .step (step?_stuck hleave (Watch.le_due hreceived) (by simp)) (.here _)
  | again hreceived hleave _ ih =>
    obtain ⟨q, hq, hlater⟩ := ih
    refine ⟨q, hq, ?_⟩
    refine .step (step?_rested hreceived (le_answerAt ..) (.inr (by simp))) ?_
    exact .step (step?_again hleave (Watch.le_due hreceived) (by simp)) hlater

/-- **The steps of a wait** that nobody cancels are rounds. -/
theorem Leads.rounds {q : Performance R A}
    (h : script.Leads none (.looking w state k asked asked false) later q)
    (hover : q.situation.state.outcome?.isSome = true) :
    ∃ outcome ended, q.situation = ⟨.done outcome, ended, false, false⟩ ∧
      script.Rounds w state k asked later outcome ended := by
  -- The induction is on what happens: each round has at least the reply.
  induction hlength : later.length using Nat.strongRecOn generalizing state k asked later with
  | _ n ih =>
    rcases hreceived : script.received w false state k asked with ⟨records, next⟩
    cases next with
    | «over» outcome =>
      obtain ⟨rest, rfl, hrest⟩ :=
        h.peel hover (step?_decided hreceived (le_answerAt ..) (.inr (by simp)))
      obtain ⟨rfl, rfl⟩ := hrest.over rfl
      refine ⟨outcome, _, rfl, ?_⟩
      rw [List.append_nil]
      exact .decided hreceived
    | rest rested due =>
      obtain ⟨rest, rfl, hrest⟩ :=
        h.peel hover (step?_rested hreceived (le_answerAt ..) (.inr (by simp)))
      have hdue := Watch.le_due hreceived
      cases hleave : w.leave rested with
      | error cause =>
        obtain ⟨rest', rfl, hrest'⟩ := hrest.peel hover (step?_stuck hleave hdue (by simp))
        obtain ⟨rfl, rfl⟩ := hrest'.over rfl
        refine ⟨_, _, rfl, ?_⟩
        rw [List.append_nil]
        exact .stuck hreceived hleave
      | ok next =>
        obtain ⟨rest', rfl, hrest'⟩ := hrest.peel hover (step?_again hleave hdue (by simp))
        have hless : rest'.length < n := by
          rw [← hlength]
          simp only [List.length_append, List.length_cons]
          omega
        obtain ⟨outcome, ended, hq, hrounds⟩ := ih _ hless hrest' rfl
        exact ⟨outcome, ended, hq, .again hreceived hleave hrounds⟩

/-- What happens when a wait begins. -/
def begin (w : Watch R A) (started : Moment) : List (Entry R A) :=
  entriesAt started [.noted w.opening, .asked w.request]

/-- How a wait stands with its first question. -/
def first (w : Watch R A) (started : Moment) : WatchState :=
  { w.start started with attempt := 1 }

/-- A wait that is not cancelled before it begins, begins with its first question. -/
theorem start_of_later (h : ∀ moment ∈ cancelAt, started < moment) :
    script.start cancelAt w started =
      (begin w started, .looking w (first w started) 0 started started false) := by
  have hany : (cancelAt.any fun moment => decide (moment ≤ started)) = false := by
    cases cancelAt with
    | none => rfl
    | some moment =>
      have hlate : ¬ moment ≤ started := Nat.not_le.2 (h moment rfl)
      simp [hlate]
  rw [start, hany]
  rfl

/-- **The runs** of a wait that nobody cancels are its rounds. -/
theorem run_iff_rounds {s : Situation (Thread R A Unit)} :
    script.Run none w started entries s ↔ ∃ later outcome ended,
      script.Rounds w (first w started) 0 started later outcome ended ∧
        entries = begin w started ++ later ∧ s = ⟨.done outcome, ended, false, false⟩ := by
  have hstart : script.start none w started = (begin w started,
      .looking w (first w started) 0 started started false) := start_of_later (by simp)
  constructor
  · rintro ⟨later, q, hleads, rfl, hover, rfl⟩
    rw [hstart] at hleads
    obtain ⟨outcome, ended, hq, hrounds⟩ := hleads.rounds hover
    rw [hstart]
    exact ⟨later, outcome, ended, hrounds, rfl, hq⟩
  · rintro ⟨later, outcome, ended, hrounds, rfl, rfl⟩
    obtain ⟨q, hq, hleads⟩ := hrounds.leads
    refine ⟨later, q, ?_, hq, rfl, ?_⟩
    · rw [hstart]
      exact hleads
    · rw [hstart]

end Script

/-! ## 5. What happens in a round -/

/-- Whether an occurrence is the cancellation from outside. -/
def Occurrence.isCancelled : Occurrence R A → Bool
  | .cancelled => true
  | .noted _ | .asked _ | .replied .. | .rested _ | .opened | .began | .ended _ => false

def uncancelled (entries : List (Entry R A)) : List (Entry R A) :=
  entries.filter fun e => !e.event.occurrence.isCancelled

@[simp] theorem uncancelled_append (xs ys : List (Entry R A)) :
    uncancelled (xs ++ ys) = uncancelled xs ++ uncancelled ys := List.filter_append ..

namespace Watch

def question (w : Watch R A) (asked : Moment) : Entry R A := ⟨asked, [], .asked w.request⟩

theorem questionsOf_question (w : Watch R A) (asked : Moment) (entries : List (Entry R A)) :
    questionsOf (w.question asked :: entries) = w.question asked :: questionsOf entries := rfl

theorem repliesOf_question (w : Watch R A) (asked : Moment) (entries : List (Entry R A)) :
    repliesOf (w.question asked :: entries) = repliesOf entries := rfl

end Watch

namespace Script

variable {script : Script R A} {w : Watch R A} {state : WatchState} {k : Nat}
  {asked ended : Moment} {records : List Record} {outcome : Outcome Unit} {later : List (Entry R A)}

def answerEntry (script : Script R A) (w : Watch R A) (k : Nat) (asked : Moment) : Entry R A :=
  ⟨script.answerAt k asked, [], .replied w.request (.ofExcept (script.answer k w.request))⟩

/-- All that is in it happens when the answer comes. -/
theorem moment_replyAt {more : List (Occurrence R A)} {e : Entry R A}
    (he : e ∈ script.replyAt w k asked more) : e.moment = script.answerAt k asked := by
  obtain ⟨event, -, rfl⟩ := List.mem_map.1 he
  rfl

/-- Records are neither talk nor a cancellation, and nor is the beginning of a rest. -/
theorem isTalk_of_records (records : List Record) (dues : List Moment) :
    ∀ o ∈ (records.map .noted ++ dues.map .rested : List (Occurrence R A)),
      o.isTalk = false ∧ o.isCancelled = false := by
  intro o ho
  rcases List.mem_append.1 ho with ho | ho
  · obtain ⟨record, -, rfl⟩ := List.mem_map.1 ho
    exact ⟨rfl, rfl⟩
  · obtain ⟨due, -, rfl⟩ := List.mem_map.1 ho
    exact ⟨rfl, rfl⟩

/-- The answer is the only talk in it, and there is no cancellation in it. -/
theorem talk_replyAt (script : Script R A) (w : Watch R A) (k : Nat) (asked : Moment)
    (records : List Record) (dues : List Moment) :
    (questionsOf (script.replyAt w k asked (records.map .noted ++ dues.map .rested)) = [] ∧
      repliesOf (script.replyAt w k asked (records.map .noted ++ dues.map .rested)) =
        [script.answerEntry w k asked]) ∧
    uncancelled (script.replyAt w k asked (records.map .noted ++ dues.map .rested)) =
      script.replyAt w k asked (records.map .noted ++ dues.map .rested) := by
  have hquiet := isTalk_of_records (R := R) (A := A) records dues
  obtain ⟨hasked, hreplies⟩ := quiet_entriesAt (script.answerAt k asked) fun o ho => (hquiet o ho).1
  refine ⟨⟨questionsOf_eq_nil hasked, congrArg (script.answerEntry w k asked :: ·) hreplies⟩, ?_⟩
  refine List.filter_eq_self.2 fun e he => ?_
  obtain ⟨event, hevent, rfl⟩ := List.mem_map.1 he
  obtain ⟨o, ho, rfl⟩ := List.mem_map.1 hevent
  rcases List.mem_cons.1 ho with rfl | ho
  · rfl
  · simp [(hquiet o ho).2]

theorem talk_over (script : Script R A) (w : Watch R A) (k : Nat) (asked : Moment)
    (records : List Record) :
    (questionsOf (script.replyAt w k asked (records.map .noted)) = [] ∧
      repliesOf (script.replyAt w k asked (records.map .noted)) = [script.answerEntry w k asked]) ∧
    uncancelled (script.replyAt w k asked (records.map .noted)) =
      script.replyAt w k asked (records.map .noted) := by
  have htalk := talk_replyAt script w k asked records []
  rwa [List.map_nil, List.append_nil] at htalk

theorem talk_rest (script : Script R A) (w : Watch R A) (k : Nat) (asked : Moment)
    (records : List Record) (due : Moment) :
    (questionsOf (script.replyAt w k asked (records.map .noted ++ [.rested due])) = [] ∧
      repliesOf (script.replyAt w k asked (records.map .noted ++ [.rested due])) =
        [script.answerEntry w k asked]) ∧
    uncancelled (script.replyAt w k asked (records.map .noted ++ [.rested due])) =
      script.replyAt w k asked (records.map .noted ++ [.rested due]) :=
  talk_replyAt script w k asked records [due]

/-- Nothing happens before the question. -/
theorem Rounds.le_moment (h : script.Rounds w state k asked later outcome ended) :
    ∀ e ∈ later, asked ≤ e.moment := by
  have hanswer : ∀ k asked more, ∀ e ∈ script.replyAt w k asked more, asked ≤ e.moment := by
    intro k asked more e he
    rw [moment_replyAt he]
    exact le_answerAt script k asked
  induction h with
  | decided => exact hanswer _ _ _
  | stuck => exact hanswer _ _ _
  | @again _ _ _ k asked due _ _ _ _ hreceived _ _ ih =>
    have hdue : asked ≤ due := Nat.le_trans (le_answerAt script k asked) (Watch.le_due hreceived)
    intro e he
    rcases List.mem_append.1 he with he | he
    · exact hanswer _ _ _ e he
    · rcases List.mem_cons.1 he with rfl | he
      · exact hdue
      · exact Nat.le_trans hdue (ih e he)

theorem rested_replyAt (dues : List Moment) {due : Moment} {e : Entry R A}
    (he : e ∈ script.replyAt w k asked (records.map .noted ++ dues.map .rested))
    (hrested : e.event.occurrence = .rested due) :
    e.moment = script.answerAt k asked ∧ due ∈ dues := by
  obtain ⟨event, hevent, rfl⟩ := List.mem_map.1 he
  obtain ⟨o, ho, rfl⟩ := List.mem_map.1 hevent
  refine ⟨rfl, ?_⟩
  obtain rfl : o = .rested due := hrested
  simpa using ho

theorem questionsOf_round {front : List (Entry R A)} (h : questionsOf front = []) (asked due : Moment)
    (entries : List (Entry R A)) :
    questionsOf (w.question asked :: (front ++ w.question due :: entries)) =
      w.question asked :: w.question due :: questionsOf entries := by
  rw [Watch.questionsOf_question, questionsOf_append, h, List.nil_append, Watch.questionsOf_question]

/-- Every question has its reply, which comes no sooner. -/
theorem Rounds.paired (h : script.Rounds w state k asked later outcome ended) :
    List.Forall₂ (fun question reply => question.moment ≤ reply.moment)
      (questionsOf (w.question asked :: later)) (repliesOf (w.question asked :: later)) := by
  induction h with
  | @decided _ k asked records _ =>
    obtain ⟨⟨hnone, hreply⟩, -⟩ := talk_over script w k asked records
    rw [Watch.questionsOf_question, Watch.repliesOf_question, hnone, hreply]
    exact .cons (le_answerAt script k asked) .nil
  | @stuck _ _ k asked due records _ =>
    obtain ⟨⟨hnone, hreply⟩, -⟩ := talk_rest script w k asked records due
    rw [Watch.questionsOf_question, Watch.repliesOf_question, hnone, hreply]
    exact .cons (le_answerAt script k asked) .nil
  | @again _ _ _ k asked due _ records _ _ _ _ _ ih =>
    obtain ⟨⟨hnone, hreply⟩, -⟩ := talk_rest script w k asked records due
    rw [Watch.questionsOf_question, Watch.repliesOf_question, questionsOf_append, repliesOf_append,
      hnone, hreply]
    exact .cons (le_answerAt script k asked) ih

end Script

end Teardown
