/-
# A wait and its deadline

A wait that nobody cancels is over some time, if no rest has the length zero.  Timers go off on
whole milliseconds, and a rest takes no more than what is left of the time; so every rest ends on
a whole millisecond, later than it began and no later than the deadline, which is the end of the
time itself when it is rounded up (`Script.InTime.again`).  The milliseconds up to the deadline
are what bounds the number of questions (`Script.InTime.rounds`).

`wait_ends_in_time` puts this together, with what the last rest is for: if the answers take no
time and decide nothing, the last question is asked at the deadline itself.

* §1  how a wait stands when a question is asked (`InTime`), and how a rest brings it from one
      question to the next.  The arithmetic is in one place, `CutToFit.moves_on`.
* §2  all rounds: the time that is left decreases, so there is an end, and what was said of one
      round holds of each.
* §3  the whole wait.

The bound is about questions and not about time, because an answer may take any time.  It needs
the rests to have lengths that are not zero; which settings give such rests is another matter
(`WaitSettings.Resting`).
-/
import Teardown.Proofs.RestLengths
import Teardown.Proofs.Rounds

namespace Teardown

variable {R : Type} {A : R → Type}

/-! ## 1. Rounds before the deadline -/

/-- The moment until which a wait may ask. -/
def Watch.deadline (w : Watch R A) (started : Moment) : Moment := restEnd started w.settings.timeout

namespace Script

variable {script : Script R A} {w : Watch R A} {state rested next : WatchState} {k : Nat}
  {asked due ended started : Moment} {records : List Record} {outcome : Outcome Unit}
  {later : List (Entry R A)}

/-- How a wait stands when question number `k` is asked: on a whole millisecond, and no later than the
deadline. -/
structure InTime (w : Watch R A) (started : Moment) (k : Nat) (state : WatchState) (asked : Moment) :
    Prop where
  began : state.started = started
  delay : w.settings.delayAt k = .ok state.delay
  whole : 1000000 ∣ asked.nanos
  after : started ≤ asked
  before : asked ≤ w.deadline started

theorem InTime.first (hwhole : 1000000 ∣ started.nanos) :
    InTime w started 0 (first w started) started where
  began := rfl
  delay := rfl
  whole := hwhole
  after := Nat.le_refl started.nanos
  before := Goal.le_restEnd started w.settings.timeout

/-- What is said of a rest: it begins before the time is up, and its length is that of the next delay, or
what is left of the time. -/
def CutToFit (script : Script R A) (w : Watch R A) (started now due : Moment) : Prop :=
  started ≤ now ∧ ∃ n rest left, w.settings.restAt script.factor n = .ok rest ∧ rest.nanos ≠ 0 ∧
    left.nanos ≠ 0 ∧ (now - started) + left = w.settings.timeout ∧ due = restEnd now (min rest left)

/-- **A rest** before the deadline. -/
theorem InTime.rest (h : InTime w started k state asked) (hrests : w.settings.Resting script.factor)
    (hreceived : script.received w false state k asked = (records, .rest rested due)) :
    script.CutToFit w started (script.answerAt k asked) due ∧ rested.started = started ∧
      rested.delay = state.delay := by
  obtain ⟨-, hbegan, hdelay, -, htime, rest, hscaled, hdue⟩ := Watch.receive_rest hreceived
  rw [h.began] at htime hdue hbegan
  obtain ⟨rest', hrest, hlong⟩ := hrests k
  rw [WaitSettings.restAt, h.delay] at hrest
  obtain rfl : rest = rest' := Except.ok.inj (hscaled.symm.trans hrest)
  have hafter : started ≤ script.answerAt k asked :=
    Nat.le_trans h.after (le_answerAt script k asked)
  refine ⟨⟨hafter, k, rest, w.settings.timeout - (script.answerAt k asked - started), ?_, hlong, ?_,
    Duration.add_sub_of_le (Nat.le_of_lt htime), hdue⟩, hbegan, hdelay⟩
  · rw [WaitSettings.restAt, h.delay]
    exact hscaled
  · exact Nat.sub_ne_zero_of_lt htime

/-- **A rest moves the wait on**, and never beyond the deadline. -/
theorem CutToFit.moves_on {now : Moment} (h : script.CutToFit w started now due) :
    1000000 ∣ due.nanos ∧ now < due ∧ due ≤ w.deadline started := by
  obtain ⟨hafter, -, rest, left, -, hlong, hleft, htotal, rfl⟩ := h
  have hsum := congrArg Duration.nanos htotal
  simp only [Duration.nanos_add, Duration.nanos_sub] at hsum
  rw [Duration.le_iff] at hafter
  simp only [Watch.deadline, Duration.lt_iff, Duration.le_iff, nanos_restEnd, Duration.nanos_min]
  omega

/-- **The next question** is asked in time too. -/
theorem InTime.again (h : InTime w started k state asked) (hrests : w.settings.Resting script.factor)
    (hreceived : script.received w false state k asked = (records, .rest rested due))
    (hleave : w.leave rested = .ok next) :
    InTime w started (k + 1) { next with attempt := next.attempt + 1 } due ∧ asked < due := by
  obtain ⟨hfits, hbegan, hdelay⟩ := h.rest hrests hreceived
  obtain ⟨hwhole, hless, hbefore⟩ := hfits.moves_on
  have hmore : asked < due :=
    Nat.lt_of_le_of_lt (le_answerAt script k asked) hless
  obtain ⟨delay, hnext, rfl⟩ : ∃ delay, w.settings.nextDelay rested.delay = .ok delay ∧
      { rested with delay } = next := by
    rw [Watch.leave] at hleave
    cases hnext : w.settings.nextDelay rested.delay with
    | error cause =>
      rw [hnext] at hleave
      exact absurd hleave (by simp [Except.map])
    | ok delay =>
      rw [hnext] at hleave
      exact ⟨delay, rfl, Except.ok.inj hleave⟩
  refine ⟨⟨hbegan, ?_, hwhole, Nat.le_trans h.after (Nat.le_of_lt hmore), hbefore⟩, hmore⟩
  rw [hdelay] at hnext
  rw [WaitSettings.delayAt, h.delay]
  exact hnext

theorem InTime.leave (h : InTime w started k state asked) (hrests : w.settings.Resting script.factor)
    (hdelay : rested.delay = state.delay) : ∃ next, w.leave rested = .ok next := by
  obtain ⟨delay, hnext⟩ := hrests.delay (k + 1)
  rw [WaitSettings.delayAt, h.delay] at hnext
  refine ⟨{ rested with delay }, ?_⟩
  rw [Watch.leave, hdelay, show w.settings.nextDelay state.delay = .ok delay from hnext]
  rfl

/-- **The end of a wait**: a state that decides, or the end of the time, which is then up. -/
theorem InTime.over (h : InTime w started k state asked) (hrests : w.settings.Resting script.factor)
    (hreceived : script.received w false state k asked = (records, .over outcome)) :
    (w.Terminal outcome ∧ ¬ w.Open (script.answer k w.request)) ∨
      (w.settings.timeout ≤ script.answerAt k asked - started ∧
        ∃ last, outcome = .fault (.waitTimeout w.resource w.settings.timeout last)) := by
  unfold received at hreceived
  by_cases hopen : w.Open (script.answer k w.request)
  · right
    obtain ⟨record, paused, hbegan, hdelay, hreceive⟩ := Watch.receive_of_open hopen state
    rw [hreceive] at hreceived
    have hnext : (w.pause ⟨script.answerAt k asked, false, script.factor k⟩ paused).2 =
        .over outcome := congrArg Prod.snd hreceived
    rcases Watch.pause_over (Prod.ext rfl hnext) with
      ⟨htime, rfl⟩ | ⟨cause, hscaled, -⟩ | ⟨hcancelled, -⟩
    · rw [hbegan, h.began] at htime
      exact ⟨htime, paused.lastState, rfl⟩
    · obtain ⟨rest, hrest, -⟩ := hrests k
      rw [WaitSettings.restAt, h.delay, ← hdelay] at hrest
      exact absurd (hscaled.symm.trans hrest) (by simp)
    · exact absurd hcancelled (by simp)
  · left
    obtain ⟨records', outcome', hterminal, hreceive⟩ := Watch.receive_of_terminal hopen state
    rw [hreceive] at hreceived
    obtain rfl : outcome' = outcome := Watch.Next.over.inj (congrArg Prod.snd hreceived)
    exact ⟨hterminal, hopen⟩

/-! ## 2. All rounds -/

/-- How many whole milliseconds are left up to the deadline. -/
def millisLeft (w : Watch R A) (started asked : Moment) : Nat :=
  ((w.deadline started).nanos - asked.nanos) / 1000000

/-- With every question there is less time left. -/
theorem InTime.millisLeft_lt (h : InTime w started k state asked) {k' : Nat} {state' : WatchState}
    (h' : InTime w started k' state' due) (hless : asked < due) :
    millisLeft w started due < millisLeft w started asked := by
  have hwhole := h.whole
  have hwhole' := h'.whole
  have hbefore := h'.before
  simp only [Duration.lt_iff, Duration.le_iff] at hless hbefore
  unfold millisLeft
  omega

/-- **The rounds come to an end.**  The induction is on the time that is left. -/
theorem InTime.rounds (h : InTime w started k state asked) (hrests : w.settings.Resting script.factor) :
    ∃ later outcome ended, script.Rounds w state k asked later outcome ended := by
  induction hleft : millisLeft w started asked using Nat.strongRecOn generalizing k state asked with
  | _ n ih =>
    rcases hreceived : script.received w false state k asked with ⟨records, next⟩
    cases next with
    | «over» outcome => exact ⟨_, outcome, _, .decided hreceived⟩
    | rest rested due =>
      obtain ⟨-, -, hdelay⟩ := h.rest hrests hreceived
      obtain ⟨next, hleave⟩ := h.leave hrests hdelay
      obtain ⟨hnext, hless⟩ := h.again hrests hreceived hleave
      have hfewer : millisLeft w started due < n := hleft ▸ h.millisLeft_lt hnext hless
      obtain ⟨later, outcome, ended, hrounds⟩ := ih _ hfewer hnext rfl
      exact ⟨_, outcome, ended, .again hreceived hleave hrounds⟩

/-- What holds of the rounds of a wait in time. -/
structure Timely (script : Script R A) (w : Watch R A) (started asked : Moment) (later : List (Entry R A))
    (outcome : Outcome Unit) (ended : Moment) : Prop where
  few : (questionsOf later).length ≤ millisLeft w started asked
  before : ∀ question ∈ questionsOf later, question.moment ≤ w.deadline started
  rests : ∀ e ∈ later, ∀ due, e.event.occurrence = .rested due →
    script.CutToFit w started e.moment due
  outcome : w.Terminal outcome ∨ (w.settings.timeout ≤ ended - started ∧
    ∃ last, outcome = .fault (.waitTimeout w.resource w.settings.timeout last))

/-- **All rounds are in time.** -/
theorem InTime.timely (h : InTime w started k state asked) (hrests : w.settings.Resting script.factor)
    (hrounds : script.Rounds w state k asked later outcome ended) :
    script.Timely w started asked later outcome ended := by
  induction hrounds with
  | @decided state k asked records outcome hreceived =>
    obtain ⟨⟨hnone, -⟩, -⟩ := talk_over script w k asked records
    refine ⟨?_, ?_, fun e he due hrested => ?_, ?_⟩
    · rw [hnone]
      exact Nat.zero_le _
    · rw [hnone]
      simp
    · have hmem : e ∈ script.replyAt w k asked (records.map .noted ++ [].map .rested) := by
        rwa [List.map_nil, List.append_nil]
      exact absurd (rested_replyAt [] hmem hrested).2 List.not_mem_nil
    · exact (h.over hrests hreceived).imp And.left id
  | @stuck state rested k asked due records cause hreceived hleave =>
    obtain ⟨-, -, hdelay⟩ := h.rest hrests hreceived
    obtain ⟨next, hnext⟩ := h.leave hrests hdelay
    exact absurd (hleave.symm.trans hnext) (by simp)
  | @again state rested next k asked due ended records later outcome hreceived hleave _ ih =>
    obtain ⟨hfits, -⟩ := h.rest hrests hreceived
    obtain ⟨hnext, hless⟩ := h.again hrests hreceived hleave
    obtain ⟨hfew, hbefore, hrested, houtcome⟩ := ih hnext
    obtain ⟨⟨hnone, -⟩, -⟩ := talk_rest script w k asked records due
    have hall : questionsOf (script.replyAt w k asked (records.map .noted ++ [.rested due]) ++
        w.question due :: later) = w.question due :: questionsOf later := by
      rw [questionsOf_append, hnone, List.nil_append, Watch.questionsOf_question]
    refine ⟨?_, fun question hquestion => ?_, fun e he due' heq => ?_, houtcome⟩
    · have hfewer := h.millisLeft_lt hnext hless
      have hcount := congrArg List.length hall
      rw [List.length_cons] at hcount
      exact Nat.le_trans (Nat.le_of_eq hcount) (Nat.le_trans (Nat.succ_le_succ hfew) hfewer)
    · have hmem : question ∈ w.question due :: questionsOf later := hall ▸ hquestion
      rcases List.mem_cons.1 hmem with rfl | hmem
      · exact hnext.before
      · exact hbefore question hmem
    · rcases List.mem_append.1 he with he | he
      · obtain ⟨hmoment, hdue⟩ := rested_replyAt [due] he heq
        obtain rfl := List.mem_singleton.1 hdue
        rw [hmoment]
        exact hfits
      · rcases List.mem_cons.1 he with rfl | he
        · exact absurd heq (by simp)
        · exact hrested e he due' heq

/-- **The last question** is asked at the deadline if the answers take no time and decide nothing. -/
theorem InTime.last (h : InTime w started k state asked) (hrests : w.settings.Resting script.factor)
    (hquick : ∀ n, script.latency n = ⟨0⟩) (hopen : ∀ n, w.Open (script.answer n w.request))
    (hrounds : script.Rounds w state k asked later outcome ended) :
    ∃ last, (questionsOf (w.question asked :: later)).getLast? = some last ∧
      last.moment = w.deadline started := by
  induction hrounds with
  | @decided state k asked records outcome hreceived =>
    obtain ⟨⟨hnone, -⟩, -⟩ := talk_over script w k asked records
    refine ⟨w.question asked, by rw [Watch.questionsOf_question, hnone]; rfl, ?_⟩
    rcases h.over hrests hreceived with ⟨-, hterminal⟩ | ⟨htime, -⟩
    · exact absurd (hopen k) hterminal
    · -- The time is up, so the whole millisecond of the question cannot come before the deadline.
      have hwhole := h.whole
      have hafter := h.after
      have hbefore := h.before
      simp only [Watch.deadline, Duration.le_iff, nanos_restEnd, Duration.nanos_sub, answerAt,
        Duration.nanos_add, hquick] at hafter hbefore htime
      refine Duration.nanos_inj.1 ?_
      simp only [Watch.question, Watch.deadline, nanos_restEnd]
      omega
  | @stuck state rested k asked due records cause hreceived hleave =>
    obtain ⟨-, -, hdelay⟩ := h.rest hrests hreceived
    obtain ⟨next, hnext⟩ := h.leave hrests hdelay
    exact absurd (hleave.symm.trans hnext) (by simp)
  | @again state rested next k asked due ended records later outcome hreceived hleave _ ih =>
    obtain ⟨hnext, -⟩ := h.again hrests hreceived hleave
    obtain ⟨last, hlast, hmoment⟩ := ih hnext
    obtain ⟨⟨hnone, -⟩, -⟩ := talk_rest script w k asked records due
    refine ⟨last, ?_, hmoment⟩
    rw [← hlast]
    exact (congrArg List.getLast? (questionsOf_round hnone asked due later)).trans
      List.getLast?_cons_cons

end Script

/-! ## 3. The whole wait -/

/-- **A wait is over in time.**  Let it begin on a whole millisecond, let nobody cancel it, and let every
rest have a length that is not zero.  Then it comes to its end and breaks off nowhere.  It asks at most once
more than the time has milliseconds when these are rounded up, and never after the deadline; it reports that
the time is up only if it is, and whenever it rests, it rests before the time is up, so that what is left of
the time is no less than nothing.  If the answers take no time and decide nothing, its last question is asked
at the deadline. -/
theorem wait_ends_in_time (script : Script R A) (w : Watch R A) {started : Moment}
    (hwhole : 1000000 ∣ started.nanos) (hrests : w.settings.Resting script.factor) :
    script.Ends none w started fun entries s =>
      (∃ outcome, s.state.outcome? = some outcome ∧ ∀ text, outcome ≠ .panic text) ∧
      (questionsOf entries).length ≤ w.settings.timeout.ceilMillis + 1 ∧
      (∀ question ∈ questionsOf entries, question.moment ≤ restEnd started w.settings.timeout) ∧
      (∀ resource timeout last,
        s.state.outcome? = some (.fault (.waitTimeout resource timeout last)) →
        w.settings.timeout ≤ s.now - started) ∧
      (∀ e ∈ entries, ∀ due, e.event.occurrence = .rested due →
        started ≤ e.moment ∧ ∃ n rest left, w.settings.restAt script.factor n = .ok rest ∧
          rest.nanos ≠ 0 ∧ left.nanos ≠ 0 ∧ (e.moment - started) + left = w.settings.timeout ∧
          due = restEnd e.moment (min rest left)) ∧
      ((∀ n, script.latency n = ⟨0⟩) → (∀ n, w.Open (script.answer n w.request)) →
        ∃ last, (questionsOf entries).getLast? = some last ∧
          last.moment = restEnd started w.settings.timeout) := by
  have hfirst := Script.InTime.first (w := w) hwhole
  obtain ⟨later, outcome, ended, hrounds⟩ := hfirst.rounds hrests
  have htimely := hfirst.timely hrests hrounds
  have hrun := Script.run_iff_rounds.2 ⟨later, outcome, ended, hrounds, rfl, rfl⟩
  refine hrun.ends ⟨⟨outcome, rfl, ?_⟩, ?_, ?_, ?_, ?_, fun hquick hopen => ?_⟩
  · rcases htimely.outcome with (rfl | ⟨state, rfl⟩) | ⟨-, last, rfl⟩ <;> simp [Watch.failed]
  · have hmillis : Script.millisLeft w started started = w.settings.timeout.ceilMillis := by
      simp only [Script.millisLeft, Watch.deadline, nanos_restEnd, Duration.ceilMillis]
      omega
    exact Nat.succ_le_succ (hmillis ▸ htimely.few)
  · intro question hquestion
    rcases List.mem_cons.1 (show question ∈ w.question started :: questionsOf later from hquestion) with
      rfl | hquestion
    · exact hfirst.before
    · exact htimely.before question hquestion
  · intro resource timeout last hlast
    obtain rfl : outcome = _ := Option.some.inj hlast
    rcases htimely.outcome with (hok | ⟨state, hfailed⟩) | ⟨htime, -⟩
    · exact absurd hok (by simp)
    · exact absurd hfailed (by simp [Watch.failed])
    · exact htime
  · intro e he due hrested
    rcases List.mem_append.1 he with he | he
    · obtain ⟨event, hevent, rfl⟩ := List.mem_map.1 he
      obtain ⟨o, ho, rfl⟩ := List.mem_map.1 hevent
      obtain rfl : o = .rested due := hrested
      simp at ho
    · exact htimely.rests e he due hrested
  · exact hfirst.last hrests hquick hopen hrounds

namespace Sample

open Rehearsal

/-- A wait of ten seconds and half a millisecond, with rests of three seconds. -/
def longArrival : Goal Question Question.Answer String :=
  stateGoal "demo" "waiting for arrival" "THERE" ["LOST"] (.fixed (.ofParts 10 500000) (.ofWhole 3))

/-- Every answer comes at once, and none decides anything. -/
def standstill : Script Question Question.Answer where
  latency _ := ⟨0⟩
  answer _
    | .state => .ok "UNDERWAY"
  factor _ := 1

/-- The rests of the wait are not empty. -/
theorem longArrival_resting : longArrival.watch.settings.Resting standstill.factor := by
  have hvalid : longArrival.watch.settings.validate = .ok () :=
    eq_ok_of_toOption (by decide +kernel)
  have hone : WaitSettings.IsJitter 1 := by decide +kernel
  exact WaitSettings.resting_of_validate hvalid (by decide) (fun hjitter => absurd hjitter (by decide))
    fun _ => hone

end Sample

/-- The last question of a wait of ten seconds and half a millisecond comes after ten seconds and one. -/
theorem wait_ends_in_time_of_standstill :
    ∃ entries s last, Sample.standstill.Run none Sample.longArrival.watch ⟨0⟩ entries s ∧
      (questionsOf entries).getLast? = some last ∧ last.moment = .ofParts 10 1000000 := by
  have hwhole : 1000000 ∣ (⟨0⟩ : Moment).nanos := by decide
  obtain ⟨⟨entries, s, hrun⟩, hall⟩ :=
    wait_ends_in_time Sample.standstill Sample.longArrival.watch hwhole Sample.longArrival_resting
  obtain ⟨-, -, -, -, -, hlast⟩ := hall entries s hrun
  have hopen : ∀ n, Sample.longArrival.watch.Open
      (Sample.standstill.answer n Sample.longArrival.watch.request) := by
    intro n value hvalue
    obtain rfl : value = "UNDERWAY" := (Except.ok.inj hvalue).symm
    decide
  obtain ⟨last, hlast, hmoment⟩ := hlast (fun _ => rfl) hopen
  exact ⟨entries, s, last, hrun, hlast, hmoment⟩

end Teardown
