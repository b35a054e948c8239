/-
# A wait that is cancelled

Two runs of one wait with one script are compared: in the first nobody cancels it, in the second
it is cancelled at a moment at which nothing happens in the first.  What the cancellation does is
a matter of the last question alone (`wait_cut_short`).  If the last question was asked before,
the answer to it ends the wait as it would have ended without the cancellation, with everything in
between.  If it would have been asked after, the wait is interrupted: no question is asked after
the cancellation, and the wait is over at once if it rests then, or as soon as the answer is there
that it waits for.

The reason is that a cancelled wait differs in a single place: instead of a rest it takes its end
(`Watch.receive_cutOff`).  So the two runs are compared round by round (`Script.Rounds.leadsCut`).
The cancellation falls into one window of one round, before the answer to its question or into the
rest after it; the rounds before that are the same in both runs (`leadsCut_again`), and what the
first run does later is of no interest any more.

The moment of the cancellation is not one at which something happens in the first run, for then
the order of the two would have to be said, and both orders are possible.
-/
import Teardown.Proofs.Rounds

namespace Teardown

variable {R : Type} {A : R → Type}

/-! ## 1. Two runs -/

/-- The questions among some entries that were asked before a moment. -/
def questionsBefore (moment : Moment) (entries : List (Entry R A)) : List (Entry R A) :=
  (questionsOf entries).filter fun e => decide (e.moment < moment)

/-- What happens after a moment, has no questions before it. -/
theorem questionsBefore_eq_nil {moment : Moment} {entries : List (Entry R A)}
    (h : ∀ e ∈ entries, moment < e.moment) : questionsBefore moment entries = [] := by
  refine List.filter_eq_nil_iff.2 fun e he => ?_
  have hless : ¬ e.moment < moment :=
    Nat.not_lt.2 (Nat.le_of_lt (h e (List.mem_of_mem_filter he)))
  simp [hless]

/-- A question that was asked before a moment, with those that were asked after it. -/
theorem Watch.questionsBefore_question (w : Watch R A) {asked moment : Moment} (h : asked < moment)
    (entries : List (Entry R A)) : questionsBefore moment (w.question asked :: entries) =
      w.question asked :: questionsBefore moment entries :=
  List.filter_cons_of_pos (decide_eq_true h)

namespace Script

variable {script : Script R A} {w : Watch R A} {state rested : WatchState} {k : Nat}
  {asked ended moment started : Moment} {records : List Record} {outcome : Outcome Unit}
  {later entries : List (Entry R A)}

/-- How a wait that is cancelled at a moment compares with the same wait without a cancellation: what
happens, what comes out, and when. -/
structure CutShort (w : Watch R A) (moment : Moment) (entries : List (Entry R A)) (outcome : Outcome Unit)
    (ended : Moment) (entries' : List (Entry R A)) (outcome' : Outcome Unit) (ended' : Moment) :
    Prop where
  kept : ∀ last, (questionsOf entries).getLast? = some last → last.moment < moment →
    outcome' = outcome ∧ ended' = ended ∧ uncancelled entries' = entries
  cut : ∀ last, (questionsOf entries).getLast? = some last → moment < last.moment →
    outcome' = .fault w.interrupted ∧ questionsOf entries' = questionsBefore moment entries ∧
      ∃ n reply, (questionsOf entries').length = n + 1 ∧ (repliesOf entries)[n]? = some reply ∧
        (moment < reply.moment → ended' = reply.moment) ∧
        (reply.moment < moment → ended' = moment)

/-- The last round is asked before the cancellation: nothing is lost. -/
theorem CutShort.of_last {entries' : List (Entry R A)} (hmoment : asked < moment)
    (hentries : questionsOf entries = []) (hsame : uncancelled entries' = entries) :
    CutShort w moment (w.question asked :: entries) outcome ended (w.question asked :: entries')
      outcome ended := by
  have hlast : ∀ last, (questionsOf (w.question asked :: entries)).getLast? = some last →
      last = w.question asked := by
    intro last hlast
    rw [Watch.questionsOf_question, hentries] at hlast
    exact (Option.some.inj hlast).symm
  constructor
  · intro last _ _
    exact ⟨rfl, rfl, congrArg (w.question asked :: ·) hsame⟩
  · intro last heq hless
    obtain rfl := hlast last heq
    exact absurd (Nat.lt_trans hless hmoment) (Nat.lt_irrefl moment.nanos)

/-- The next round would be asked after the cancellation: there is no further one. -/
theorem CutShort.of_next {due : Moment} {reply : Entry R A} {entries' front back : List (Entry R A)}
    (hmoment : asked < moment) (hfront : questionsOf front = [] ∧ repliesOf front = [reply])
    (hback : ∀ e ∈ w.question due :: back, moment < e.moment) (hentries : questionsOf entries' = [])
    (hended : (moment < reply.moment → ended = reply.moment) ∧
      (reply.moment < moment → ended = moment)) (outcome' : Outcome Unit) (ended' : Moment) :
    CutShort w moment (w.question asked :: (front ++ w.question due :: back)) outcome' ended'
      (w.question asked :: entries') (.fault w.interrupted) ended := by
  have hquestions : questionsOf (w.question asked :: entries') = [w.question asked] := by
    rw [Watch.questionsOf_question, hentries]
  constructor
  · intro last hlast hless
    rw [questionsOf_round hfront.1, List.getLast?_cons_cons, ← Watch.questionsOf_question] at hlast
    have hmore := hback last (List.mem_of_mem_filter (List.mem_of_getLast? hlast))
    exact absurd (Nat.lt_trans hless hmore) (Nat.lt_irrefl last.moment.nanos)
  · intro last _ _
    refine ⟨rfl, ?_, 0, reply, congrArg List.length hquestions, ?_, hended⟩
    · have hnone : questionsBefore moment (front ++ w.question due :: back) = [] := by
        rw [questionsBefore, questionsOf_append, hfront.1]
        exact questionsBefore_eq_nil hback
      rw [hquestions, w.questionsBefore_question hmoment, hnone]
    · rw [Watch.repliesOf_question, repliesOf_append, hfront.2]
      rfl

/-- A further round before the cancellation changes nothing. -/
theorem CutShort.round {entries' front : List (Entry R A)} {due : Moment} {reply : Entry R A}
    {outcome' : Outcome Unit} {ended' : Moment} (hmoment : asked < moment)
    (hfront : questionsOf front = [] ∧ repliesOf front = [reply]) (hsame : uncancelled front = front)
    (h : CutShort w moment (w.question due :: entries) outcome ended (w.question due :: entries')
      outcome' ended') :
    CutShort w moment (w.question asked :: (front ++ w.question due :: entries)) outcome ended
      (w.question asked :: (front ++ w.question due :: entries')) outcome' ended' := by
  have hlast : (questionsOf (w.question asked :: (front ++ w.question due :: entries))).getLast? =
      (questionsOf (w.question due :: entries)).getLast? := by
    rw [questionsOf_round hfront.1, List.getLast?_cons_cons, Watch.questionsOf_question]
  constructor
  · intro last heq hless
    obtain ⟨rfl, rfl, hentries⟩ := h.kept last (hlast ▸ heq) hless
    refine ⟨rfl, rfl, congrArg (w.question asked :: ·) ?_⟩
    change uncancelled (front ++ _) = _
    rw [uncancelled_append, hsame, hentries]
  · intro last heq hless
    obtain ⟨rfl, hquestions, n, reply', hlength, hreply, hended⟩ := h.cut last (hlast ▸ heq) hless
    have hmore : questionsOf (w.question asked :: (front ++ w.question due :: entries')) =
        w.question asked :: questionsOf (w.question due :: entries') := by
      rw [questionsOf_round hfront.1, Watch.questionsOf_question]
    refine ⟨rfl, ?_, n + 1, reply', ?_, ?_, hended⟩
    · rw [hmore, hquestions, w.questionsBefore_question hmoment]
      rw [questionsBefore, questionsBefore, questionsOf_append, hfront.1, List.nil_append]
    · rw [hmore, List.length_cons, hlength]
    · rw [Watch.repliesOf_question, repliesOf_append, hfront.2]
      exact hreply

/-- The next question comes after the cancellation, and so does all that happens from then on. -/
theorem Rounds.late {due : Moment} (h : script.Rounds w state k due later outcome ended)
    (hmoment : moment < due) : ∀ e ∈ w.question due :: later, moment < e.moment := by
  intro e he
  rcases List.mem_cons.1 he with rfl | he
  · exact hmoment
  · exact Nat.lt_of_lt_of_le hmoment (h.le_moment e he)

theorem received_cutOff {next : Watch.Next}
    (h : script.received w false state k asked = (records, next)) :
    script.received w true state k asked = (records, next.cutOff w) := by
  rw [received, Watch.receive_cutOff, ← received, h]

theorem le_of_mem_some (h : ended < moment) : ∀ other ∈ some moment, ended ≤ other := by
  intro other hother
  obtain rfl := Option.mem_some.1 hother
  exact Nat.le_of_lt h

/-- From a question on, the wait that is cancelled at a moment comes to an end that compares so with what
happens if nobody cancels it. -/
def LeadsCut (script : Script R A) (w : Watch R A) (moment : Moment) (state : WatchState) (k : Nat)
    (asked : Moment) (later : List (Entry R A)) (outcome : Outcome Unit) (ended : Moment) : Prop :=
  ∃ later' q outcome' ended' cancelled,
    script.Leads (some moment) (.looking w state k asked asked false) later' q ∧
    q.situation = ⟨.done outcome', ended', cancelled, false⟩ ∧
    CutShort w moment (w.question asked :: later) outcome ended (w.question asked :: later') outcome'
      ended'

section Windows

variable {due : Moment} {next : WatchState}

/-- A cancellation before or after an answer that decides changes nothing. -/
theorem leadsCut_decided (hreceived : script.received w false state k asked = (records, .over outcome))
    (hmoment : asked < moment) (hapart : script.answerAt k asked ≠ moment) :
    script.LeadsCut w moment state k asked (script.replyAt w k asked (records.map .noted)) outcome
      (script.answerAt k asked) := by
  obtain ⟨⟨hnone, -⟩, hsame⟩ := talk_over script w k asked records
  have hnow := le_answerAt script k asked
  rcases Nat.lt_or_gt_of_ne (mt Duration.nanos_inj.1 hapart) with hless | hless
  · -- The answer comes first.
    refine ⟨_, _, outcome, _, false,
      .step (step?_decided hreceived hnow (.inr (le_of_mem_some hless))) (.here _), rfl,
      CutShort.of_last hmoment hnone ?_⟩
    rw [List.append_nil, hsame]
  · -- The cancellation comes while the question is open.
    refine ⟨_, _, outcome, _, true, .step (step?_cancel_looking (Nat.le_of_lt hmoment) hless)
      (.step (step?_decided (received_cutOff hreceived) (Nat.le_of_lt hless) (.inl rfl)) (.here _)),
      rfl, CutShort.of_last hmoment hnone ?_⟩
    rw [List.append_nil, uncancelled_append, hsame]
    rfl

/-- After a cancellation while the question is open, no rest follows the answer. -/
theorem leadsCut_open (hreceived : script.received w false state k asked = (records, .rest rested due))
    (hmoment : asked < moment) (hless : moment < script.answerAt k asked)
    (hrounds : script.Rounds w next (k + 1) due later outcome ended) :
    script.LeadsCut w moment state k asked
      (script.replyAt w k asked (records.map .noted ++ [.rested due]) ++ w.question due :: later)
      outcome ended := by
  obtain ⟨hfront, -⟩ := talk_rest script w k asked records due
  obtain ⟨⟨hnone, -⟩, -⟩ := talk_over script w k asked records
  have hlate : moment < due := Nat.lt_of_lt_of_le hless (Watch.le_due hreceived)
  refine ⟨_, _, _, script.answerAt k asked, true,
    .step (step?_cancel_looking (Nat.le_of_lt hmoment) hless)
      (.step (step?_decided (received_cutOff hreceived) (Nat.le_of_lt hless) (.inl rfl)) (.here _)),
    rfl, CutShort.of_next hmoment hfront (hrounds.late hlate) ?_ ⟨fun _ => rfl, fun hmore => ?_⟩ _ _⟩
  · rw [List.append_nil, questionsOf_append, hnone]
    rfl
  · exact absurd (Nat.lt_trans hless hmore) (Nat.lt_irrefl _)

/-- A cancellation during a rest ends it. -/
theorem leadsCut_resting (hreceived : script.received w false state k asked = (records, .rest rested due))
    (hmoment : asked < moment) (hless : script.answerAt k asked < moment) (hend : moment < due)
    (hrounds : script.Rounds w next (k + 1) due later outcome ended) :
    script.LeadsCut w moment state k asked
      (script.replyAt w k asked (records.map .noted ++ [.rested due]) ++ w.question due :: later)
      outcome ended := by
  obtain ⟨hfront, -⟩ := talk_rest script w k asked records due
  have hnow := le_answerAt script k asked
  refine ⟨_, _, _, moment, true,
    .step (step?_rested hreceived hnow (.inr (le_of_mem_some hless)))
      (.step (step?_cancel_resting (Nat.le_of_lt hless) hend) (.step step?_interrupt (.here _))),
    rfl, CutShort.of_next hmoment hfront (hrounds.late hend) ?_ ⟨fun hmore => ?_, fun _ => rfl⟩ _ _⟩
  · rw [questionsOf_append, hfront.1]
    rfl
  · exact absurd (Nat.lt_trans hless hmore) (Nat.lt_irrefl _)

/-- A round that is over before the cancellation is as it would have been. -/
theorem leadsCut_again (hreceived : script.received w false state k asked = (records, .rest rested due))
    (hleave : w.leave rested = .ok next) (hmoment : asked < moment) (hend : due < moment)
    (h : script.LeadsCut w moment { next with attempt := next.attempt + 1 } (k + 1) due later outcome
      ended) :
    script.LeadsCut w moment state k asked
      (script.replyAt w k asked (records.map .noted ++ [.rested due]) ++ w.question due :: later)
      outcome ended := by
  obtain ⟨later', q, outcome', ended', cancelled, hleads, hq, hcut⟩ := h
  obtain ⟨hfront, hsame⟩ := talk_rest script w k asked records due
  have hnow := le_answerAt script k asked
  have hdue : script.answerAt k asked ≤ due := Watch.le_due hreceived
  have hless : script.answerAt k asked < moment := Nat.lt_of_le_of_lt hdue hend
  have hrests := step?_rested hreceived hnow (.inr (le_of_mem_some hless))
  exact ⟨_, q, outcome', ended', cancelled,
    .step hrests (.step (step?_again hleave hdue (le_of_mem_some hend)) hleads), hq,
    hcut.round hmoment hfront hsame⟩

end Windows

/-- **A wait and its cancellation**, from a question that is asked before it: the cancellation comes in one
of the windows of this round, or in a later one. -/
theorem Rounds.leadsCut (h : script.Rounds w state k asked later outcome ended)
    (hdecided : ∀ text, outcome ≠ .panic text) (hmoment : asked < moment)
    (hapart : ∀ e ∈ later, e.moment ≠ moment) :
    script.LeadsCut w moment state k asked later outcome ended := by
  induction h with
  | stuck => exact absurd rfl (hdecided _)
  | @decided _ k asked _ _ hreceived =>
    exact leadsCut_decided hreceived hmoment
      (hapart (script.answerEntry w k asked) List.mem_cons_self)
  | @again _ _ _ k asked due _ records later _ hreceived hleave hrounds ih =>
    have hmem : w.question due ∈ script.replyAt w k asked (records.map .noted ++ [.rested due]) ++
        w.question due :: later := List.mem_append_right _ List.mem_cons_self
    rcases Nat.lt_or_gt_of_ne (mt Duration.nanos_inj.1
      (hapart (script.answerEntry w k asked) List.mem_cons_self)) with hless | hless
    · rcases Nat.lt_or_gt_of_ne (mt Duration.nanos_inj.1 (hapart _ hmem)) with hend | hend
      · refine leadsCut_again hreceived hleave hmoment hend (ih hdecided hend fun e he => ?_)
        exact hapart e (List.mem_append_right _ (List.mem_cons_of_mem _ he))
      · exact leadsCut_resting hreceived hmoment hless hend hrounds
    · exact leadsCut_open hreceived hmoment hless hrounds

/-- A wait that is cancelled when it begins asks nothing. -/
theorem start_of_earlier (h : moment ≤ started) : script.start (some moment) w started =
    (entriesAt started [.noted w.opening],
      ⟨⟨.done (.fault w.interrupted), started, true, false⟩, 0, started⟩) := by
  have hany : ((some moment).any fun moment => decide (moment ≤ started)) = true := by
    simpa using h
  rw [start, hany]
  rfl

end Script

/-! ## 2. The whole wait -/

/-- **A wait that is cancelled**, compared with the same wait when nobody cancels it.  A wait that is
cancelled before it begins asks nothing.  Otherwise let there be a run without the cancellation that ends
with an outcome, and let the cancellation come at a moment at which nothing happens in it.  If the last
question of that run was asked before the cancellation, the cancelled wait comes out in the same way and at
the same time, and nothing else happens in it.  If not, it is interrupted; its questions are those that were
asked before, and it ends at once, or when the answer to the last of them is there. -/
theorem wait_cut_short (script : Script R A) (w : Watch R A) (started moment : Moment) :
    (moment ≤ started → script.Ends (some moment) w started fun entries s =>
      s.state.outcome? = some (.fault w.interrupted) ∧ questionsOf entries = [] ∧ s.now = started) ∧
    ∀ entries s outcome, script.Run none w started entries s → s.state.outcome? = some outcome →
      (∀ text, outcome ≠ .panic text) → started < moment → (∀ e ∈ entries, e.moment ≠ moment) →
      List.Forall₂ (fun question reply => question.moment ≤ reply.moment) (questionsOf entries)
        (repliesOf entries) ∧
      ∃ last, (questionsOf entries).getLast? = some last ∧
        script.Ends (some moment) w started fun entries' s' =>
          (last.moment < moment → s'.state.outcome? = some outcome ∧ s'.now = s.now ∧
            uncancelled entries' = entries) ∧
          (moment < last.moment → s'.state.outcome? = some (.fault w.interrupted) ∧
            questionsOf entries' = questionsBefore moment entries ∧
            ∃ n reply, (questionsOf entries').length = n + 1 ∧ (repliesOf entries)[n]? = some reply ∧
              (moment < reply.moment → s'.now = reply.moment) ∧
              (reply.moment < moment → s'.now = moment)) := by
  constructor
  · intro hmoment
    have hstart : script.start (some moment) w started = _ := Script.start_of_earlier hmoment
    have hrun : script.Run (some moment) w started (entriesAt started [.noted w.opening])
        ⟨.done (.fault w.interrupted), started, true, false⟩ := by
      refine ⟨[], (script.start (some moment) w started).2, .here _, ?_, rfl, ?_⟩
      · rw [hstart]
      · rw [hstart, List.append_nil]
    exact hrun.ends ⟨rfl, rfl, rfl⟩
  · intro entries s outcome hrun houtcome hdecided hmoment hapart
    obtain ⟨later, outcome', ended, hrounds, rfl, rfl⟩ := Script.run_iff_rounds.1 hrun
    obtain rfl : outcome' = outcome := Option.some.inj houtcome
    obtain ⟨later', q, outcome', ended', cancelled, hleads, hq, hcut⟩ := hrounds.leadsCut hdecided
      hmoment fun e he => hapart e (List.mem_append_right _ he)
    have hstart : script.start (some moment) w started = (Script.begin w started,
        .looking w (Script.first w started) 0 started started false) :=
      Script.start_of_later fun other hother => Option.some.inj hother ▸ hmoment
    have hrun' : script.Run (some moment) w started (Script.begin w started ++ later')
        ⟨.done outcome', ended', cancelled, false⟩ := by
      refine ⟨later', q, ?_, hq, rfl, ?_⟩
      · rw [hstart]
        exact hleads
      · rw [hstart]
    obtain ⟨last, hlast⟩ : ∃ last,
        (questionsOf (w.question started :: later)).getLast? = some last :=
      ⟨_, List.getLast?_cons ..⟩
    refine ⟨hrounds.paired, last, hlast, hrun'.ends ⟨fun hless => ?_, fun hless => ?_⟩⟩
    · obtain ⟨rfl, rfl, hsame⟩ := hcut.kept last hlast hless
      exact ⟨rfl, rfl, congrArg (List.cons (⟨started, [], .noted w.opening⟩ : Entry R A)) hsame⟩
    · obtain ⟨rfl, hquestions, hended⟩ := hcut.cut last hlast hless
      exact ⟨rfl, hquestions, hended⟩

namespace Sample

open Rehearsal

/-- Every answer takes two seconds, and the third one shows the success. -/
def arrivalScript : Script Question Question.Answer where
  latency _ := .ofWhole 2
  answer n
    | .state => .ok (if n < 2 then "UNDERWAY" else "THERE")
  factor _ := 1

/-- The wait that nobody cancels. -/
def arrivalWait : List (Entry Question Question.Answer) ×
    Situation (Thread Question Question.Answer Unit) :=
  arrivalScript.perform none 5 arrival.watch ⟨0⟩

end Sample

/-- A wait that succeeds after twelve seconds, is cancelled after six: there is no third question, and the
wait is over after seven seconds, with the answer to the second one. -/
theorem wait_cut_short_of_arrival :
    ∃ entries s, Sample.arrivalScript.Run (some (.ofWhole 6)) Sample.arrival.watch ⟨0⟩ entries s ∧
      s.state.outcome? = some (.fault Sample.arrival.watch.interrupted) ∧
      (questionsOf entries).map Entry.moment = [.ofWhole 0, .ofWhole 5] ∧ s.now = .ofWhole 7 := by
  have hends : (Sample.arrivalWait.2.state.outcome?.map Outcome.isOk,
      Sample.arrivalWait.1.all fun e => decide (e.moment ≠ .ofWhole 6)) = (some true, true) := by
    decide +kernel
  have htimes : ((questionsOf Sample.arrivalWait.1).map Entry.moment,
      (repliesOf Sample.arrivalWait.1).map Entry.moment) =
      ([.ofWhole 0, .ofWhole 5, .ofWhole 10], [.ofWhole 2, .ofWhole 7, .ofWhole 12]) := by
    decide +kernel
  obtain ⟨hok, hall⟩ := Prod.mk.inj hends
  obtain ⟨hasked, hreplied⟩ := Prod.mk.inj htimes
  obtain ⟨outcome, houtcome, hisOk⟩ := Option.map_eq_some_iff.1 hok
  have hrun : Sample.arrivalScript.Run none Sample.arrival.watch ⟨0⟩ Sample.arrivalWait.1
      Sample.arrivalWait.2 := by
    refine Script.run_perform ?_
    have hsome := congrArg Option.isSome houtcome
    exact hsome
  have hdecided : ∀ text, outcome ≠ .panic text := by
    rintro text rfl
    exact absurd hisOk (by simp [Outcome.isOk])
  have hapart : ∀ e ∈ Sample.arrivalWait.1, e.moment ≠ .ofWhole 6 :=
    fun e he => of_decide_eq_true (List.all_eq_true.1 hall e he)
  obtain ⟨-, last, hlast, ⟨entries, s, hcut⟩, hends⟩ :=
    (wait_cut_short Sample.arrivalScript Sample.arrival.watch ⟨0⟩ (.ofWhole 6)).2 _ _ outcome hrun
      houtcome hdecided (by decide) hapart
  obtain ⟨-, hlate⟩ := hends entries s hcut
  have hmoment : last.moment = .ofWhole 10 := by
    have hmapped := congrArg List.getLast? hasked
    rw [List.getLast?_map, hlast] at hmapped
    exact Option.some.inj hmapped
  obtain ⟨hinterrupted, hquestions, n, reply, hlength, hreply, hflight, -⟩ :=
    hlate (hmoment ▸ by decide)
  have hbefore : (questionsBefore (.ofWhole 6) Sample.arrivalWait.1).map Entry.moment =
      [.ofWhole 0, .ofWhole 5] := by decide +kernel
  obtain rfl : n = 1 := by
    have hcount := congrArg List.length hbefore
    rw [← hquestions, List.length_map, hlength] at hcount
    exact Nat.succ.inj hcount
  have hend : reply.moment = .ofWhole 7 := by
    have hmapped := congrArg (·[1]?) hreplied
    simp only [List.getElem?_map] at hmapped
    rw [hreply] at hmapped
    exact Option.some.inj hmapped
  refine ⟨entries, s, hcut, hinterrupted, ?_, ?_⟩
  · rw [hquestions, hbefore]
  · rw [hflight (hend ▸ by decide), hend]

end Teardown
