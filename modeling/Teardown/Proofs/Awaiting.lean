/-
# How an awaited goal comes out

A wait comes out as its polls say.  The value comes out exactly if a poll shows the success; the
failure comes out exactly if a poll shows one, and it names the state; whatever decides does so as
the last poll (`Goal.Awaited`).  Without such a poll only the cancellation ends the wait, or a
delay that has no duration.

`Goal.Faring.awaited` says so of every wait that may be cancelled, with a conclusion to come.  It
rests on two cases.  If a poll has decided, it is the last one, and what comes out is its result
(`Awaited.of_decided`).  If none has, the wait is open, and every way in which it can go on is
possible (`GoesOn`), or it was cut off (`Awaited.of_open`).

* §1  what a result says about the last poll, and what that says about all polls.  A state that
      ends the wait can only be shown by the last poll, so "the last poll shows it" and "a poll
      shows it" come to the same (`exists_shown_iff`).
* §2  the two cases, and both together.

The statement is one record with named parts rather than a conjunction, since it is used for
stacks and for updates, each time with other names for the states.
-/
import Teardown.Proofs.Conclusions

namespace Teardown

variable {R : Type} {A : R → Type} {S α : Type}

/-! ## 1. Results -/

namespace Goal

variable [BEq S] {g : Goal R A S} {started : Moment} {polls front : List (Poll g)} {poll : Poll g}
  {asked : Nat} {value : α}

/-- A poll shows a state with a given meaning. -/
def Shows (g : Goal R A S) (verdict : Verdict) (poll : Poll g) (state : S) : Prop :=
  g.observed? poll = some state ∧ g.verdict state = verdict

/-- What comes out if the last poll shows a state. -/
theorem result_of_observed {state : S} (h : g.observed? poll = some state) :
    g.result (front ++ [poll]) =
      match g.verdict state with
      | .success => .ok ()
      | .failure => .fault (g.watch.failed (g.word state))
      | .undecided =>
        .fault (.waitTimeout g.resource g.settings.timeout (g.lastState (front ++ [poll]))) := by
  rw [result, List.getLast?_concat, Option.bind_some, h]
  unfold verdict
  by_cases hsuccess : (state == g.success) = true
  · simp only [hsuccess, if_true]
  · by_cases hfailure : g.failures.contains state = true
    · simp only [hsuccess, hfailure, if_true]
      rfl
    · simp only [hsuccess, hfailure]
      rfl

/-- A wait that a poll has decided is a success exactly if this poll shows the success. -/
theorem result_eq_ok_iff :
    g.result (front ++ [poll]) = .ok () ↔ ∃ state, g.Shows .success poll state := by
  constructor
  · intro hok
    cases hstate : g.observed? poll with
    | none =>
      rw [result_eq_timedOut fun state hsome => by rw [hstate] at hsome; cases hsome] at hok
      exact absurd hok (by simp)
    | some state =>
      rw [result_of_observed hstate] at hok
      refine ⟨state, hstate, ?_⟩
      cases hverdict : g.verdict state with
      | success => rfl
      | failure | undecided =>
        rw [hverdict] at hok
        exact absurd hok (by simp)
  · rintro ⟨state, hstate, hverdict⟩
    rw [result_of_observed hstate, hverdict]

/-- It is a failure exactly if this poll shows one, and the failure names the state. -/
theorem result_eq_failed_iff {word : String} :
    g.result (front ++ [poll]) = .fault (g.watch.failed word) ↔
      ∃ state, g.Shows .failure poll state ∧ g.word state = word := by
  constructor
  · intro hfailed
    cases hstate : g.observed? poll with
    | none =>
      rw [result_eq_timedOut fun state hsome => by rw [hstate] at hsome; cases hsome] at hfailed
      exact absurd hfailed (by simp [Watch.failed])
    | some state =>
      rw [result_of_observed hstate] at hfailed
      cases hverdict : g.verdict state with
      | failure =>
        rw [hverdict] at hfailed
        refine ⟨state, ⟨hstate, hverdict⟩, ?_⟩
        simpa [Watch.failed] using hfailed
      | success | undecided =>
        rw [hverdict] at hfailed
        exact absurd hfailed (by simp [Watch.failed])
  · rintro ⟨state, ⟨hstate, hverdict⟩, rfl⟩
    rw [result_of_observed hstate, hverdict]

theorem Shows.decides {verdict : Verdict} {state : S} (h : g.Shows verdict poll state)
    (hverdict : verdict ≠ .undecided) : g.Decides started poll :=
  .inl ⟨state, h.1, h.2.symm ▸ hverdict⟩

/-- What none of the earlier polls shows is shown by a poll exactly if the last one shows it. -/
theorem exists_shown_iff {shows : Poll g → Prop} (hdecides : ∀ other, shows other → g.Decides started other)
    (hfront : ∀ other ∈ front, ¬ g.Decides started other) :
    (∃ other ∈ front ++ [poll], shows other) ↔ shows poll := by
  constructor
  · rintro ⟨other, hother, hshows⟩
    rcases List.mem_append.1 hother with hother | hother
    · exact absurd (hdecides other hshows) (hfront other hother)
    · rwa [← List.mem_singleton.1 hother]
  · intro hshows
    exact ⟨poll, List.mem_append_right _ List.mem_cons_self, hshows⟩

/-! ## 2. What is said of a wait -/

/-- How a wait goes on: a question is open, which may be answered in every way; or there is a rest, which the
cancellation ends without a further question, and after which there is another question otherwise. -/
def GoesOn (g : Goal R A S) (polls : List (Poll g)) (asked : Nat) (s : Situation (Thread R A α)) : Prop :=
  (asked = polls.length + 1 ∧ ∀ answer factor,
    (s.after? (Thread.process R A α) (.resume [] (.reply answer) factor)).isSome = true) ∨
  (asked = polls.length ∧
    (s.cancelled = true → ∀ factor, ∃ s', s.after? (Thread.process R A α)
      (.resume [] .interrupt factor) = some ([], s') ∧
        s'.state.outcome? = some (.fault g.watch.interrupted)) ∧
    (s.cancelled = false → ∃ length, ∀ factor, ∃ more s',
      s.follow (Thread.process R A α) [.pass length, .resume [] .wake factor] = some (more, s') ∧
        (requestCount more = 1 ∨ ∃ cause, s'.state.outcome? = some (.overflow cause))))

/-- `Awaited g started value polls asked s`: what is said of a wait that began at a moment and that has a value,
after some polls and as many questions as were asked. -/
structure Awaited (g : Goal R A S) (started : Moment) (value : α) (polls : List (Poll g)) (asked : Nat)
    (s : Situation (Thread R A α)) : Prop where
  /-- The first poll that decides is the last one, no question follows it, and what comes out is the result. -/
  decided : ∀ n poll, polls[n]? = some poll → g.Decides started poll →
    n + 1 = polls.length ∧ asked = polls.length ∧
      s.state.outcome? = some ((g.result polls).map fun _ => value)
  /-- The value comes out if a poll shows the success, and only then. -/
  succeeded : s.state.outcome? = some (.ok value) ↔
    ∃ poll ∈ polls, ∃ state, g.Shows .success poll state
  /-- The failure comes out if a poll shows one, and only then, and it names the state. -/
  failed : ∀ word, s.state.outcome? = some (.fault (g.watch.failed word)) ↔
    ∃ poll ∈ polls, ∃ state, g.Shows .failure poll state ∧ g.word state = word
  /-- Without a poll that decides, only the cancellation ends the wait, or a delay without a duration. -/
  ends : (∀ poll ∈ polls, ¬ g.Decides started poll) → ∀ outcome, s.state.outcome? = some outcome →
    (s.cancelled = true ∧ outcome = .fault g.watch.interrupted) ∨ ∃ cause, outcome = .overflow cause
  /-- As long as the wait is not over, it goes on. -/
  goesOn : (∀ poll ∈ polls, ¬ g.Decides started poll) → s.state.outcome? = none → s.dropped = false →
    g.GoesOn polls asked s

variable {s : Situation (Thread R A α)}

/-- A wait that a poll has decided. -/
theorem Awaited.of_decided (hfront : ∀ other ∈ front, ¬ g.Decides started other)
    (hpoll : g.Decides started poll)
    (hstate : s.state = .done ((g.result (front ++ [poll])).map fun _ => value)) :
    g.Awaited started value (front ++ [poll]) (front.length + 1) s := by
  have houtcome : s.state.outcome? = some ((g.result (front ++ [poll])).map fun _ => value) := by
    rw [hstate]
    rfl
  have hmem : poll ∈ front ++ [poll] := List.mem_append_right _ List.mem_cons_self
  have hlength : (front ++ [poll]).length = front.length + 1 := by simp
  constructor
  case decided =>
    intro n other hother hdecides
    have hbound : n < front.length + 1 := hlength ▸ (List.getElem?_eq_some_iff.1 hother).1
    have hlast : n = front.length := by
      by_contra hne
      rw [List.getElem?_append_left (by omega)] at hother
      exact hfront other (List.mem_of_getElem? hother) hdecides
    exact ⟨by rw [hlast, hlength], hlength.symm, houtcome⟩
  case succeeded =>
    have hvalue : ∀ outcome : Outcome Unit,
        (outcome.map fun _ => value) = .ok value ↔ outcome = .ok () := by
      intro outcome
      cases outcome <;> simp [Outcome.map]
    have hdecides : ∀ other, (∃ state, g.Shows .success other state) → g.Decides started other := by
      rintro other ⟨state, hshows⟩
      exact hshows.decides (by simp)
    rw [houtcome, Option.some_inj, hvalue, result_eq_ok_iff]
    exact (exists_shown_iff hdecides hfront).symm
  case failed =>
    intro word
    have hfault : ∀ outcome : Outcome Unit, (outcome.map fun _ => value) =
        .fault (g.watch.failed word) ↔ outcome = .fault (g.watch.failed word) := by
      intro outcome
      cases outcome <;> simp [Outcome.map]
    have hdecides : ∀ other, (∃ state, g.Shows .failure other state ∧ g.word state = word) →
        g.Decides started other := by
      rintro other ⟨state, hshows, -⟩
      exact hshows.decides (by simp)
    rw [houtcome, Option.some_inj, hfault, result_eq_failed_iff]
    exact (exists_shown_iff hdecides hfront).symm
  case ends => exact fun hopen => absurd hpoll (hopen poll hmem)
  case goesOn => exact fun hopen => absurd hpoll (hopen poll hmem)

/-- A wait that no poll has decided. -/
theorem Awaited.of_open (hpolls : ∀ poll ∈ polls, ¬ g.Decides started poll)
    (hover : ∀ outcome, s.state.outcome? = some outcome →
      (s.cancelled = true ∧ outcome = .fault g.watch.interrupted) ∨
        ∃ cause, outcome = .overflow cause)
    (hgoesOn : s.state.outcome? = none → s.dropped = false → g.GoesOn polls asked s) :
    g.Awaited started value polls asked s := by
  have hnone : ∀ {verdict poll state}, poll ∈ polls → g.Shows verdict poll state →
      verdict = .undecided := by
    intro verdict poll state hmem hshows
    by_contra hverdict
    exact hpolls poll hmem (hshows.decides hverdict)
  constructor
  case decided =>
    intro n poll hpoll hdecides
    exact absurd hdecides (hpolls poll (List.mem_of_getElem? hpoll))
  case succeeded =>
    constructor
    · intro hok
      rcases hover _ hok with ⟨-, hno⟩ | ⟨cause, hno⟩ <;> exact absurd hno (by simp [Outcome.overflow])
    · rintro ⟨poll, hmem, state, hshows⟩
      exact absurd (hnone hmem hshows) (by simp)
  case failed =>
    intro word
    constructor
    · intro hfailed
      rcases hover _ hfailed with ⟨-, hno⟩ | ⟨cause, hno⟩ <;>
        exact absurd hno (by simp [Outcome.overflow, Watch.failed, Watch.interrupted])
    · rintro ⟨poll, hmem, state, hshows, -⟩
      exact absurd (hnone hmem hshows) (by simp)
  case ends => exact fun _ => hover
  case goesOn => exact fun _ => hgoesOn

end Goal

namespace Goal

variable [BEq S] {g : Goal R A S} {started : Moment} {polls : List (Poll g)} {asked : Nat} {value : α}
  {records : List Record} {t : Situation (Thread R A Unit)}

/-- **A wait that fares as waits do**, with a conclusion to come. -/
theorem Faring.awaited (h : g.Faring started t polls asked) :
    g.Awaited started value polls asked (t.concluding records value) := by
  obtain ⟨now, hnow, hfares⟩ := h
  have houtcome : (t.concluding records value).state.outcome? =
      t.state.outcome?.map fun outcome => outcome.map fun _ => value :=
    Thread.outcome?_concluding t.state
  generalize hthread : t.state = thread at hfares
  generalize hcancelled : t.cancelled = cancelled at hfares
  rw [hthread] at houtcome
  cases hfares with
  | interrupted hyes hpolls =>
    refine .of_open hpolls (fun outcome hover => .inl ⟨hcancelled.trans hyes, ?_⟩) fun hopen => ?_
    · exact (Option.some.inj (houtcome.symm.trans hover)).symm
    · exact absurd (houtcome.symm.trans hopen) (by simp [Thread.outcome?])
  | waits hwaits =>
    cases hwaits with
    | decided front poll hfront hpoll =>
      exact .of_decided hfront hpoll (congrArg (Thread.concluding records value) hthread)
    | overflowed _ cause hpolls =>
      refine .of_open hpolls (fun outcome hover => .inr ⟨cause, ?_⟩) fun hopen => ?_
      · exact (Option.some.inj (houtcome.symm.trans hover)).symm
      · exact absurd (houtcome.symm.trans hopen) (by simp [Thread.outcome?])
    | looking _ state _ _ hpolls =>
      refine .of_open hpolls (fun outcome hover => ?_) fun _ hdropped => .inl ⟨rfl, ?_⟩
      · exact absurd (houtcome.symm.trans hover) (by simp [Thread.outcome?])
      · intro answer factor
        have hdropped' : t.dropped = false := hdropped
        rw [Situation.after?_concluding, Option.isSome_map]
        simp [Situation.after?, hdropped', Thread.process, hthread, Thread.resume]
    | resting _ state due hdue _ _ hpolls =>
      refine .of_open hpolls (fun outcome hover => ?_) fun _ hdropped => .inr ⟨rfl, ?_, ?_⟩
      · exact absurd (houtcome.symm.trans hover) (by simp [Thread.outcome?])
      · intro hyes factor
        have hdropped' : t.dropped = false := hdropped
        have hyes' : t.cancelled = true := hyes
        have hmove : t.after? (Thread.process R A Unit) (.resume [] .interrupt factor) =
            some ([], { t with state := .done (.fault g.watch.interrupted) }) := by
          simp [Situation.after?, hdropped', Thread.process, hthread, Thread.resume, hyes',
            Activity.ofExcept, Outcome.ofExcept, Activity.proceed, eventsHere]
        refine ⟨Situation.concluding records value
          { t with state := .done (.fault g.watch.interrupted) }, ?_, rfl⟩
        rw [Situation.after?_concluding, hmove]
        rfl
      · intro hno
        have hdue' : t.now ≤ due := hnow hdropped ▸ hdue
        refine ⟨due - t.now, fun factor => ?_⟩
        obtain ⟨more, t', hfollow, hnext⟩ := Goal.rest_ends hno hdropped hthread hdue' factor
        obtain ⟨more', hfollow', hsame⟩ : ∃ more',
            (t.concluding records value).follow (Thread.process R A α)
              [.pass (due - t.now), .resume [] .wake factor] =
                some (more', t'.concluding records value) ∧ requestsOf more' = requestsOf more :=
          Situation.follow_concluding hfollow
        refine ⟨more', _, hfollow', hnext.imp (fun hone => ?_) ?_⟩
        · rw [← length_requestsOf, hsame, length_requestsOf, hone]
        · rintro ⟨cause, hover⟩
          refine ⟨cause, ?_⟩
          rw [Situation.concluding, Thread.outcome?_concluding, hover]
          rfl

end Goal

end Teardown
