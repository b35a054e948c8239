/-
# Waits that do not break off

A wait computes its delays while it goes on, and a delay without a duration breaks it off.  This
module says which settings are safe from that: with `Lasting` settings no wait breaks off by
itself, whatever it watches, whatever answers come and when, whether it is cancelled, and whatever
factors its rests are scaled by.

The invariant is a bound on the delays in whole seconds (`Paced`).  A turn keeps it
(`Paced.resume`): the next delay never exceeds the longest one, and up to `longestScaled` seconds
any jitter factor leaves a duration.  So settings that are accepted are lasting without jitter,
and with it if their longest delay stays within that bound (`WaitSettings.Accepted.lasting`).
Beyond it the first answer that decides nothing may break the wait off
(`WaitSettings.Accepted.not_lasting`).

* §1  a bound on the delays, and that it can be scaled.
* §2  one turn.  Whatever the wait does, it rests within the bound, or it is over.
* §3  all moves.  A wait may break off all the same, with the text of a reply that did; that is
      the doing of the other side.
* §4  the converse, by one wait that asks once and rests.
* §5  what a run finds as its settings.  Main fact: `settings_break_off`.

Between the two bounds there is no gap that a double could fill: the next number of seconds after
`longestScaled` is 2048 seconds larger.
-/
import Teardown.Proofs.AcceptedSettings
import Teardown.Proofs.Waiting

namespace Teardown

variable {R : Type} {A : R → Type}

/-! ## 1. Delays within a bound -/

/-- Settings whose delays stay within a bound, of which every jitter factor leaves a duration. -/
structure WaitSettings.Within (w : WaitSettings) (n : Nat) : Prop where
  firm : Firm n
  grows : w.multiplier.lt 1 = false
  starts : w.initialDelay.seconds ≤ n
  ends : w.maxDelay.seconds ≤ n
  scales : w.jitter = true → n ≤ Duration.longestScaled

/-- Settings that are accepted have a bound, unless their rests are scaled and too long for it. -/
theorem WaitSettings.Accepted.within {w : WaitSettings} (h : w.Accepted)
    (hlong : w.jitter = true → w.maxDelay.seconds ≤ Duration.longestScaled) : ∃ n, w.Within n := by
  have hstarts : w.initialDelay.seconds ≤ w.maxDelay.seconds := Nat.div_le_div_right h.starts
  cases hjitter : w.jitter with
  | true =>
    refine ⟨_, Duration.longestScaled_firm, h.grows, ?_, hlong hjitter, fun _ => Nat.le_refl _⟩
    exact hstarts.trans (hlong hjitter)
  | false =>
    refine ⟨_, Duration.longestSeconds_firm, h.grows, hstarts.trans h.ends, h.ends, ?_⟩
    rw [hjitter]
    exact fun hno => absurd hno (by simp)

theorem WaitSettings.Within.scaled_ok {w : WaitSettings} {n : Nat} (h : w.Within n)
    {factor : Binary64} (hfactor : WaitSettings.IsJitter factor) {delay : Duration}
    (hdelay : delay.seconds ≤ n) : ∃ length, w.scaled factor delay = .ok length :=
  WaitSettings.scaled_ok hfactor fun hjitter =>
    (Duration.toSeconds_upTo h.firm hdelay).mono (Binary64.placeOf_mono (h.scales hjitter))

/-! ## 2. A turn of a wait -/

/-- What follows an answer keeps the bound: the watch is over without having broken off, or it rests with
a delay within the bound. -/
def Watch.Next.Fits (n : Nat) : Watch.Next → Prop
  | .over outcome => ∀ text, outcome ≠ .panic text
  | .rest state _ => state.delay.seconds ≤ n

section Turn

variable {w : Watch R A} {n : Nat} {c : Conditions} {state : WatchState}

theorem Watch.fits_pause (h : w.settings.Within n) (hfactor : WaitSettings.IsJitter c.factor)
    (hdelay : state.delay.seconds ≤ n) : (w.pause c state).2.Fits n := by
  obtain ⟨length, hlength⟩ := h.scaled_ok hfactor hdelay
  simp only [Watch.pause, hlength]
  split
  · exact fun text => by simp
  · split
    · exact fun text => by simp
    · exact hdelay

theorem Watch.fits_receive (h : w.settings.Within n) (hfactor : WaitSettings.IsJitter c.factor)
    (hdelay : state.delay.seconds ≤ n) (answer : Except Fault (A w.request)) :
    (w.receive c state answer).2.Fits n := by
  cases answer with
  | error cause => exact Watch.fits_pause h hfactor hdelay
  | ok answer =>
    simp only [Watch.receive]
    split
    · exact fun text => by simp
    · exact fun text => by simp
    · exact Watch.fits_pause h hfactor hdelay

/-- `Paced w n told thread`: a wait for `w` stands at `thread` with a delay within the bound, and if it
has broken off then with a text that somebody told. -/
inductive Paced (w : Watch R A) (n : Nat) (told : Option String → Prop) : Thread R A Unit → Prop
  | looking (state : WatchState) : state.delay.seconds ≤ n →
      Paced w n told (.looking w state Activity.ofExcept)
  | resting (state : WatchState) (due : Moment) : state.delay.seconds ≤ n →
      Paced w n told (.resting w state due Activity.ofExcept)
  | over (outcome : Outcome Unit) : (∀ text, outcome = .panic text → told text) →
      Paced w n told (.done outcome)

variable {told : Option String → Prop}

theorem Paced.mono {more : Option String → Prop} {thread : Thread R A Unit} (h : Paced w n told thread)
    (hmore : ∀ text, told text → more text) : Paced w n more thread := by
  cases h with
  | looking state hdelay => exact .looking state hdelay
  | resting state due hdelay => exact .resting state due hdelay
  | «over» outcome houtcome => exact .over outcome fun text htext => hmore text (houtcome text htext)

theorem Paced.ended (result : Except Fault Unit) : Paced w n told (.done (.ofExcept result)) :=
  .over _ fun text htext => absurd htext (Outcome.ofExcept_ne_panic result text)

theorem Paced.afterLook (h : w.settings.Within n) (hfactor : WaitSettings.IsJitter c.factor)
    (hdelay : state.delay.seconds ≤ n) (answer : Except Fault (A w.request)) :
    Paced w n told (Thread.afterLook c w state Activity.ofExcept answer).2 := by
  have hfits := Watch.fits_receive h hfactor hdelay answer
  simp only [Thread.afterLook]
  cases hnext : (w.receive c state answer).2 with
  | «over» outcome =>
    rw [hnext] at hfits
    cases outcome with
    | ok value => exact .ended (.ok value)
    | fault cause => exact .ended (.error cause)
    | panic text => exact absurd rfl (hfits text)
  | rest state' due =>
    rw [hnext] at hfits
    exact .resting state' due hfits

theorem Paced.afterRest (h : w.settings.Within n) (state : WatchState) :
    Paced w n told (Thread.afterRest c w state Activity.ofExcept).2 := by
  obtain ⟨next, hnext, hle⟩ := WaitSettings.nextDelay_ok h.grows h.firm h.ends state.delay
  have hleave : w.leave state = .ok { state with delay := next } := by
    rw [Watch.leave, hnext]
    rfl
  rw [Thread.afterRest, hleave, Thread.lookAgain, Watch.enter]
  cases c.cancelled with
  | true => exact .ended _
  | false => exact .looking _ hle

/-- **A turn of a wait** keeps the bound, and breaks the wait off only with a reply that broke off. -/
theorem Paced.resume {thread thread' : Thread R A Unit} (h : Paced w n told thread)
    (hw : w.settings.Within n) (hfactor : WaitSettings.IsJitter c.factor) {cue : Cue R A}
    {happened : List (Occurrence R A)} (hturn : thread.resume c cue = some (happened, thread')) :
    Paced w n (fun text => told text ∨ ∃ request, .replied request (.panic text) ∈ happened)
      thread' := by
  cases h with
  | «over» outcome _ =>
    rw [Thread.resume_done] at hturn
    exact absurd hturn (by simp)
  | looking state hdelay =>
    cases cue with
    | reply answer =>
      cases hanswer : answer w.request with
      | ok value =>
        simp only [Thread.resume, hanswer, Option.some.injEq, Prod.mk.injEq] at hturn
        obtain ⟨-, rfl⟩ := hturn
        exact .afterLook hw hfactor hdelay (.ok value)
      | fault cause =>
        simp only [Thread.resume, hanswer, Option.some.injEq, Prod.mk.injEq] at hturn
        obtain ⟨-, rfl⟩ := hturn
        exact .afterLook hw hfactor hdelay (.error cause)
      | panic text =>
        simp only [Thread.resume, hanswer, Option.some.injEq, Prod.mk.injEq] at hturn
        obtain ⟨rfl, rfl⟩ := hturn
        refine .over _ fun text' htext => .inr ⟨w.request, ?_⟩
        rw [Outcome.panic.inj htext]
        exact List.mem_cons_self
    | _ => exact absurd hturn (by simp [Thread.resume])
  | resting state due hdelay =>
    cases cue with
    | wake =>
      simp only [Thread.resume] at hturn
      split at hturn
      · obtain rfl := congrArg Prod.snd (Option.some.inj hturn)
        exact .afterRest hw state
      · exact absurd hturn (by simp)
    | interrupt =>
      simp only [Thread.resume] at hturn
      split at hturn
      · obtain rfl := congrArg Prod.snd (Option.some.inj hturn)
        exact .ended _
      · exact absurd hturn (by simp)
    | _ => exact absurd hturn (by simp [Thread.resume])

end Turn

/-! ## 3. A whole wait -/

/-- Somebody broke off with a text instead of answering. -/
def Told (past : List (Entry R A)) (text : Option String) : Prop :=
  ∃ request, ∃ e ∈ past, e.event.occurrence = .replied request (.panic text)

/-- **Settings with which no wait breaks off by itself.**  Whatever is watched, whatever is answered and
when, whether the wait is cancelled, and whatever jitter factors its rests are scaled by: if the wait
breaks off, then with the text of a reply that did. -/
def WaitSettings.Lasting (settings : WaitSettings) : Prop :=
  ∀ ⦃R : Type⦄ ⦃A : R → Type⦄ (w : Watch R A), w.settings = settings →
    ∀ (c : Conditions) {moves : List (Move R A)} {entries : List (Entry R A)}
      {s : Situation (Thread R A Unit)},
      (∀ place cue factor, .resume place cue factor ∈ moves → IsJitter factor) →
      ((Activity.await w).about c).2.follow (Thread.process R A Unit) moves = some (entries, s) →
      ∀ text, s.state.outcome? = some (.panic text) → Told entries text

section Whole

variable {w : Watch R A} {n : Nat} {c : Conditions} {s s' : Situation (Thread R A Unit)}
  {moves : List (Move R A)} {past entries : List (Entry R A)}

theorem Told.append {text : Option String} (h : Told past text) (now : List (Entry R A)) :
    Told (past ++ now) text := by
  obtain ⟨request, e, he, hreply⟩ := h
  exact ⟨request, e, List.mem_append_left _ he, hreply⟩

/-- A wait begins with a delay within the bound, unless the run is cancelled already. -/
theorem Paced.about (h : w.settings.Within n) {told : Option String → Prop} :
    Paced w n told ((Activity.await w).about c).2.state := by
  have hproceed : ((Activity.await w).proceed c).2 =
      ((Activity.await w).about c).2.state := rfl
  rw [← hproceed, Activity.await, Activity.proceed, Watch.enter]
  cases c.cancelled with
  | true => exact .ended _
  | false => exact .looking _ h.starts

/-- **A move of a wait** keeps the bound. -/
theorem Paced.move (hw : w.settings.Within n) (h : Paced w n (Told past) s.state) {move : Move R A}
    (hfactor : ∀ place cue factor, move = .resume place cue factor → WaitSettings.IsJitter factor)
    {now : List (Entry R A)} (hafter : s.after? (Thread.process R A Unit) move = some (now, s')) :
    Paced w n (Told (past ++ now)) s'.state := by
  rcases Situation.after?_cases hafter with
    ⟨place, cue, factor, events, thread, rfl, -, hturn, rfl, rfl⟩ | ⟨-, -, rfl⟩ |
      ⟨length, -, -, rfl⟩ | ⟨-, -, rfl⟩
  · simp only [Thread.process] at hturn
    split at hturn
    · obtain ⟨⟨occurrences, thread'⟩, hresume, heq⟩ := Option.map_eq_some_iff.1 hturn
      obtain ⟨rfl, rfl⟩ := Prod.mk.inj heq
      have hjitter : WaitSettings.IsJitter (Conditions.mk s.now s.cancelled factor).factor :=
        hfactor place cue factor rfl
      refine (h.resume hw hjitter hresume).mono fun text htold => ?_
      rcases htold with htold | ⟨request, hreply⟩
      · exact htold.append _
      · refine ⟨request, ⟨s.now, [], .replied request (.panic text)⟩, ?_, rfl⟩
        exact List.mem_append_right _ (List.mem_map_of_mem (List.mem_map_of_mem hreply))
    · exact absurd hturn (by simp)
  all_goals exact h.mono fun text htold => htold.append _

/-- **Settings within a bound are lasting.** -/
theorem WaitSettings.Within.lasting {settings : WaitSettings} (h : settings.Within n) :
    settings.Lasting := by
  intro R A w hw c moves entries s hmoves hrun text houtcome
  rw [← hw] at h
  have hpaced : Paced w n (Told ([] ++ entries)) s.state := by
    refine Situation.follow_induction (fun s past => Paced w n (Told past) s.state) ?_ [] (.about h)
      hrun
    intro move hmove s s' past now hstate hafter
    exact hstate.move h (fun place cue factor heq => hmoves place cue factor (heq ▸ hmove)) hafter
  cases hstate : s.state with
  | done outcome =>
    rw [hstate] at hpaced houtcome
    cases hpaced with
    | «over» _ htold => exact htold text (Option.some.inj houtcome)
  | _ =>
    rw [hstate] at houtcome
    exact absurd houtcome (by simp [Thread.outcome?])

/-- **Accepted settings are lasting** if they scale no rest, or only rests within the bound. -/
theorem WaitSettings.Accepted.lasting {settings : WaitSettings} (h : settings.Accepted)
    (hlong : settings.jitter = true → settings.maxDelay.seconds ≤ Duration.longestScaled) :
    settings.Lasting := by
  obtain ⟨n, hwithin⟩ := h.within hlong
  exact hwithin.lasting

/-! ## 4. Where waits break off -/

/-- **The first answer may break a wait off.**  If it decides nothing, and the rest after it is scaled by
the largest factor, then a first delay beyond the bound has no duration. -/
theorem first_rest_overflows (htimed : w.settings.timeout.nanos ≠ 0) (hjitter : w.settings.jitter = true)
    (hlong : Duration.longestScaled + 2048 ≤ w.settings.initialDelay.seconds)
    (hc : c.cancelled = false) {answer : (q : R) → Outcome (A q)} {value : A w.request}
    (hanswer : answer w.request = .ok value) (hopen : (w.observe value).verdict = .undecided) :
    ∃ record s, ((Activity.await w).about c).2.follow (Thread.process R A Unit)
        [.resume [] (.reply answer) WaitSettings.largestFactor] =
          some (entriesAt c.now [.replied w.request (.ok value), .noted record], s) ∧
      s.state.outcome? = some (.overflow .tooBig) := by
  have hscaled := WaitSettings.scaled_tooBig_of_seconds hjitter hlong
  have htime : ¬ w.settings.timeout ≤ c.now - c.now := by
    show ¬ w.settings.timeout.nanos ≤ c.now.nanos - c.now.nanos
    omega
  have habout : ((Activity.await w).about c).2 =
      ⟨.looking w { w.start c.now with attempt := 1 } Activity.ofExcept, c.now, false, false⟩ := by
    simp [Activity.about, Activity.await, Activity.proceed, Watch.enter, Watch.start, hc]
  have hresume : ∃ record,
      (Thread.looking w { w.start c.now with attempt := 1 } Activity.ofExcept).resume
        ⟨c.now, false, WaitSettings.largestFactor⟩ (.reply answer) =
      some ([.replied w.request (.ok value), .noted record], .done (.overflow .tooBig)) := by
    refine ⟨w.observed { w.start c.now with attempt := 1 } (w.observe value), ?_⟩
    simp only [Thread.resume, hanswer, Thread.afterLook, Watch.receive, hopen, Watch.pause, Watch.start,
      if_neg htime, hscaled]
    rfl
  obtain ⟨record, hresume⟩ := hresume
  refine ⟨record, ⟨.done (.overflow .tooBig), c.now, false, false⟩, ?_, rfl⟩
  rw [habout]
  simp [Situation.follow, Situation.after?, Thread.process, hresume, entriesAt]

namespace Sample

open Rehearsal

def awaited (settings : WaitSettings) : Watch Question Question.Answer :=
  stateWatch "demo" "waiting for arrival" "THERE" [] settings

def underway : (q : Question) → Outcome (Question.Answer q)
  | .state => .ok "UNDERWAY"

end Sample

/-- **Accepted settings are not lasting** if they scale a first rest beyond the bound. -/
theorem WaitSettings.Accepted.not_lasting {settings : WaitSettings} (h : settings.Accepted)
    (hjitter : settings.jitter = true)
    (hlong : Duration.longestScaled + 2048 ≤ settings.initialDelay.seconds) : ¬ settings.Lasting := by
  intro hlasting
  have hanswer : Sample.underway .state = .ok "UNDERWAY" := rfl
  obtain ⟨record, s, hrun, houtcome⟩ := first_rest_overflows (w := Sample.awaited settings)
    (c := ⟨⟨0⟩, false, 1⟩) h.isTimed hjitter hlong rfl hanswer rfl
  have hfactors : ∀ place cue factor, Move.resume place cue factor ∈
      [Move.resume [] (.reply Sample.underway) largestFactor] → IsJitter factor := by
    intro place cue factor hmove
    obtain ⟨-, -, rfl⟩ := Move.resume.inj (List.mem_singleton.1 hmove)
    exact largestFactor_isJitter
  obtain ⟨request, e, he, hreply⟩ :=
    hlasting (Sample.awaited settings) rfl ⟨⟨0⟩, false, 1⟩ hfactors hrun _ houtcome
  simp only [entriesAt, eventsHere, List.map_cons, List.map_nil, List.mem_cons, List.not_mem_nil,
    or_false] at he
  rcases he with rfl | rfl
  · exact absurd hreply (by simp)
  · exact absurd hreply (by simp)

end Whole

/-! ## 5. What a run finds as its settings -/

/-- **What settings may do.**  If a run gets no settings, there is a fault, or the settings file gives a
length of time that is finite and not below 2^64 seconds.  Of the settings that it gets, all are lasting
that scale no rest, or whose longest delay is at most `longestScaled` seconds.  The bound cannot be moved:
none are lasting that scale a first delay of `longestScaled` and 2048 seconds, the next number that a
double has. -/
theorem settings_break_off (i : Invocation) (s : Surroundings) :
    (∀ problem, i.load s = .error problem → (∃ cause, problem = .fault cause) ∨
      ∃ x, Settings.Gives s.files i.settings x ∧ x.isFinite = true ∧
        x.lt (.ofNat wordBound) = false) ∧
    ∀ settings, i.load s = .ok settings →
      ((settings.wait.jitter = true →
        settings.wait.maxDelay.seconds ≤ Duration.longestScaled) → settings.wait.Lasting) ∧
      (settings.wait.jitter = true →
        Duration.longestScaled + 2048 ≤ settings.wait.initialDelay.seconds →
        ¬ settings.wait.Lasting) := by
  cases hload : Settings.load s.files i.settings s.environment with
  | ok loaded =>
    have hresult : i.load s = .ok (loaded.withFormat i.logFormat) := by
      rw [Invocation.load, hload]
      rfl
    rw [hresult]
    refine ⟨fun problem hproblem => absurd hproblem (by simp), fun settings hsettings => ?_⟩
    obtain rfl := Except.ok.inj hsettings
    have hwait : (loaded.withFormat i.logFormat).wait = loaded.wait := by
      cases i.logFormat <;> rfl
    have haccepted := Settings.load_accepted hload
    rw [hwait]
    exact ⟨haccepted.lasting, haccepted.not_lasting⟩
  | fault cause =>
    have hresult : i.load s = .error (.fault cause) := by
      rw [Invocation.load, hload]
      rfl
    rw [hresult]
    refine ⟨fun problem hproblem => ?_, fun settings hsettings => absurd hsettings (by simp)⟩
    exact .inl ⟨cause, (Except.error.inj hproblem).symm⟩
  | panic text =>
    have hresult : i.load s = .error (.breakdown text) := by
      rw [Invocation.load, hload]
      rfl
    rw [hresult]
    exact ⟨fun _ _ => .inr (Settings.load_panic hload), fun settings hsettings =>
      absurd hsettings (by simp)⟩

namespace Sample

open Rehearsal

def configured : Invocation := { (default : Invocation) with settings := some "strata.yaml" }

def filesWith (text : String) : Surroundings := ⟨fun _ => .ok text.toUTF8, ⟨[]⟩⟩

/-- A timeout that is finite. -/
def hugeTimeout : Surroundings := filesWith "wait:\n  timeout: 1e300\n"

/-- The longest rests that can be scaled. -/
def longRests : Surroundings :=
  filesWith "wait:\n  initial_delay: 12297829382473033728\n  max_delay: 12297829382473033728\n"

/-- Rests that have a duration, unless they are scaled. -/
def longerRests : Surroundings := filesWith "wait:\n  initial_delay: 15e18\n  max_delay: 18e18\n"

def delays (first longest : Nat) : Settings :=
  ⟨{ WaitSettings.standard with initialDelay := .ofWhole first, maxDelay := .ofWhole longest },
    .standard⟩

def brokenOff? : Except Problem Settings → Option String
  | .error (.breakdown text) => text
  | _ => none

theorem of_brokenOff? {result : Except Problem Settings} {text : String}
    (h : brokenOff? result = some text) : result = .error (.breakdown (some text)) := by
  unfold brokenOff? at h
  split at h
  · rw [h]
  · exact absurd h (by simp)

theorem hugeTimeout_breaks_off : configured.load hugeTimeout = .error (.breakdown
    (some "cannot convert float seconds to Duration: value is either too big or NaN")) :=
  of_brokenOff? (by decide +kernel)

theorem longRests_load : configured.load longRests =
    .ok (delays 12297829382473033728 12297829382473033728) := eq_ok_of_toOption (by decide +kernel)

theorem longerRests_load : configured.load longerRests =
    .ok (delays 15000000000000000000 18000000000000000000) := eq_ok_of_toOption (by decide +kernel)

/-- The moves of a wait that rests once, scaled as far as possible, until its time is up. -/
def restMoves : List (Move Question Question.Answer) :=
  [.resume [] (.reply underway) WaitSettings.largestFactor, .pass (.ofWhole 1500),
   .resume [] .wake WaitSettings.largestFactor,
   .resume [] (.reply underway) WaitSettings.largestFactor]

/-- The wait with these moves. -/
def restRun : Option (List (Entry Question Question.Answer) ×
    Situation (Thread Question Question.Answer Unit)) :=
  ((Activity.await (awaited (delays 12297829382473033728 12297829382473033728).wait)).about
    ⟨⟨0⟩, false, 1⟩).2.follow (Thread.process Question Question.Answer Unit) restMoves

end Sample

/-- With a timeout that is finite the run breaks off, the longest rests can be scaled, and longer ones
cannot. -/
theorem long_rests_lasting :
    (∃ x, Settings.Gives Sample.hugeTimeout.files (some "strata.yaml") x ∧ x.isFinite = true ∧
      x.lt (.ofNat wordBound) = false) ∧
    (∃ entries s, Sample.restRun = some (entries, s) ∧
      s.state.outcome?.isSome = true ∧ ∀ text, s.state.outcome? ≠ some (.panic text)) ∧
    ¬ (Sample.delays 15000000000000000000 18000000000000000000).wait.Lasting := by
  refine ⟨?_, ?_, ?_⟩
  · rcases (settings_break_off Sample.configured Sample.hugeTimeout).1 _
      Sample.hugeTimeout_breaks_off with ⟨cause, hcause⟩ | hgiven
    · exact absurd hcause (by simp)
    · exact hgiven
  · have hlasting := ((settings_break_off Sample.configured Sample.longRests).2 _
      Sample.longRests_load).1 fun _ => by decide
    have hseen : Sample.restRun.map (fun run => (run.1.any Sample.breaksOff,
        run.2.state.outcome?.isSome)) = some (false, true) := by decide +kernel
    obtain ⟨⟨entries, s⟩, hrun, hseen⟩ := Option.map_eq_some_iff.1 hseen
    obtain ⟨hbroken, hover⟩ := Prod.mk.inj hseen
    have hfactors : ∀ place cue factor, Move.resume place cue factor ∈ Sample.restMoves →
        WaitSettings.IsJitter factor := by
      intro place cue factor hmove
      have hfactor : factor = WaitSettings.largestFactor := by
        simp only [Sample.restMoves, List.mem_cons, List.not_mem_nil, or_false] at hmove
        rcases hmove with hmove | hmove | hmove | hmove
        · exact (Move.resume.inj hmove).2.2
        · exact absurd hmove (by simp)
        · exact (Move.resume.inj hmove).2.2
        · exact (Move.resume.inj hmove).2.2
      rw [hfactor]
      exact WaitSettings.largestFactor_isJitter
    refine ⟨entries, s, hrun, hover, fun text houtcome => ?_⟩
    obtain ⟨request, e, he, hreply⟩ := hlasting _ rfl _ hfactors hrun text houtcome
    have hno := List.any_eq_false.1 hbroken e he
    rw [Sample.breaksOff, hreply] at hno
    exact absurd hno (by simp)
  · exact ((settings_break_off Sample.configured Sample.longerRests).2 _
      Sample.longerRests_load).2 rfl (by decide)

/-- A run may break off over its settings, and a wait with settings that were accepted may break off over
its first rest. -/
theorem huge_lengths_break_off :
    Sample.configured.load Sample.hugeTimeout = .error (.breakdown
      (some "cannot convert float seconds to Duration: value is either too big or NaN")) ∧
    ∃ settings, Sample.configured.load Sample.longerRests = .ok settings ∧
      ¬ settings.wait.Lasting := by
  refine ⟨Sample.hugeTimeout_breaks_off, _, Sample.longerRests_load, ?_⟩
  have haccepted : (Sample.delays 15000000000000000000 18000000000000000000).wait.Accepted :=
    ⟨by decide, by decide, by decide +kernel, by decide⟩
  exact haccepted.not_lasting rfl (by decide)

end Teardown
