/-
# How a wait comes out

A wait has a goal: one state is the success, some states are failures, and every other state
leaves the matter open (`Goal`).  Its outcome is settled by the first poll that decides: one that
observes the success, or a failure, or that is answered when the time is up.  No question follows
that poll, and it alone says what comes out, but for the state that a timeout mentions: that is
the last one that any of the polls observed.  A question that could not be answered observes
nothing, and nothing of it is kept.

`wait_decided` says so for every run of a wait that nobody cancels, at whatever speed the answers
come, together with the other half: as long as no poll has decided, the wait goes on, unless a
delay has no duration.

* §1-2  goals, and the waits of the program as instances of them.  A state that is both the
        success and listed among the failures counts as the success.
* §3  polls, and the result that some polls make.
* §4  how a wait stands after some polls (`Goal.Waits`).  It is the invariant: an answer and the
      end of a rest both keep it (`Goal.waits_receive`, `Goal.Waits.resume`).
* §5  a whole wait, by induction on its moves.

That a wait comes to its end is not said here, because the remote side may never answer.
-/
import Teardown.Proofs.Parts
import Teardown.Rehearsal.Polls
import Teardown.Update

namespace Teardown

variable {R : Type} {A : R → Type} {S : Type}

/-! ## 1. Goals -/

/-- What a wait is for: the question that is asked, how a state is read off the answer and written
down, and which states end the wait. -/
structure Goal (R : Type) (A : R → Type) (S : Type) where
  resource : String
  operation : String
  request : R
  read : A request → S
  word : S → String
  success : S
  failures : List S
  settings : WaitSettings

namespace Goal

variable [BEq S] (g : Goal R A S)

/-- What a state means.  The success comes first, even if it is listed among the failures. -/
def verdict (state : S) : Verdict :=
  if state == g.success then .success
  else if g.failures.contains state then .failure
  else .undecided

/-- The watch with this goal. -/
abbrev watch : Watch R A where
  resource := g.resource
  operation := g.operation
  request := g.request
  observe := fun answer => ⟨g.word (g.read answer), g.verdict (g.read answer)⟩
  settings := g.settings

end Goal

/-! ## 2. The waits of the program -/

/-- The deletion of a stack succeeds when the stack is gone. -/
def Stack.deletionGoal (stack : Stack) (settings : WaitSettings) :
    Goal Request Request.Answer StackStatus where
  resource := stack.name
  operation := "waiting for stack deletion"
  request := .describeStack stack.name
  read := fun answer : Option Stack => (answer.map Stack.status).getD .deleteComplete
  word := StackStatus.word
  success := .deleteComplete
  failures := [.deleteFailed]
  settings := settings

theorem Stack.deletionWatch_eq (stack : Stack) (settings : WaitSettings) :
    stack.deletionWatch settings = (stack.deletionGoal settings).watch := by
  refine congrArg (Watch.mk _ _ _ · settings) (funext fun answer => ?_)
  refine congrArg (Observation.mk _) ?_
  change _ = (stack.deletionGoal settings).verdict ((answer.map Stack.status).getD .deleteComplete)
  generalize (answer.map Stack.status).getD .deleteComplete = status
  cases status <;> rfl

/-- An update succeeds when it is applied. -/
def Updater.updateGoal (u : Updater) (update : Update) :
    Goal ClusterRequest ClusterRequest.Answer UpdateStatus where
  resource := u.cluster
  operation := "waiting for requested " ++ Text.quote update.kind ++ " in cluster " ++
    Text.quote u.cluster ++ " to succeed"
  request := .describeUpdate u.cluster update.id
  read := fun current : Update => current.status
  word := UpdateStatus.word
  success := .successful
  failures := [.failed, .cancelled]
  settings := u.wait

theorem Updater.updateWatch_eq (u : Updater) (update : Update) :
    u.updateWatch update = (u.updateGoal update).watch := by
  have hverdict : ∀ status : UpdateStatus,
      status.verdict = (u.updateGoal update).verdict status := by
    intro status
    cases status <;> rfl
  refine congrArg (Watch.mk _ _ _ · u.wait) (funext fun current => ?_)
  exact congrArg (Observation.mk _) (hverdict _)

/-- A state succeeds that has a given name. -/
def Rehearsal.stateGoal (resource operation success : String) (failures : List String)
    (settings : WaitSettings) : Goal Question Question.Answer String where
  resource := resource
  operation := operation
  request := .state
  read := fun state : String => state
  word := id
  success := success
  failures := failures
  settings := settings

/-! ## 3. Polls -/

/-- An answered question: when the answer came, and what it was. -/
structure Poll (g : Goal R A S) where
  moment : Moment
  answer : Except Fault (A g.request)

namespace Goal

variable (g : Goal R A S)

/-- The state that a poll observed. -/
def observed? (poll : Poll g) : Option S :=
  match poll.answer with
  | .ok answer => some (g.read answer)
  | .error _ => none

/-- The text of the last state that was observed, if any was. -/
def lastState (polls : List (Poll g)) : Option String :=
  ((polls.filterMap g.observed?).getLast?).map g.word

variable [BEq S]

/-- A poll decides the wait: it observed a state that ends it, or it was answered when the time was
up. -/
def Decides (started : Moment) (poll : Poll g) : Prop :=
  (∃ state, g.observed? poll = some state ∧ g.verdict state ≠ .undecided) ∨
    g.settings.timeout ≤ poll.moment - started

/-- What comes out of a wait with these polls, if the last one decides. -/
def result (polls : List (Poll g)) : Outcome Unit :=
  let timedOut : Outcome Unit :=
    .fault (.waitTimeout g.resource g.settings.timeout (g.lastState polls))
  match polls.getLast?.bind g.observed? with
  | some state =>
    if state == g.success then .ok ()
    else if g.failures.contains state then
      .fault (.waitFailed g.resource g.operation (g.word state))
    else timedOut
  | none => timedOut

/-- The event of a poll. -/
def entry (poll : Poll g) : Entry R A :=
  ⟨poll.moment, [], .replied g.request (.ofExcept poll.answer)⟩

end Goal

/-- How many requests there are among some entries. -/
def requestCount (entries : List (Entry R A)) : Nat :=
  entries.countP fun e => e.event.occurrence.isAsked

/-- The replies among some entries. -/
def repliesOf (entries : List (Entry R A)) : List (Entry R A) :=
  entries.filter fun e => e.event.occurrence.isReplied

/-! ## 4. How a wait stands -/

namespace Goal

variable (g : Goal R A S)

theorem lastState_append (polls : List (Poll g)) (poll : Poll g) :
    g.lastState (polls ++ [poll]) =
      match g.observed? poll with
      | some state => some (g.word state)
      | none => g.lastState polls := by
  rw [lastState, List.filterMap_append]
  cases hstate : g.observed? poll with
  | none => rw [List.filterMap_cons_none hstate, List.filterMap_nil, List.append_nil, lastState]
  | some state =>
    rw [List.filterMap_cons_some hstate, List.filterMap_nil, List.getLast?_concat]
    rfl

variable [BEq S]

/-- `Waits g started now polls asked thread`: a wait that began at a given moment has seen the answers
of `polls`, has asked so often, and stands at `thread`. -/
inductive Waits (started now : Moment) : List (Poll g) → Nat → Thread R A Unit → Prop
  | looking (polls : List (Poll g)) (state : WatchState) : state.started = started →
      state.lastState = g.lastState polls → (∀ poll ∈ polls, ¬ g.Decides started poll) →
      Waits started now polls (polls.length + 1) (.looking g.watch state Activity.ofExcept)
  | resting (polls : List (Poll g)) (state : WatchState) (due : Moment) : now ≤ due →
      state.started = started → state.lastState = g.lastState polls →
      (∀ poll ∈ polls, ¬ g.Decides started poll) →
      Waits started now polls polls.length (.resting g.watch state due Activity.ofExcept)
  | decided (polls : List (Poll g)) (poll : Poll g) : (∀ poll ∈ polls, ¬ g.Decides started poll) →
      g.Decides started poll →
      Waits started now (polls ++ [poll]) (polls.length + 1) (.done (g.result (polls ++ [poll])))
  | overflowed (polls : List (Poll g)) (cause : Duration.Overflow) :
      (∀ poll ∈ polls, ¬ g.Decides started poll) →
      Waits started now polls polls.length (.done (.overflow cause))

/-- The thread of a wait after an answer. -/
def halt : Watch.Next → Thread R A Unit
  | .over outcome => .done outcome
  | .rest state due => .resting g.watch state due Activity.ofExcept

section Steps

variable {g} {started now : Moment} {polls : List (Poll g)} {c : Conditions}

/-- A poll that shows no state which ends the wait, leaves the result to the time. -/
theorem result_eq_timedOut {poll : Poll g}
    (hopen : ∀ state, g.observed? poll = some state → g.verdict state = .undecided) :
    g.result (polls ++ [poll]) =
      .fault (.waitTimeout g.resource g.settings.timeout (g.lastState (polls ++ [poll]))) := by
  rw [result, List.getLast?_concat, Option.bind_some]
  cases hstate : g.observed? poll with
  | none => rfl
  | some state =>
    have hverdict := hopen state hstate
    rw [verdict] at hverdict
    by_cases hsuccess : (state == g.success) = true
    · rw [if_pos hsuccess] at hverdict
      exact absurd hverdict (by simp)
    · rw [if_neg hsuccess] at hverdict
      by_cases hfailure : g.failures.contains state = true
      · rw [if_pos hfailure] at hverdict
        exact absurd hverdict (by simp)
      · simp only [hsuccess, hfailure]
        rfl

theorem le_restEnd (now : Moment) (length : Duration) : now ≤ restEnd now length := by
  show now.nanos ≤ (now.nanos + length.nanos + 999999) / 1000000 * 1000000
  omega

theorem undecided_append (hpolls : ∀ poll ∈ polls, ¬ g.Decides started poll) {poll : Poll g}
    (hpoll : ¬ g.Decides started poll) : ∀ poll' ∈ polls ++ [poll], ¬ g.Decides started poll' := by
  intro poll' hmem
  rcases List.mem_append.1 hmem with hmem | hmem
  · exact hpolls poll' hmem
  · rw [List.mem_singleton.1 hmem]
    exact hpoll

/-- After a poll that shows no state which ends the wait, the time decides. -/
theorem waits_pause (hc : c.cancelled = false)
    (hpolls : ∀ poll ∈ polls, ¬ g.Decides started poll) {poll : Poll g} (hmoment : poll.moment = c.now)
    (hopen : ∀ state, g.observed? poll = some state → g.verdict state = .undecided)
    {s : WatchState} (hstarted : s.started = started)
    (hlast : s.lastState = g.lastState (polls ++ [poll])) :
    g.Waits started c.now (polls ++ [poll]) (polls.length + 1)
      (g.halt (g.watch.pause c s).2) := by
  by_cases htime : g.settings.timeout ≤ c.now - s.started
  · have hpause : (g.watch.pause c s).2 = .over (.fault (g.watch.timedOut s)) := by
      rw [Watch.pause, if_pos htime]
    have hresult : g.result (polls ++ [poll]) = .fault (g.watch.timedOut s) := by
      rw [result_eq_timedOut hopen, Watch.timedOut, hlast]
    rw [hpause, halt, ← hresult]
    refine .decided polls poll hpolls (.inr ?_)
    rwa [hmoment, ← hstarted]
  · have hpoll : ¬ g.Decides started poll := by
      rintro (⟨state, hstate, hverdict⟩ | hdue)
      · exact hverdict (hopen state hstate)
      · rw [hmoment, ← hstarted] at hdue
        exact htime hdue
    have hall := undecided_append hpolls hpoll
    have hlength : polls.length + 1 = (polls ++ [poll]).length := by simp
    rw [hlength]
    cases hscaled : g.settings.scaled c.factor s.delay with
    | error cause =>
      have hpause : (g.watch.pause c s).2 = .over (.overflow cause) := by
        rw [Watch.pause, if_neg htime, hscaled]
      rw [hpause]
      exact .overflowed _ cause hall
    | ok delay =>
      have hpause : (g.watch.pause c s).2 =
          .rest s (restEnd c.now (min delay (g.settings.timeout - (c.now - s.started)))) := by
        rw [Watch.pause, if_neg htime, hscaled]
        simp [hc]
      rw [hpause]
      exact .resting _ s _ (le_restEnd _ _) hstarted hlast hall

/-- **After an answer** the wait is decided by it, or goes on. -/
theorem waits_receive (hc : c.cancelled = false)
    (hpolls : ∀ poll ∈ polls, ¬ g.Decides started poll) {s : WatchState}
    (hstarted : s.started = started) (hlast : s.lastState = g.lastState polls)
    (answer : Except Fault (A g.request)) :
    g.Waits started c.now (polls ++ [⟨c.now, answer⟩]) (polls.length + 1)
      (g.halt (g.watch.receive c s answer).2) := by
  cases answer with
  | error cause =>
    refine waits_pause hc hpolls rfl (fun state hstate => ?_) hstarted ?_
    · exact absurd hstate (by simp [observed?])
    · rw [lastState_append]
      exact hlast
  | ok answer =>
    have hstate : g.observed? ⟨c.now, .ok answer⟩ = some (g.read answer) := rfl
    have hresult : g.result (polls ++ [⟨c.now, .ok answer⟩]) =
        if g.read answer == g.success then .ok ()
        else if g.failures.contains (g.read answer) then
          .fault (.waitFailed g.resource g.operation (g.word (g.read answer)))
        else .fault (.waitTimeout g.resource g.settings.timeout
          (g.lastState (polls ++ [⟨c.now, .ok answer⟩]))) := by
      rw [result, List.getLast?_concat, Option.bind_some, hstate]
    cases hverdict : g.verdict (g.read answer) with
    | undecided =>
      have hreceive : (g.watch.receive c s (.ok answer)).2 =
          (g.watch.pause c { s with lastState := some (g.word (g.read answer)) }).2 := by
        simp only [Watch.receive, hverdict]
      rw [hreceive]
      refine waits_pause hc hpolls rfl (fun state hsame => ?_) hstarted ?_
      · rw [hstate] at hsame
        rw [← Option.some.inj hsame]
        exact hverdict
      · rw [lastState_append, hstate]
    | success =>
      have hreceive : (g.watch.receive c s (.ok answer)).2 = .over (.ok ()) := by
        simp only [Watch.receive, hverdict]
      have hsuccess : (g.read answer == g.success) = true := by
        by_contra hne
        rw [verdict, if_neg hne] at hverdict
        split at hverdict <;> exact absurd hverdict (by simp)
      rw [if_pos hsuccess] at hresult
      rw [hreceive, halt, ← hresult]
      exact .decided polls _ hpolls (.inl ⟨_, hstate, by simp [hverdict]⟩)
    | failure =>
      have hreceive : (g.watch.receive c s (.ok answer)).2 =
          .over (.fault (g.watch.failed (g.word (g.read answer)))) := by
        simp only [Watch.receive, hverdict]
      have hne : (g.read answer == g.success) = false := by
        by_contra hsuccess
        rw [verdict, if_pos (by simpa using hsuccess)] at hverdict
        exact absurd hverdict (by simp)
      have hfailure : g.failures.contains (g.read answer) = true := by
        by_contra hnone
        rw [verdict, if_neg (by simp [hne]), if_neg hnone] at hverdict
        exact absurd hverdict (by simp)
      rw [if_neg (by simp [hne]), if_pos hfailure] at hresult
      rw [hreceive, halt, Watch.failed]
      have hdecided : g.Waits started c.now _ (polls.length + 1) (.done (g.result _)) :=
        .decided polls ⟨c.now, .ok answer⟩ hpolls (.inl ⟨_, hstate, by simp [hverdict]⟩)
      rwa [hresult] at hdecided

theorem afterLook_eq (c : Conditions) (s : WatchState) (answer : Except Fault (A g.request)) :
    (Thread.afterLook c g.watch s Activity.ofExcept answer).2 =
      g.halt (g.watch.receive c s answer).2 ∧
    ∀ o ∈ (Thread.afterLook c g.watch s Activity.ofExcept answer).1, o.isTalk = false := by
  have hrecords : ∀ (records : List Record), ∀ o ∈ records.map (Occurrence.noted (A := A)),
      o.isTalk = false := by
    intro records o ho
    obtain ⟨record, -, rfl⟩ := List.mem_map.1 ho
    rfl
  have hover : ∀ outcome : Outcome Unit,
      Thread.afterWatch c (R := R) (A := A) Activity.ofExcept outcome = ([], .done outcome) := by
    intro outcome
    cases outcome <;> rfl
  simp only [Thread.afterLook]
  cases (g.watch.receive c s answer).2 with
  | «over» outcome =>
    simp only [hover, List.append_nil]
    exact ⟨rfl, hrecords _⟩
  | rest state due =>
    refine ⟨rfl, fun o ho => ?_⟩
    rcases List.mem_append.1 ho with ho | ho
    · exact hrecords _ o ho
    · obtain rfl := List.mem_singleton.1 ho
      rfl

/-- After a rest comes the next question, unless the next delay has no duration. -/
theorem wake_cases (hc : c.cancelled = false) (s : WatchState) :
    (∃ cause, Thread.afterRest c g.watch s Activity.ofExcept = ([], .done (.overflow cause))) ∨
    ∃ s' : WatchState, s'.started = s.started ∧ s'.lastState = s.lastState ∧
      Thread.afterRest c g.watch s Activity.ofExcept =
        ([.asked g.request], .looking g.watch s' Activity.ofExcept) := by
  cases hdelay : g.settings.nextDelay s.delay with
  | error cause =>
    have hleave : g.watch.leave s = .error cause := by
      rw [Watch.leave, hdelay]
      rfl
    refine .inl ⟨cause, ?_⟩
    rw [Thread.afterRest, hleave]
    rfl
  | ok delay =>
    have hleave : g.watch.leave s = .ok { s with delay } := by
      rw [Watch.leave, hdelay]
      rfl
    refine .inr ⟨{ s with delay, attempt := s.attempt + 1 }, rfl, rfl, ?_⟩
    rw [Thread.afterRest, hleave, Thread.lookAgain, Watch.enter, if_neg (by simp [hc])]

end Steps

end Goal

/-- What happens at a moment, as entries of a process with a single party. -/
def entriesAt (now : Moment) (happened : List (Occurrence R A)) : List (Entry R A) :=
  (eventsHere happened).map (Entry.mk now)

/-- Where there is no talk, nothing is asked and nothing replied. -/
theorem quiet_entriesAt (now : Moment) {happened : List (Occurrence R A)}
    (h : ∀ o ∈ happened, o.isTalk = false) :
    requestCount (entriesAt now happened) = 0 ∧ repliesOf (entriesAt now happened) = [] := by
  have hentry : ∀ e ∈ entriesAt now happened, e.event.occurrence.isTalk = false := by
    intro e he
    obtain ⟨x, hx, rfl⟩ := List.mem_map.1 he
    obtain ⟨o, ho, rfl⟩ := List.mem_map.1 hx
    exact h o ho
  constructor
  · refine List.countP_eq_zero.2 fun e he => ?_
    have htalk := hentry e he
    cases ho : e.event.occurrence <;> simp_all [Occurrence.isTalk, Occurrence.isAsked]
  · refine List.filter_eq_nil_iff.2 fun e he => ?_
    have htalk := hentry e he
    cases ho : e.event.occurrence <;> simp_all [Occurrence.isTalk, Occurrence.isReplied]

/-- **A turn of a wait** that nobody cancels brings a further poll, or a further question, or the end
of the delays. -/
theorem Goal.Waits.resume [BEq S] {g : Goal R A S} {started : Moment} {polls : List (Poll g)}
    {asked : Nat} {thread thread' : Thread R A Unit} {c : Conditions}
    (h : g.Waits started c.now polls asked thread) (hc : c.cancelled = false) {cue : Cue R A}
    {happened : List (Occurrence R A)} (hturn : thread.resume c cue = some (happened, thread'))
    (hanswered : ∀ request text, .replied request (.panic text) ∉ happened) :
    ∃ more : List (Poll g), repliesOf (entriesAt c.now happened) = more.map g.entry ∧
      g.Waits started c.now (polls ++ more) (asked + requestCount (entriesAt c.now happened))
        thread' := by
  cases h with
  | decided | overflowed =>
    rw [Thread.resume_done] at hturn
    exact absurd hturn (by simp)
  | looking _ state hstarted hlast hpolls =>
    cases cue with
    | reply answer =>
      have hlook : ∀ reply : Except Fault (A g.request), answer g.request = .ofExcept reply →
          ∃ more : List (Poll g), repliesOf (entriesAt c.now happened) = more.map g.entry ∧
            g.Waits started c.now (polls ++ more)
              (polls.length + 1 + requestCount (entriesAt c.now happened)) thread' := by
        intro reply hreply
        have hresume : (Thread.looking g.watch state Activity.ofExcept).resume c (.reply answer) =
            some (.replied g.request (.ofExcept reply) ::
              (Thread.afterLook c g.watch state Activity.ofExcept reply).1,
              (Thread.afterLook c g.watch state Activity.ofExcept reply).2) := by
          simp only [Thread.resume, hreply]
          cases reply <;> rfl
        obtain ⟨rfl, rfl⟩ := Prod.mk.inj (Option.some.inj (hresume.symm.trans hturn))
        obtain ⟨hthread, hquiet⟩ := afterLook_eq (g := g) c state reply
        obtain ⟨hasked, hreplies⟩ := quiet_entriesAt c.now hquiet
        refine ⟨[⟨c.now, reply⟩], congrArg (_ :: ·) hreplies, ?_⟩
        have hcount : requestCount (entriesAt c.now (Occurrence.replied g.request
            (.ofExcept reply) :: (Thread.afterLook c g.watch state Activity.ofExcept reply).1)) =
              0 := by
          rw [← hasked]
          exact List.countP_cons_of_neg (by simp [Occurrence.isAsked])
        rw [hcount, Nat.add_zero, hthread]
        exact waits_receive hc hpolls hstarted hlast reply
      cases hanswer : answer g.request with
      | ok value => exact hlook (.ok value) hanswer
      | fault cause => exact hlook (.error cause) hanswer
      | panic text =>
        simp only [Thread.resume, hanswer, Option.some.injEq, Prod.mk.injEq] at hturn
        obtain ⟨rfl, -⟩ := hturn
        exact absurd List.mem_cons_self (hanswered g.request text)
    | _ => exact absurd hturn (by simp [Thread.resume])
  | resting _ state due hdue hstarted hlast hpolls =>
    cases cue with
    | wake =>
      simp only [Thread.resume] at hturn
      split at hturn
      · refine ⟨[], ?_⟩
        rw [List.append_nil]
        rcases wake_cases (g := g) hc state with ⟨cause, hwake⟩ | ⟨state', hsame, hnext, hwake⟩
        · obtain ⟨rfl, rfl⟩ := Prod.mk.inj (hwake.symm.trans (Option.some.inj hturn))
          exact ⟨rfl, .overflowed polls cause hpolls⟩
        · obtain ⟨rfl, rfl⟩ := Prod.mk.inj (hwake.symm.trans (Option.some.inj hturn))
          exact ⟨rfl, .looking polls state' (hsame.trans hstarted) (hnext.trans hlast) hpolls⟩
      · exact absurd hturn (by simp)
    | interrupt => exact absurd hturn (by simp [Thread.resume, hc])
    | _ => exact absurd hturn (by simp [Thread.resume])

/-! ## 5. A whole wait -/

def Activity.about {α : Type} (a : Activity R A α) (c : Conditions) :
    List (Entry R A) × Situation (Thread R A α) :=
  let (happened, thread) := a.proceed c
  (entriesAt c.now happened, ⟨thread, c.now, c.cancelled, false⟩)

/-- A turn of a process with a single party is a turn of its thread. -/
theorem Thread.resume_of_process {α : Type} {c : Conditions} {place : Place} {cue : Cue R A}
    {thread thread' : Thread R A α} {events : List (Event R A)}
    (h : (Thread.process R A α).resume c place cue thread = some (events, thread')) :
    ∃ happened, thread.resume c cue = some (happened, thread') ∧ events = eventsHere happened := by
  simp only [Thread.process] at h
  split at h
  · obtain ⟨⟨happened, next⟩, hresume, heq⟩ := Option.map_eq_some_iff.1 h
    obtain ⟨rfl, rfl⟩ := Prod.mk.inj heq
    exact ⟨happened, hresume, rfl⟩
  · exact absurd h (by simp)

/-- After any moves a thread has a trace of its activity. -/
theorem Activity.trace_follow {α : Type} {a : Activity R A α} {c : Conditions}
    {moves : List (Move R A)} {entries : List (Entry R A)} {s : Situation (Thread R A α)}
    (hrun : (a.about c).2.follow (Thread.process R A α) moves = some (entries, s)) :
    a.Trace (deeds (((a.about c).1 ++ entries).map fun e => e.event.occurrence)) s.state := by
  have hmoment : ∀ (now : Moment) (happened : List (Occurrence R A)),
      (entriesAt now happened).map (fun e => e.event.occurrence) = happened := by
    intro now happened
    rw [entriesAt, eventsHere, List.map_map, List.map_map]
    exact List.map_id' happened
  refine Situation.follow_induction
    (fun s past => a.Trace (deeds (past.map fun e => e.event.occurrence)) s.state) ?_ _ ?_ hrun
  · intro move _ s s' past now htrace hafter
    rw [List.map_append, deeds_append]
    rcases Situation.after?_cases hafter with
      ⟨place, cue, factor, events, thread, -, -, hturn, rfl, rfl⟩ | ⟨-, rfl, rfl⟩ |
        ⟨length, -, rfl, rfl⟩ | ⟨-, rfl, rfl⟩
    · obtain ⟨happened, hresume, rfl⟩ := Thread.resume_of_process hturn
      change a.Trace (_ ++ deeds ((entriesAt s.now happened).map _)) thread
      rw [hmoment]
      exact htrace.resume hresume
    · change a.Trace (_ ++ []) s.state
      rwa [List.append_nil]
    · change a.Trace (_ ++ []) s.state
      rwa [List.append_nil]
    · change a.Trace (_ ++ []) s.state
      rwa [List.append_nil]
  · change a.Trace (deeds ((entriesAt c.now (a.proceed c).1).map _)) (a.proceed c).2
    rw [hmoment]
    exact Activity.trace_proceed c a

@[simp] theorem requestCount_append (xs ys : List (Entry R A)) :
    requestCount (xs ++ ys) = requestCount xs + requestCount ys := List.countP_append ..

@[simp] theorem repliesOf_append (xs ys : List (Entry R A)) :
    repliesOf (xs ++ ys) = repliesOf xs ++ repliesOf ys := List.filter_append ..

def Goal.Course [BEq S] (g : Goal R A S) (started : Moment) (s : Situation (Thread R A Unit))
    (past : List (Entry R A)) : Prop :=
  s.cancelled = false ∧ ∃ (polls : List (Poll g)) (now : Moment),
    repliesOf past = polls.map g.entry ∧ (s.dropped = false → now = s.now) ∧
    g.Waits started now polls (requestCount past) s.state

section Whole

variable [BEq S] {g : Goal R A S} {started : Moment} {c : Conditions}
  {s s' : Situation (Thread R A Unit)} {past : List (Entry R A)}

theorem Goal.course_about (hc : c.cancelled = false) :
    g.Course c.now ((Activity.await g.watch).about c).2 ((Activity.await g.watch).about c).1 := by
  have hproceed : (Activity.await g.watch).proceed c = ([.noted g.watch.opening, .asked g.request],
      .looking g.watch { g.watch.start c.now with attempt := 1 } Activity.ofExcept) := by
    simp [Activity.await, Activity.proceed, Watch.enter, Watch.start, hc]
  rw [Activity.about, hproceed]
  refine ⟨hc, [], c.now, rfl, fun _ => rfl, ?_⟩
  exact .looking [] _ rfl rfl (by simp)

theorem Goal.Waits.pass {now : Moment} {polls : List (Poll g)} {asked : Nat}
    {thread : Thread R A Unit} (h : g.Waits started now polls asked thread) {now' : Moment}
    (hdue : ∀ due, thread.due? = some due → now' ≤ due) :
    g.Waits started now' polls asked thread := by
  cases h with
  | looking _ state hstarted hlast hpolls => exact .looking _ state hstarted hlast hpolls
  | resting _ state due _ hstarted hlast hpolls =>
    exact .resting _ state due (hdue due rfl) hstarted hlast hpolls
  | decided polls poll hpolls hpoll => exact .decided polls poll hpolls hpoll
  | overflowed _ cause hpolls => exact .overflowed _ cause hpolls

/-- **A move of a wait**, other than its cancellation, leaves it as a wait stands. -/
theorem Goal.Course.move (h : g.Course started s past) {move : Move R A} (hmove : move ≠ .cancel)
    {now : List (Entry R A)} (hafter : s.after? (Thread.process R A Unit) move = some (now, s'))
    (hanswered : ∀ e ∈ now, ∀ request text, e.event.occurrence ≠ .replied request (.panic text)) :
    g.Course started s' (past ++ now) := by
  obtain ⟨hc, polls, moment, hreplies, hnow, hwaits⟩ := h
  have hstay : past ++ [] = past := List.append_nil _
  rcases Situation.after?_cases hafter with
    ⟨place, cue, factor, events, thread, -, hdropped, hturn, rfl, rfl⟩ | ⟨rfl, -, -⟩ |
      ⟨length, rfl, rfl, rfl⟩ | ⟨-, rfl, rfl⟩
  · rw [hnow hdropped] at hwaits
    simp only [Thread.process] at hturn
    split at hturn
    · obtain ⟨⟨occurrences, thread'⟩, hresume, heq⟩ := Option.map_eq_some_iff.1 hturn
      obtain ⟨rfl, rfl⟩ := Prod.mk.inj heq
      obtain ⟨more, hmore, hnext⟩ := Goal.Waits.resume (c := ⟨s.now, s.cancelled, factor⟩) hwaits hc
        hresume fun request text hpanic => by
          refine hanswered ⟨s.now, [], .replied request (.panic text)⟩ ?_ request text rfl
          exact List.mem_map_of_mem (List.mem_map_of_mem hpanic)
      have hentries : (eventsHere occurrences).map (Entry.mk s.now) =
          entriesAt s.now occurrences := rfl
      rw [hentries]
      refine ⟨hc, polls ++ more, s.now, ?_, fun _ => rfl, ?_⟩
      · rw [repliesOf_append, hreplies, hmore, List.map_append]
      · rwa [requestCount_append]
    · exact absurd hturn (by simp)
  · exact absurd rfl hmove
  · rw [hstay]
    cases hdropped : s.dropped with
    | true => exact ⟨hc, polls, moment, hreplies, by simp, hwaits⟩
    | false =>
      refine ⟨hc, polls, s.now + length, hreplies, fun _ => rfl, hwaits.pass fun due hdue => ?_⟩
      have hpass : s.mayPass (Thread.process R A Unit) length = true := by
        by_contra hno
        rw [Situation.after?, if_neg hno] at hafter
        exact absurd hafter (by simp)
      simp only [Situation.mayPass, hdropped, Thread.process, hdue, hc, Bool.false_or,
        Option.toList_some, List.all_cons, List.all_nil, Bool.and_true, Bool.not_false,
        Bool.true_or, decide_eq_true_eq] at hpass
      exact hpass
  · rw [hstay]
    exact ⟨hc, polls, moment, hreplies, by simp, hwaits⟩

/-- After any moves but a cancellation, a wait is on its course. -/
theorem Goal.course_follow (hc : c.cancelled = false) {moves : List (Move R A)}
    {entries : List (Entry R A)}
    (hrun : ((Activity.await g.watch).about c).2.follow (Thread.process R A Unit) moves =
      some (entries, s))
    (hmoves : Move.cancel ∉ moves)
    (hanswered : ∀ e ∈ entries, ∀ request text,
      e.event.occurrence ≠ .replied request (.panic text)) :
    g.Course c.now s (((Activity.await g.watch).about c).1 ++ entries) := by
  have hstart : g.Course c.now ((Activity.await g.watch).about c).2
      ((Activity.await g.watch).about c).1 := Goal.course_about hc
  -- That nobody breaks off is known of all entries, so it is part of what the moves preserve.
  refine Situation.follow_induction (fun s past =>
    (∀ e ∈ past, ∀ request text, e.event.occurrence ≠ .replied request (.panic text)) →
      g.Course c.now s past) ?_ _ (fun _ => hstart) hrun ?_
  · intro move hmove s s' past now hcourse hafter hall
    have hne : move ≠ .cancel := by
      rintro rfl
      exact hmoves hmove
    refine (hcourse fun e he => ?_).move hne hafter fun e he => ?_
    · exact hall e (List.mem_append_left _ he)
    · exact hall e (List.mem_append_right _ he)
  · intro e he request text
    rcases List.mem_append.1 he with he | he
    · have hproceed : ∀ o ∈ ((Activity.await g.watch).proceed c).1,
          o ≠ Occurrence.replied request (.panic text) := by
        simp [Activity.await, Activity.proceed, Watch.enter, hc]
      obtain ⟨event, hevent, rfl⟩ := List.mem_map.1 he
      obtain ⟨o, ho, rfl⟩ := List.mem_map.1 hevent
      exact hproceed o ho
    · exact hanswered e he request text

/-- A poll that decides is the last one, and the wait is over. -/
theorem Goal.Waits.settled {now : Moment} {polls : List (Poll g)} {asked : Nat}
    {thread : Thread R A Unit} (h : g.Waits started now polls asked thread) {n : Nat}
    {poll : Poll g} (hpoll : polls[n]? = some poll) (hdecides : g.Decides started poll) :
    n + 1 = polls.length ∧ asked = polls.length ∧ thread = .done (g.result polls) := by
  cases h with
  | looking _ _ _ _ hpolls => exact absurd hdecides (hpolls poll (List.mem_of_getElem? hpoll))
  | resting _ _ _ _ _ _ hpolls => exact absurd hdecides (hpolls poll (List.mem_of_getElem? hpoll))
  | overflowed _ _ hpolls => exact absurd hdecides (hpolls poll (List.mem_of_getElem? hpoll))
  | decided front last hfront _ =>
    have hlength : (front ++ [last]).length = front.length + 1 := by simp
    have hbound : n < front.length + 1 := hlength ▸ (List.getElem?_eq_some_iff.1 hpoll).1
    have hlast : n = front.length := by
      by_contra hne
      rw [List.getElem?_append_left (by omega)] at hpoll
      exact hfront poll (List.mem_of_getElem? hpoll) hdecides
    exact ⟨by rw [hlast, hlength], hlength.symm, rfl⟩

/-- As long as no poll decides, the wait has a question open, or rests, or there is no delay. -/
theorem Goal.Waits.undecided {now : Moment} {polls : List (Poll g)} {asked : Nat}
    {thread : Thread R A Unit} (h : g.Waits started now polls asked thread)
    (hpolls : ∀ poll ∈ polls, ¬ g.Decides started poll) :
    (∃ state, asked = polls.length + 1 ∧ thread = .looking g.watch state Activity.ofExcept) ∨
    (∃ state due, asked = polls.length ∧ now ≤ due ∧
      thread = .resting g.watch state due Activity.ofExcept) ∨
    ∃ cause, thread = .done (.overflow cause) := by
  cases h with
  | looking _ state _ _ _ => exact .inl ⟨state, rfl, rfl⟩
  | resting _ state due hdue _ _ _ => exact .inr (.inl ⟨state, due, rfl, hdue, rfl⟩)
  | overflowed _ cause _ => exact .inr (.inr ⟨cause, rfl⟩)
  | decided front last _ hlast =>
    exact absurd hlast (hpolls last (List.mem_append_right _ List.mem_cons_self))

/-- A wait that is at rest asks again after the rest, unless the next delay has no duration. -/
theorem Goal.rest_ends (hc : s.cancelled = false) (hdropped : s.dropped = false)
    {state : WatchState} {due : Moment}
    (hstate : s.state = .resting g.watch state due Activity.ofExcept) (hdue : s.now ≤ due)
    (factor : Binary64) :
    ∃ more s', s.follow (Thread.process R A Unit) [.pass (due - s.now), .resume [] .wake factor] =
      some (more, s') ∧
      (requestCount more = 1 ∨ ∃ cause, s'.state.outcome? = some (.overflow cause)) := by
  have harrive : s.now + (due - s.now) = due :=
    congrArg Duration.mk (Nat.add_sub_cancel' hdue)
  have hreached : due ≤ due := Nat.le_refl due.nanos
  have hpass : s.after? (Thread.process R A Unit) (.pass (due - s.now)) =
      some ([], { s with now := due }) := by
    rw [Situation.after?, if_pos, harrive]
    simp [Situation.mayPass, hdropped, Thread.process, hstate, Thread.due?, hc, harrive, hreached]
  have hwake : ∀ occurrences thread, Thread.afterRest ⟨due, s.cancelled, factor⟩ g.watch state
      Activity.ofExcept = (occurrences, thread) →
      s.follow (Thread.process R A Unit) [.pass (due - s.now), .resume [] .wake factor] =
        some (entriesAt due occurrences, { s with now := due, state := thread }) := by
    intro occurrences thread hrest
    have hturn : ({ s with now := due } : Situation (Thread R A Unit)).after?
        (Thread.process R A Unit) (.resume [] .wake factor) =
        some (entriesAt due occurrences, { s with now := due, state := thread }) := by
      simp [Situation.after?, hdropped, Thread.process, hstate, Thread.resume, entriesAt, hreached,
        hrest]
    exact Situation.follow_cons.2 ⟨_, _, _, hpass,
      Situation.follow_cons.2 ⟨_, _, _, hturn, rfl, (List.append_nil _).symm⟩, rfl⟩
  rcases wake_cases (g := g) (c := ⟨due, s.cancelled, factor⟩) hc state with
    ⟨cause, hrest⟩ | ⟨state', -, -, hrest⟩
  · exact ⟨_, _, hwake _ _ hrest, .inr ⟨cause, rfl⟩⟩
  · exact ⟨_, _, hwake _ _ hrest, .inl rfl⟩

end Whole

/-- **The outcome of a wait** that nobody cancels.  In every run of it there have been some polls,
with the replies in this order.  A poll that decides is the last one; as many questions were asked as
there are polls, and the wait is over with the result of the polls.  While none decides, the wait is
not over, unless a delay had no duration: either its question may still be answered in every way, or
after a rest it asks again. -/
theorem wait_decided [BEq S] (g : Goal R A S) {c : Conditions} (hc : c.cancelled = false)
    {moves : List (Move R A)} {entries : List (Entry R A)} {s : Situation (Thread R A Unit)}
    (hrun : ((Activity.await g.watch).about c).2.follow (Thread.process R A Unit) moves =
      some (entries, s))
    (hmoves : Move.cancel ∉ moves)
    (hanswered : ∀ e ∈ entries, ∀ request text,
      e.event.occurrence ≠ .replied request (.panic text)) :
    ∃ polls : List (Poll g),
      repliesOf (((Activity.await g.watch).about c).1 ++ entries) = polls.map g.entry ∧
      (∀ n poll, polls[n]? = some poll → g.Decides c.now poll →
        n + 1 = polls.length ∧
        requestCount (((Activity.await g.watch).about c).1 ++ entries) = polls.length ∧
        s.state.outcome? = some (g.result polls)) ∧
      ((∀ poll ∈ polls, ¬ g.Decides c.now poll) →
        (∀ outcome, s.state.outcome? = some outcome → ∃ cause, outcome = .overflow cause) ∧
        (s.state.outcome? = none → s.dropped = false →
          (requestCount (((Activity.await g.watch).about c).1 ++ entries) = polls.length + 1 ∧
            ∀ answer factor, (s.after? (Thread.process R A Unit)
              (.resume [] (.reply answer) factor)).isSome = true) ∨
          (requestCount (((Activity.await g.watch).about c).1 ++ entries) = polls.length ∧
            ∃ length, ∀ factor, ∃ more s', s.follow (Thread.process R A Unit)
              [.pass length, .resume [] .wake factor] = some (more, s') ∧
              (requestCount more = 1 ∨ ∃ cause, s'.state.outcome? = some (.overflow cause))))) := by
  obtain ⟨hcancelled, polls, moment, hreplies, hnow, hwaits⟩ :=
    Goal.course_follow hc hrun hmoves hanswered
  refine ⟨polls, hreplies, ?_, fun hpolls => ?_⟩
  · intro n poll hpoll hdecides
    obtain ⟨hlast, hasked, hstate⟩ := hwaits.settled hpoll hdecides
    refine ⟨hlast, hasked, ?_⟩
    rw [hstate]
    rfl
  · rcases hwaits.undecided hpolls with
      ⟨state, hasked, hstate⟩ | ⟨state, due, hasked, hdue, hstate⟩ | ⟨cause, hstate⟩
    · refine ⟨fun outcome houtcome => ?_, fun _ hdropped => .inl ⟨hasked, fun answer factor => ?_⟩⟩
      · rw [hstate] at houtcome
        exact absurd houtcome (by simp [Thread.outcome?])
      · simp [Situation.after?, hdropped, Thread.process, hstate, Thread.resume]
    · refine ⟨fun outcome houtcome => ?_, fun _ hdropped => .inr ⟨hasked, due - s.now, ?_⟩⟩
      · rw [hstate] at houtcome
        exact absurd houtcome (by simp [Thread.outcome?])
      · rw [hnow hdropped] at hdue
        exact Goal.rest_ends hcancelled hdropped hstate hdue
    · refine ⟨fun outcome houtcome => ⟨cause, ?_⟩, fun hopen => ?_⟩
      · rw [hstate] at houtcome
        exact (Option.some.inj houtcome).symm
      · rw [hstate] at hopen
        exact absurd hopen (by simp [Thread.outcome?])

namespace Sample

open Rehearsal

def arrival : Goal Question Question.Answer String :=
  stateGoal "demo" "waiting for arrival" "THERE" ["THERE", "LOST"]
    (.fixed (.ofWhole 10) (.ofWhole 3))

def stateAnswer (reply : Outcome String) : Cue Question Question.Answer :=
  .reply fun
    | .state => reply

def arrivalMoves : List (Move Question Question.Answer) :=
  [.resume [] (stateAnswer (.ok "UNDERWAY")) 1, .pass (.ofWhole 3), .resume [] .wake 1,
   .resume [] (stateAnswer (.fault (.stackApi "demo" "throttled"))) 1, .pass (.ofWhole 3),
   .resume [] .wake 1, .pass (.ofWhole 60), .resume [] (stateAnswer (.ok "THERE")) 1]

def arrivalStart : Conditions := ⟨⟨0⟩, false, 1⟩

def arrivalRun : Option (List (Entry Question Question.Answer) ×
    Situation (Thread Question Question.Answer Unit)) :=
  ((Activity.await arrival.watch).about arrivalStart).2.follow
    (Thread.process Question Question.Answer Unit) arrivalMoves

def seen (e : Entry Question Question.Answer) : Moment × Option String :=
  match e.event.occurrence with
  | .replied .state (.ok (state : String)) => (e.moment, some state)
  | _ => (e.moment, none)

theorem seen_entry (poll : Poll arrival) :
    seen (arrival.entry poll) = (poll.moment, arrival.observed? poll) := by
  obtain ⟨moment, answer⟩ := poll
  cases answer <;> rfl

def breaksOff (e : Entry Question Question.Answer) : Bool :=
  match e.event.occurrence with
  | .replied _ (.panic _) => true
  | _ => false

end Sample

/-- A success counts that is seen late, even if it is listed as a failure. -/
theorem wait_decided_late :
    ∃ (entries : List (Entry Rehearsal.Question Rehearsal.Question.Answer))
      (s : Situation (Thread Rehearsal.Question Rehearsal.Question.Answer Unit)),
      Sample.arrivalRun = some (entries, s) ∧
      requestCount (((Activity.await Sample.arrival.watch).about Sample.arrivalStart).1 ++
        entries) = 3 ∧ s.state.outcome? = some (.ok ()) := by
  have hseen : Sample.arrivalRun.map (fun run => (run.1.any Sample.breaksOff, (repliesOf
      (((Activity.await Sample.arrival.watch).about Sample.arrivalStart).1 ++ run.1)).map
        Sample.seen)) =
      some (false, [(.ofWhole 0, some "UNDERWAY"), (.ofWhole 3, none),
        (.ofWhole 66, some "THERE")]) := by decide +kernel
  obtain ⟨⟨entries, s⟩, hrun, hseen⟩ := Option.map_eq_some_iff.1 hseen
  obtain ⟨hbroken, hseen⟩ := Prod.mk.inj hseen
  have hmoves : Move.cancel ∉ Sample.arrivalMoves := by
    simp [Sample.arrivalMoves]
  have hanswered : ∀ e ∈ entries, ∀ request text,
      e.event.occurrence ≠ .replied request (.panic text) := by
    intro e he request text hpanic
    have hno := List.any_eq_false.1 hbroken e he
    rw [Sample.breaksOff, hpanic] at hno
    exact absurd hno (by simp)
  obtain ⟨polls, hreplies, hdecided, -⟩ :=
    wait_decided Sample.arrival (c := Sample.arrivalStart) rfl hrun hmoves hanswered
  have hpolls : polls.map (fun poll => (poll.moment, Sample.arrival.observed? poll)) =
      [(.ofWhole 0, some "UNDERWAY"), (.ofWhole 3, none), (.ofWhole 66, some "THERE")] := by
    rw [hreplies, List.map_map] at hseen
    rw [← hseen]
    exact List.map_congr_left fun poll _ => (Sample.seen_entry poll).symm
  obtain ⟨late, hlate, hstate⟩ : ∃ late, polls[2]? = some late ∧
      (late.moment, Sample.arrival.observed? late) = (.ofWhole 66, some "THERE") := by
    rw [← Option.map_eq_some_iff, ← List.getElem?_map, hpolls]
    rfl
  have hobserved := (Prod.mk.inj hstate).2
  obtain ⟨hlength, hasked, houtcome⟩ :=
    hdecided 2 late hlate (.inl ⟨"THERE", hobserved, by decide⟩)
  refine ⟨entries, s, hrun, hasked.trans hlength.symm, houtcome.trans (congrArg some ?_)⟩
  rw [Goal.result, List.getLast?_eq_getElem?, ← hlength, hlate, Option.bind_some, hobserved]
  rfl

end Teardown
