/-
# The deletion of a stack, and the wait for it

To delete a stack and wait for it is one request and then a wait (`Stack.deleteAndWait_eq`).  The
request is made once.  If it is refused, that is what comes out, and nobody asks how the stack is;
if it is granted, the stack is polled until a poll decides, or the time is up, or the wait is
cancelled.

Only two states decide.  A stack that is gone, or of which the deletion is complete, is the
success; a deletion that failed is the failure.  Every other state, and every poll without an
answer, leaves the matter open (`Stack.decides_iff`).

* §1  what a poll shows.  The words in which the service gives a status are read first, so a
      status nobody has heard of is one of the states that leave the matter open.
* §2  the request and the wait, as a commission: what is awaited when it is granted is the stack
      itself.
* §3  which requests are made: one for the deletion, and then only questions for this stack.
* §4  how the wait comes out, from the polls.

`deletion_followed` says so for all sequences of moves: whatever the remote side answers and when,
and whenever the deletion is cancelled.  Only that somebody breaks off instead of answering is
excluded, since then the task ends in a panic and not with an outcome.
-/
import Teardown.Proofs.Commissions

namespace Teardown

/-! ## 1. What a poll shows -/

def Stack.Gone (answer : Except Fault (Option Stack)) : Prop :=
  ∃ current, answer = .ok current ∧ ∀ seen, current = some seen → seen.status = .deleteComplete

def Stack.Stuck (answer : Except Fault (Option Stack)) : Prop :=
  ∃ seen, answer = .ok (some seen) ∧ seen.status = .deleteFailed

section Polls

variable {stack : Stack} {settings : WaitSettings} {granted : Moment}
  {polls : List (Poll (stack.deletionGoal settings))} {poll : Poll (stack.deletionGoal settings)}

theorem Stack.gone_iff :
    (stack.deletionGoal settings).observed? poll = some .deleteComplete ↔ Stack.Gone poll.answer := by
  obtain ⟨moment, answer⟩ := poll
  cases answer with
  | error cause =>
    constructor
    · intro hnone
      exact absurd hnone (by simp [Goal.observed?])
    · rintro ⟨current, hcurrent, -⟩
      exact absurd hcurrent (by simp)
  | ok current =>
    constructor
    · intro hstate
      refine ⟨current, rfl, ?_⟩
      rintro seen rfl
      exact Option.some.inj hstate
    · rintro ⟨current', hcurrent, hseen⟩
      obtain rfl := Except.ok.inj hcurrent
      refine congrArg some ?_
      change (Option.map Stack.status current).getD .deleteComplete = _
      cases current with
      | none => rfl
      | some seen => exact hseen seen rfl

theorem Stack.stuck_iff :
    (stack.deletionGoal settings).observed? poll = some .deleteFailed ↔ Stack.Stuck poll.answer := by
  obtain ⟨moment, answer⟩ := poll
  cases answer with
  | error cause =>
    constructor
    · intro hnone
      exact absurd hnone (by simp [Goal.observed?])
    · rintro ⟨seen, hseen, -⟩
      exact absurd hseen (by simp)
  | ok current =>
    constructor
    · intro hstate
      have hstatus : (Option.map Stack.status current).getD .deleteComplete = .deleteFailed :=
        Option.some.inj hstate
      cases current with
      | none => exact absurd hstatus (by simp)
      | some seen => exact ⟨seen, rfl, hstatus⟩
    · rintro ⟨seen, hseen, hstatus⟩
      obtain rfl := Except.ok.inj hseen
      exact congrArg some hstatus

theorem Stack.verdict_ne_undecided_iff (status : StackStatus) :
    (stack.deletionGoal settings).verdict status ≠ .undecided ↔
      status = .deleteComplete ∨ status = .deleteFailed := by
  cases status <;> simp [Goal.verdict, Stack.deletionGoal]

/-- **Which polls decide**: those that show the stack gone or its deletion failed, and those that are
answered when the time is up. -/
theorem Stack.decides_iff : (stack.deletionGoal settings).Decides granted poll ↔
    Stack.Gone poll.answer ∨ Stack.Stuck poll.answer ∨ settings.timeout ≤ poll.moment - granted := by
  rw [← Stack.gone_iff, ← Stack.stuck_iff]
  constructor
  · rintro (⟨status, hstatus, hverdict⟩ | htime)
    · rcases (Stack.verdict_ne_undecided_iff status).1 hverdict with rfl | rfl
      · exact .inl hstatus
      · exact .inr (.inl hstatus)
    · exact .inr (.inr htime)
  · rintro (hgone | hstuck | htime)
    · exact .inl ⟨_, hgone, (Stack.verdict_ne_undecided_iff _).2 (.inl rfl)⟩
    · exact .inl ⟨_, hstuck, (Stack.verdict_ne_undecided_iff _).2 (.inr rfl)⟩
    · exact .inr htime

theorem Stack.verdict_eq_success_iff {status : StackStatus} :
    (stack.deletionGoal settings).verdict status = .success ↔ status = .deleteComplete := by
  cases status <;> simp [Goal.verdict, Stack.deletionGoal]

theorem Stack.verdict_eq_failure_iff {status : StackStatus} :
    (stack.deletionGoal settings).verdict status = .failure ↔ status = .deleteFailed := by
  cases status <;> simp [Goal.verdict, Stack.deletionGoal]

/-- **A poll shows the success** of a deletion if it shows the stack gone. -/
theorem Stack.shows_success_iff :
    (∃ status, (stack.deletionGoal settings).Shows .success poll status) ↔ Stack.Gone poll.answer := by
  rw [← Stack.gone_iff]
  constructor
  · rintro ⟨status, hstatus, hverdict⟩
    rwa [Stack.verdict_eq_success_iff.1 hverdict] at hstatus
  · exact fun hgone => ⟨_, hgone, Stack.verdict_eq_success_iff.2 rfl⟩

/-- **It shows the failure** if it shows that the deletion failed. -/
theorem Stack.shows_failure_iff :
    (∃ status, (stack.deletionGoal settings).Shows .failure poll status ∧
        (stack.deletionGoal settings).word status = "DELETE_FAILED") ↔ Stack.Stuck poll.answer := by
  rw [← Stack.stuck_iff]
  constructor
  · rintro ⟨status, ⟨hstatus, hverdict⟩, -⟩
    rwa [Stack.verdict_eq_failure_iff.1 hverdict] at hstatus
  · exact fun hstuck => ⟨_, ⟨hstuck, Stack.verdict_eq_failure_iff.2 rfl⟩, rfl⟩

/-- If the last poll shows neither, the time is up. -/
theorem Stack.result_late (front : List (Poll (stack.deletionGoal settings)))
    (hgone : ¬ Stack.Gone poll.answer) (hstuck : ¬ Stack.Stuck poll.answer) :
    ∃ last, (stack.deletionGoal settings).result (front ++ [poll]) =
      .fault (.waitTimeout stack.name settings.timeout last) := by
  refine ⟨_, Goal.result_eq_timedOut fun status hstatus => ?_⟩
  by_contra hverdict
  rcases (Stack.verdict_ne_undecided_iff status).1 hverdict with rfl | rfl
  · exact hgone (Stack.gone_iff.1 hstatus)
  · exact hstuck (Stack.stuck_iff.1 hstatus)

end Polls

/-! ## 2. The request and the wait -/

def Stack.deletionRecord (stack : Stack) (receipt : Receipt) : Record :=
  ⟨.info, "strata_stack::collection", "Stack deletion requested",
    [("stack", .text stack.name), ("operation_id", .text receipt.id)]⟩

def Stack.afterRequest (stack : Stack) (settings : WaitSettings) : Except Fault Receipt → Action Unit
  | .ok receipt => .note (stack.deletionRecord receipt) (.await (stack.deletionGoal settings).watch)
  | .error cause => .fail cause

theorem Stack.deleteAndWait_eq (stack : Stack) (settings : WaitSettings) :
    stack.deleteAndWait settings = .ask (.deleteStack stack) (stack.afterRequest settings) := by
  refine congrArg (Activity.ask (Request.deleteStack stack)) (funext fun answer => ?_)
  cases answer with
  | error cause => rfl
  | ok receipt =>
    change _ = Activity.note (stack.deletionRecord receipt)
      (.await (stack.deletionGoal settings).watch)
    rw [← stack.deletionWatch_eq settings]
    rfl

/-- The deletion of a stack as a commission: what is awaited when it is granted is the stack itself. -/
def Stack.deletion (stack : Stack) (settings : WaitSettings) :
    Commission Request Request.Answer StackStatus Unit where
  request := .deleteStack stack
  opening := fun receipt : Receipt => [stack.deletionRecord receipt]
  goal _ := stack.deletionGoal settings
  closing _ := []
  value _ := ()

theorem Stack.next_deletion (stack : Stack) (settings : WaitSettings) :
    (stack.deletion settings).next = stack.afterRequest settings := by
  funext answer
  cases answer with
  | error cause => rfl
  | ok receipt =>
    change Activity.note (stack.deletionRecord receipt)
      ((Activity.await (stack.deletionGoal settings).watch).bind Activity.pure) = _
    rw [Activity.bind_pure_right]
    rfl

theorem Stack.deleteAndWait_eq_activity (stack : Stack) (settings : WaitSettings) :
    stack.deleteAndWait settings = (stack.deletion settings).activity := by
  rw [Stack.deleteAndWait_eq, ← Stack.next_deletion]
  rfl

section Deletion

variable {stack : Stack} {settings : WaitSettings} {s s' : Situation (Thread Request Request.Answer Unit)}
  {past entries : List (Entry Request Request.Answer)} {c : Conditions}

/-- How a deletion stands, with all that has happened: the request is open, or it was refused, or it was
granted and the wait for the stack fares as waits do. -/
inductive Stack.Deleting (stack : Stack) (settings : WaitSettings)
    (s : Situation (Thread Request Request.Answer Unit)) (past : List (Entry Request Request.Answer)) :
    Prop
  | requested : s.state = .asking (.deleteStack stack) (stack.afterRequest settings) →
      requestCount past = 1 → repliesOf past = [] → Deleting stack settings s past
  | refused (moment : Moment) (cause : Fault) : s.state = .done (.fault cause) →
      requestCount past = 1 →
      repliesOf past = [⟨moment, [], .replied (.deleteStack stack) (.fault cause)⟩] →
      Deleting stack settings s past
  | granted (moment : Moment) (receipt : Receipt) (polls : List (Poll (stack.deletionGoal settings)))
      (asked : Nat) : (stack.deletionGoal settings).Faring moment s polls asked →
      requestCount past = asked + 1 →
      repliesOf past = ⟨moment, [], .replied (.deleteStack stack) (.ok receipt)⟩ ::
        polls.map (stack.deletionGoal settings).entry →
      Deleting stack settings s past

/-- A deletion stands as a commission does, if nobody breaks off instead of answering. -/
theorem Stack.deleting_of_stands {beforehand : Bool}
    (h : (stack.deletion settings).Stands beforehand s past)
    (hanswered : ∀ e ∈ past, ∀ request text,
      e.event.occurrence ≠ .replied request (.panic text)) :
    stack.Deleting settings s past := by
  have hreplied : ∀ {e}, e ∈ repliesOf past → ∀ request text,
      e.event.occurrence ≠ .replied request (.panic text) :=
    fun he => hanswered _ (List.mem_of_mem_filter he)
  cases h with
  | asking hstate _ hrequests hreplies =>
    refine .requested (hstate.trans ?_) ?_ hreplies
    · rw [Stack.next_deletion]
      rfl
    · rw [← length_requestsOf, hrequests]
      rfl
  | declined moment reply hreply hstate hrequests hreplies =>
    cases reply with
    | ok receipt => exact absurd hreply (by simp [Outcome.isOk])
    | panic text => exact absurd rfl (hreplied (hreplies ▸ List.mem_cons_self) _ text)
    | fault cause =>
      refine .refused moment cause hstate ?_ hreplies
      rw [← length_requestsOf, hrequests]
      rfl
  | cutOff moment receipt hcancelled hstate hrequests hreplies =>
    refine .granted moment receipt [] 0 ⟨s.now, fun _ => rfl, ?_⟩ ?_ hreplies
    · rw [hstate]
      exact .interrupted hcancelled (by simp)
    · rw [← length_requestsOf, hrequests]
      rfl
  | waiting moment receipt polls asked t _ hs hfaring hrequests hreplies =>
    refine .granted moment receipt polls asked ?_ ?_ hreplies
    · rw [hs]
      exact (Situation.concluding_nil t).symm ▸ hfaring
    · rw [← length_requestsOf, hrequests, List.length_cons, List.length_replicate]
  | brokenOff moment receipt polls broken text _ _ _ _ hreplies =>
    have hmem : (⟨broken, [], .replied (.describeStack stack.name) (.panic text)⟩ :
        Entry Request Request.Answer) ∈ repliesOf past :=
      hreplies ▸ List.mem_append_right _ List.mem_cons_self
    exact absurd rfl (hreplied hmem _ text)

/-- **After any moves** a deletion stands as deletions do, if nobody breaks off instead of answering. -/
theorem Stack.deleting_follow {moves : List (Move Request Request.Answer)}
    (hrun : ((stack.deleteAndWait settings).about c).2.follow
      (Thread.process Request Request.Answer Unit) moves = some (entries, s))
    (hanswered : ∀ e ∈ entries, ∀ request text,
      e.event.occurrence ≠ .replied request (.panic text)) :
    stack.Deleting settings s (((stack.deleteAndWait settings).about c).1 ++ entries) := by
  rw [Stack.deleteAndWait_eq_activity] at hrun ⊢
  refine Stack.deleting_of_stands (Commission.stands_follow hrun) fun e he request text => ?_
  rcases List.mem_append.1 he with he | he
  · obtain rfl := List.mem_singleton.1 (show e ∈ [_] from he)
    simp
  · exact hanswered e he request text

/-! ## 3. Which requests -/

/-- The questions among some entries are the requests that they make. -/
theorem occurrence_questionsOf {R : Type} {A : R → Type} (entries : List (Entry R A)) :
    (questionsOf entries).map (fun e => e.event.occurrence) = (requestsOf entries).map .asked := by
  induction entries with
  | nil => rfl
  | cons e entries ih =>
    rw [questionsOf, requestsOf, List.filter_cons, List.filterMap_cons]
    cases ho : e.event.occurrence with
    | asked request => exact congrArg₂ List.cons ho ih
    | _ => exact ih

/-- **The requests of a deletion**: one for the deletion, and then only questions for the stack. -/
theorem Stack.questions_follow {moves : List (Move Request Request.Answer)}
    (hrun : ((stack.deleteAndWait settings).about c).2.follow
      (Thread.process Request Request.Answer Unit) moves = some (entries, s)) :
    ∃ n, (questionsOf (((stack.deleteAndWait settings).about c).1 ++ entries)).map
        (fun e => e.event.occurrence) =
      .asked (.deleteStack stack) :: List.replicate n (.asked (.describeStack stack.name)) := by
  rw [Stack.deleteAndWait_eq_activity] at hrun ⊢
  obtain ⟨n, hrequests⟩ : ∃ n, requestsOf (((stack.deletion settings).activity.about c).1 ++ entries) =
      .deleteStack stack :: List.replicate n (.describeStack stack.name) := by
    cases Commission.stands_follow hrun with
    | asking _ _ hrequests => exact ⟨0, hrequests⟩
    | declined _ _ _ _ hrequests => exact ⟨0, hrequests⟩
    | cutOff _ _ _ _ hrequests => exact ⟨0, hrequests⟩
    | waiting _ _ _ asked _ _ _ _ hrequests => exact ⟨asked, hrequests⟩
    | brokenOff _ _ polls _ _ _ _ _ hrequests => exact ⟨polls.length + 1, hrequests⟩
  exact ⟨n, by rw [occurrence_questionsOf, hrequests, List.map_cons, List.map_replicate]⟩

/-! ## 4. How the wait comes out -/

/-- A poll decides: it shows the stack gone, or its deletion failed, or it was answered when the time was
up. -/
def Stack.Decisive (settings : WaitSettings) (granted moment : Moment)
    (answer : Except Fault (Option Stack)) : Prop :=
  Stack.Gone answer ∨ Stack.Stuck answer ∨ settings.timeout ≤ moment - granted

/-- What is said of a deletion that was granted at a moment, after some polls and as many questions. -/
structure Stack.Awaited (stack : Stack) (settings : WaitSettings) (granted : Moment)
    (polls : List (Poll (stack.deletionGoal settings))) (asked : Nat)
    (s : Situation (Thread Request Request.Answer Unit)) : Prop where
  /-- The first poll that decides is the last one, and no question follows it. -/
  last : ∀ n poll, polls[n]? = some poll → Stack.Decisive settings granted poll.moment poll.answer →
    n + 1 = polls.length ∧ asked = polls.length ∧ s.state.outcome?.isSome = true
  /-- The deletion succeeds if a poll shows the stack gone, and only then. -/
  gone : s.state.outcome? = some (.ok ()) ↔ ∃ poll ∈ polls, Stack.Gone poll.answer
  /-- The deletion fails if a poll shows so, and only then. -/
  stuck : s.state.outcome? =
      some (.fault (.waitFailed stack.name "waiting for stack deletion" "DELETE_FAILED")) ↔
    ∃ poll ∈ polls, Stack.Stuck poll.answer
  /-- The time is up if a poll that shows neither is answered too late. -/
  late : ∀ poll ∈ polls, ¬ Stack.Gone poll.answer → ¬ Stack.Stuck poll.answer →
    settings.timeout ≤ poll.moment - granted →
    ∃ seen, s.state.outcome? = some (.fault (.waitTimeout stack.name settings.timeout seen))
  /-- Without a poll that decides, only the cancellation ends the wait, or a delay without a duration. -/
  ends : (∀ poll ∈ polls, ¬ Stack.Decisive settings granted poll.moment poll.answer) →
    ∀ outcome, s.state.outcome? = some outcome →
      (s.cancelled = true ∧
        outcome = .fault (.cancelled ("waiting for stack deletion (" ++ stack.name ++ ")"))) ∨
      ∃ cause, outcome = .overflow cause
  /-- As long as the wait is not over, a question is open, which may be answered in every way; or there is a
  rest, which the cancellation ends, and after which there is another question otherwise. -/
  goesOn : (∀ poll ∈ polls, ¬ Stack.Decisive settings granted poll.moment poll.answer) →
    s.state.outcome? = none → s.dropped = false →
      (asked = polls.length + 1 ∧ ∀ answer factor,
        (s.after? (Thread.process Request Request.Answer Unit)
          (.resume [] (.reply answer) factor)).isSome = true) ∨
      (asked = polls.length ∧
        (s.cancelled = true → ∀ factor, ∃ s', s.after? (Thread.process Request Request.Answer Unit)
          (.resume [] .interrupt factor) = some ([], s') ∧ s'.state.outcome? =
            some (.fault (.cancelled ("waiting for stack deletion (" ++ stack.name ++ ")")))) ∧
        (s.cancelled = false → ∃ length, ∀ factor, ∃ more s',
          s.follow (Thread.process Request Request.Answer Unit)
            [.pass length, .resume [] .wake factor] = some (more, s') ∧
          (requestCount more = 1 ∨ ∃ cause, s'.state.outcome? = some (.overflow cause))))

variable {granted : Moment} {polls : List (Poll (stack.deletionGoal settings))} {asked : Nat}

/-- **The wait for a stack** that fares as waits do. -/
theorem Stack.awaited_of_faring (h : (stack.deletionGoal settings).Faring granted s polls asked) :
    stack.Awaited settings granted polls asked s := by
  have hawaited : (stack.deletionGoal settings).Awaited granted () polls asked (s.concluding [] ()) :=
    h.awaited
  rw [Situation.concluding_nil] at hawaited
  have hopen : (∀ poll ∈ polls, ¬ Stack.Decisive settings granted poll.moment poll.answer) →
      ∀ poll ∈ polls, ¬ (stack.deletionGoal settings).Decides granted poll :=
    fun hnone poll hpoll hdecides => hnone poll hpoll (Stack.decides_iff.1 hdecides)
  constructor
  case last =>
    intro n poll hpoll hdecides
    obtain ⟨hlast, hasked, houtcome⟩ := hawaited.decided n poll hpoll (Stack.decides_iff.2 hdecides)
    exact ⟨hlast, hasked, by rw [houtcome]; rfl⟩
  case gone =>
    exact hawaited.succeeded.trans (exists_congr fun _ => and_congr_right fun _ => Stack.shows_success_iff)
  case stuck =>
    exact (hawaited.failed "DELETE_FAILED").trans
      (exists_congr fun _ => and_congr_right fun _ => Stack.shows_failure_iff)
  case late =>
    intro poll hpoll hgone hstuck htime
    obtain ⟨n, hn⟩ := List.getElem?_of_mem hpoll
    obtain ⟨hlast, -, houtcome⟩ := hawaited.decided n poll hn (Stack.decides_iff.2 (.inr (.inr htime)))
    -- The poll that came too late is the last one, and it tells what comes out.
    obtain ⟨front, rfl⟩ : ∃ front, polls = front ++ [poll] := by
      refine ⟨polls.dropLast, (List.dropLast_append_getLast? poll ?_).symm⟩
      rw [List.getLast?_eq_getElem?, ← hlast, Nat.add_sub_cancel, hn]
      exact Option.mem_some_self poll
    obtain ⟨seen, hresult⟩ := Stack.result_late front hgone hstuck
    exact ⟨seen, by rw [houtcome, hresult]; rfl⟩
  case ends => exact fun hnone => hawaited.ends (hopen hnone)
  case goesOn => exact fun hnone => hawaited.goesOn (hopen hnone)

end Deletion

/-- **A deletion that is waited for**, after any moves in which nobody breaks off instead of answering: the
answers may be any and come at any time, and so may the cancellation.  The deletion is requested once, and all
other questions are how this stack is.  While the request is open nothing more has happened.  If it was
refused, the refusal is what comes out, and there was no question.  If it was granted, the polls tell what
comes out. -/
theorem deletion_followed (stack : Stack) (settings : WaitSettings) {c : Conditions}
    {moves : List (Move Request Request.Answer)} {entries : List (Entry Request Request.Answer)}
    {s : Situation (Thread Request Request.Answer Unit)}
    (hrun : ((stack.deleteAndWait settings).about c).2.follow
      (Thread.process Request Request.Answer Unit) moves = some (entries, s))
    (hanswered : ∀ e ∈ entries, ∀ request text,
      e.event.occurrence ≠ .replied request (.panic text)) :
    ∃ asked : Nat,
      (questionsOf (((stack.deleteAndWait settings).about c).1 ++ entries)).map
          (fun e => e.event.occurrence) =
        .asked (.deleteStack stack) :: List.replicate asked (.asked (.describeStack stack.name)) ∧
      ((repliesOf (((stack.deleteAndWait settings).about c).1 ++ entries) = [] ∧ asked = 0 ∧
          s.state.outcome? = none) ∨
        (∃ moment cause, repliesOf (((stack.deleteAndWait settings).about c).1 ++ entries) =
            [⟨moment, [], .replied (.deleteStack stack) (.fault cause)⟩] ∧ asked = 0 ∧
          s.state.outcome? = some (.fault cause)) ∨
        ∃ (granted : Moment) (receipt : Receipt) (polls : List (Poll (stack.deletionGoal settings))),
          repliesOf (((stack.deleteAndWait settings).about c).1 ++ entries) =
            ⟨granted, [], .replied (.deleteStack stack) (.ok receipt)⟩ ::
              polls.map (stack.deletionGoal settings).entry ∧
          stack.Awaited settings granted polls asked s) := by
  obtain ⟨asked, hquestions⟩ := Stack.questions_follow hrun
  have hcount : requestCount (((stack.deleteAndWait settings).about c).1 ++ entries) = asked + 1 := by
    have hlength := congrArg List.length hquestions
    rwa [List.length_map, length_questionsOf, List.length_cons, List.length_replicate] at hlength
  refine ⟨asked, hquestions, ?_⟩
  rcases Stack.deleting_follow hrun hanswered with
    ⟨hstate, hone, hreplies⟩ | ⟨moment, cause, hstate, hone, hreplies⟩ |
      ⟨granted, receipt, polls, asked', hfaring, hasked, hreplies⟩
  · refine .inl ⟨hreplies, by omega, ?_⟩
    rw [hstate]
    rfl
  · refine .inr (.inl ⟨moment, cause, hreplies, by omega, ?_⟩)
    rw [hstate]
    rfl
  · obtain rfl : asked' = asked := by omega
    exact .inr (.inr ⟨granted, receipt, polls, hreplies, Stack.awaited_of_faring hfaring⟩)

namespace Sample

/-- A stack that takes its time to go. -/
def slowStack : Stack := .plain "strata-demo-nodegroup-workers" .nodeGroup .createComplete

def described (status : Outcome (Option StackStatus)) : Cue Request Request.Answer :=
  .reply fun
    | .describeStack name => status.map fun status => status.map (.plain name .nodeGroup)
    | .deleteStack stack => .ok ⟨stack.name, "req-1"⟩
    | _ => .panic none

def slowMoves : List (Move Request Request.Answer) :=
  [.resume [] (described (.ok none)) 1, .resume [] (described (.ok (some .rollbackComplete))) 1,
   .pass (.ofWhole 5), .resume [] .wake 1, .resume [] (described (.fault (.stackApi "demo" "throttled"))) 1,
   .pass (.ofWhole 5), .resume [] .wake 1, .resume [] (described (.ok none)) 1]

def slowRun : Option (List (Entry Request Request.Answer) ×
    Situation (Thread Request Request.Answer Unit)) :=
  ((slowStack.deleteAndWait (.fixed (.ofWhole 60) (.ofWhole 5))).about ⟨⟨0⟩, false, 1⟩).2.follow
    (Thread.process Request Request.Answer Unit) slowMoves

def shown (e : Entry Request Request.Answer) : Option (Option StackStatus) :=
  match e.event.occurrence with
  | .replied (.describeStack _) (.ok (current : Option Stack)) => some (current.map Stack.status)
  | _ => none

def isBroken (e : Entry Request Request.Answer) : Bool :=
  match e.event.occurrence with
  | .replied _ (.panic _) => true
  | _ => false

theorem answer_of_shown {settings : WaitSettings} {poll : Poll (slowStack.deletionGoal settings)}
    (h : shown ((slowStack.deletionGoal settings).entry poll) = some none) : poll.answer = .ok none := by
  obtain ⟨moment, answer⟩ := poll
  cases answer with
  | error cause => exact absurd (show (none : Option (Option StackStatus)) = some none from h) (by simp)
  | ok current =>
    have hnone : current.map Stack.status = none := Option.some.inj h
    exact congrArg Except.ok (Option.map_eq_none_iff.1 hnone)

end Sample

/-- A stack that is rolled back and cannot be described once is not gone before it is. -/
theorem deletion_followed_slowly :
    ∃ (entries : List (Entry Request Request.Answer))
      (s : Situation (Thread Request Request.Answer Unit)),
      Sample.slowRun = some (entries, s) ∧ s.state.outcome? = some (.ok ()) := by
  have hseen : Sample.slowRun.map (fun run => (run.1.any Sample.isBroken,
      (repliesOf (((Sample.slowStack.deleteAndWait (.fixed (.ofWhole 60) (.ofWhole 5))).about
        ⟨⟨0⟩, false, 1⟩).1 ++ run.1)).map Sample.shown)) =
      some (false, [none, some (some .rollbackComplete), none, some none]) := by decide +kernel
  obtain ⟨⟨entries, s⟩, hrun, hseen⟩ := Option.map_eq_some_iff.1 hseen
  obtain ⟨hbroken, hseen⟩ := Prod.mk.inj hseen
  have hanswered : ∀ e ∈ entries, ∀ request text,
      e.event.occurrence ≠ .replied request (.panic text) := by
    intro e he request text hpanic
    have hno := List.any_eq_false.1 hbroken e he
    rw [Sample.isBroken, hpanic] at hno
    exact absurd hno (by simp)
  refine ⟨entries, s, hrun, ?_⟩
  obtain ⟨asked, -, ⟨hnone, -⟩ | ⟨moment, cause, hone, -⟩ | ⟨granted, receipt, polls, hreplies, hawaited⟩⟩ :=
    deletion_followed Sample.slowStack (.fixed (.ofWhole 60) (.ofWhole 5)) hrun hanswered
  · rw [hnone] at hseen
    exact absurd hseen (by simp)
  · rw [hone] at hseen
    exact absurd hseen (by simp)
  · rw [hreplies, List.map_cons, List.map_map] at hseen
    have hpolls := (List.cons.inj hseen).2
    obtain ⟨poll, hpoll, hgone⟩ : ∃ poll ∈ polls,
        Sample.shown ((Sample.slowStack.deletionGoal _).entry poll) = some none := by
      have hmem : some none ∈ polls.map (Sample.shown ∘ (Sample.slowStack.deletionGoal _).entry) := by
        rw [hpolls]
        simp
      exact List.mem_map.1 hmem
    refine hawaited.gone.2 ⟨poll, hpoll, none, Sample.answer_of_shown hgone, ?_⟩
    exact fun seen hseen => absurd hseen (by simp)

end Teardown
