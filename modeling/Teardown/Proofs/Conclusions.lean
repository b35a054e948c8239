/-
# Threads with a conclusion

What follows a wait is often no more than some records and a value.  A thread with such a
conclusion to come (`Thread.concluding`) moves as the thread does, and writes the records when it
is done (`Thread.resume_concluding`, `Situation.after?_concluding`).  So what is known of a wait
by itself holds of it as a part of something larger.

Where only a request comes before the end, there is no wait at all: whatever situation such an
activity reaches, the request was made once, and its reply decides what comes out
(`Activity.Reaches.lastAsked`); with a conclusion it is the reply itself
(`Activity.Reaches.inquired`).

* §1  threads: one lemma for each function of which a turn is made, each saying that the
      conclusion can be taken out.
* §2  the requests among some entries, which is what the statements about waits are in terms of.
* §3  situations.  A move with a conclusion is the move without it, and at the end some records
      more, none of which is talk with the other side (`quiet_concluded`).
* §4, §5  a single request, without and with a conclusion.
-/
import Teardown.Proofs.Interruption

namespace Teardown

variable {R : Type} {A : R → Type} {α : Type}

/-! ## 1. Threads with a conclusion -/

/-- Some records, and then a value. -/
def Activity.conclusion (records : List Record) (value : α) : Activity R A α :=
  (Activity.sayAll records).bind fun _ => Activity.pure value

theorem Activity.proceed_sayAll {records : List Record} {next : Activity R A α} {c : Conditions} :
    ((Activity.sayAll records).bind fun _ => next).proceed c =
      (records.map .noted ++ (next.proceed c).1, (next.proceed c).2) := by
  induction records with
  | nil => rfl
  | cons record records ih =>
    rw [Activity.sayAll, Activity.bind, Activity.proceed, ih]
    rfl

namespace Thread

variable {records : List Record} {value : α} {c : Conditions}

/-- The thread, with a conclusion to come when it is done. -/
def concluding (records : List Record) (value : α) : Thread R A Unit → Thread R A α
  | .asking q next =>
    .asking q fun answer => (next answer).bind fun _ => .conclusion records value
  | .looking w s next =>
    .looking w s fun answer => (next answer).bind fun _ => .conclusion records value
  | .resting w s due next =>
    .resting w s due fun answer => (next answer).bind fun _ => .conclusion records value
  | .done outcome => .done (outcome.map fun _ => value)

/-- The records of the conclusion, if the thread has come to it. -/
def concluded (records : List Record) : Thread R A Unit → List (Occurrence R A)
  | .done (.ok _) => records.map .noted
  | _ => []

/-- A turn, with the conclusion if the thread has come to it. -/
def conclude (records : List Record) (value : α)
    (step : List (Occurrence R A) × Thread R A Unit) : List (Occurrence R A) × Thread R A α :=
  (step.1 ++ step.2.concluded records, step.2.concluding records value)

/-- A thread without records and without a value to come is the thread itself. -/
theorem concluding_nil (thread : Thread R A Unit) : thread.concluding [] () = thread := by
  have hnothing : (fun _ : Unit => (Activity.conclusion [] () : Activity R A Unit)) = .pure := rfl
  cases thread with
  | asking | looking | resting => simp only [concluding, hnothing, Activity.bind_pure_right]
  | done outcome => cases outcome <;> rfl

@[simp] theorem due?_concluding (thread : Thread R A Unit) :
    (thread.concluding records value).due? = thread.due? := by
  cases thread <;> rfl

@[simp] theorem outcome?_concluding (thread : Thread R A Unit) :
    (thread.concluding records value).outcome? =
      thread.outcome?.map fun outcome => outcome.map fun _ => value := by
  cases thread <;> rfl

theorem proceed_conclusion : (Activity.conclusion records value : Activity R A α).proceed c =
    (records.map .noted, .done (.ok value)) := by
  rw [Activity.conclusion, Activity.proceed_sayAll, Activity.pure, Activity.proceed, List.append_nil]

/-- The conclusion follows what an activity does at once, if this is all. -/
theorem proceed_concluding (a : Activity R A Unit) :
    (a.bind fun _ => .conclusion records value).proceed c = conclude records value (a.proceed c) := by
  induction a with
  | finish outcome =>
    cases outcome with
    | ok _ => exact proceed_conclusion
    | fault _ | panic _ => rfl
  | note record next ih =>
    rw [Activity.bind, Activity.proceed, ih]
    rfl
  | ask request next _ => rfl
  | watch w next ih =>
    rw [Activity.bind, Activity.proceed, Activity.proceed]
    cases w.enter c (w.start c.now) with
    | some state => rfl
    | none =>
      rw [ih]
      rfl

variable {next : Except Fault Unit → Activity R A Unit}

theorem afterWatch_concluding (outcome : Outcome Unit) :
    afterWatch c (fun answer => (next answer).bind fun _ => .conclusion records value) outcome =
      conclude records value (afterWatch c next outcome) := by
  cases outcome with
  | ok _ | fault _ => exact proceed_concluding _
  | panic _ => rfl

theorem afterReply_concluding {request : R} {next : Except Fault (A request) → Activity R A Unit}
    (outcome : Outcome (A request)) :
    afterReply c (fun answer => (next answer).bind fun _ => .conclusion records value) outcome =
      conclude records value (afterReply c next outcome) := by
  cases outcome with
  | ok _ | fault _ => exact proceed_concluding _
  | panic _ => rfl

theorem afterLook_concluding (w : Watch R A) (s : WatchState) (answer : Except Fault (A w.request)) :
    afterLook c w s (fun answer => (next answer).bind fun _ => .conclusion records value) answer =
      conclude records value (afterLook c w s next answer) := by
  unfold afterLook
  generalize w.receive c s answer = received
  obtain ⟨noted, step⟩ := received
  cases step with
  | rest state due => simp [conclude, concluded, concluding]
  | «over» outcome => simp only [afterWatch_concluding, conclude, List.append_assoc]

theorem afterRest_concluding (w : Watch R A) (s : WatchState) :
    afterRest c w s (fun answer => (next answer).bind fun _ => .conclusion records value) =
      conclude records value (afterRest c w s next) := by
  unfold afterRest
  cases w.leave s with
  | error cause => simp only [lookAgain, afterWatch_concluding]
  | ok state =>
    simp only [lookAgain]
    cases w.enter c state with
    | none => exact proceed_concluding (next (.error w.interrupted))
    | some state => rfl

/-- **A turn of a thread with a conclusion** is one of the thread, and the conclusion if the thread is
done with it. -/
theorem resume_concluding (thread : Thread R A Unit) (cue : Cue R A) :
    (thread.concluding records value).resume c cue =
      (thread.resume c cue).map (conclude records value) := by
  cases thread with
  | done outcome => rw [concluding, resume_done, resume_done, Option.map_none]
  | asking request next =>
    cases cue with
    | reply answer => simp only [concluding, resume, afterReply_concluding, Option.map_some]; rfl
    | _ => rfl
  | looking w state next =>
    cases cue with
    | reply answer =>
      simp only [concluding, resume, Option.map_some]
      cases answer w.request with
      | ok value => simp only [afterLook_concluding]; rfl
      | fault cause => simp only [afterLook_concluding]; rfl
      | panic text => rfl
    | _ => rfl
  | resting w state due next =>
    cases cue with
    | wake =>
      simp only [concluding, resume, afterRest_concluding]
      split <;> rfl
    | interrupt =>
      simp only [concluding, resume, proceed_concluding]
      split <;> rfl
    | _ => rfl

end Thread

/-! ## 2. Requests -/

/-- The request that an occurrence makes, if it makes one. -/
def Occurrence.request? : Occurrence R A → Option R
  | .asked request => some request
  | .noted _ | .replied .. | .rested _ | .opened | .began | .ended _ | .cancelled => none

/-- The requests among some entries, in order. -/
def requestsOf (entries : List (Entry R A)) : List R :=
  entries.filterMap fun e => e.event.occurrence.request?

@[simp] theorem requestsOf_append (xs ys : List (Entry R A)) :
    requestsOf (xs ++ ys) = requestsOf xs ++ requestsOf ys := List.filterMap_append

theorem mem_requestsOf {request : R} {entries : List (Entry R A)} :
    request ∈ requestsOf entries ↔ ∃ e ∈ entries, e.event.occurrence = .asked request := by
  rw [requestsOf, List.mem_filterMap]
  refine exists_congr fun e => and_congr_right fun _ => ?_
  cases e.event.occurrence <;> simp [Occurrence.request?]

theorem length_requestsOf (entries : List (Entry R A)) :
    (requestsOf entries).length = requestCount entries := by
  induction entries with
  | nil => rfl
  | cons e entries ih =>
    have hrest : requestCount (e :: entries) = requestCount [e] + requestCount entries :=
      requestCount_append [e] entries
    have hfirst : requestsOf (e :: entries) = requestsOf [e] ++ requestsOf entries :=
      requestsOf_append [e] entries
    rw [hrest, hfirst, List.length_append, ih]
    refine congrArg (· + _) ?_
    cases ho : e.event.occurrence <;>
      simp [requestsOf, requestCount, Occurrence.request?, Occurrence.isAsked, ho]

theorem requestsOf_eq_replicate {request : R} {entries : List (Entry R A)}
    (h : ∀ q ∈ requestsOf entries, q = request) :
    requestsOf entries = List.replicate (requestCount entries) request :=
  List.eq_replicate_iff.2 ⟨length_requestsOf entries, h⟩

theorem requestsOf_quiet (now : Moment) {happened : List (Occurrence R A)}
    (h : ∀ o ∈ happened, o.isTalk = false) : requestsOf (entriesAt now happened) = [] := by
  obtain ⟨hnone, -⟩ := quiet_entriesAt now h
  rw [← length_requestsOf] at hnone
  exact List.eq_nil_of_length_eq_zero hnone

theorem requestsOf_append_nil {past entries : List (Entry R A)} (h : requestsOf entries = []) :
    requestsOf (past ++ entries) = requestsOf past := by
  rw [requestsOf_append, h, List.append_nil]

theorem repliesOf_append_nil {past entries : List (Entry R A)} (h : repliesOf entries = []) :
    repliesOf (past ++ entries) = repliesOf past := by
  rw [repliesOf_append, h, List.append_nil]

/-! ## 3. Situations with a conclusion -/

namespace Situation

variable {records : List Record} {value : α}

def concluding (records : List Record) (value : α) (s : Situation (Thread R A Unit)) :
    Situation (Thread R A α) :=
  { s with state := s.state.concluding records value }

theorem concluding_nil (s : Situation (Thread R A Unit)) : s.concluding [] () = s := by
  rw [concluding, Thread.concluding_nil]

/-- The records that a move brings if the conclusion comes with it. -/
def concluded (records : List Record) : Move R A → Situation (Thread R A Unit) → List (Entry R A)
  | .resume .., s => entriesAt s.now (s.state.concluded records)
  | .cancel, _ | .pass _, _ | .drop, _ => []

/-- **A move of a situation with a conclusion.** -/
theorem after?_concluding (s : Situation (Thread R A Unit)) (move : Move R A) :
    (s.concluding records value).after? (Thread.process R A α) move =
      (s.after? (Thread.process R A Unit) move).map fun step =>
        (step.1 ++ concluded records move step.2, step.2.concluding records value) := by
  cases move with
  | cancel => simp [after?, concluded, concluding]
  | drop => simp [after?, concluded, concluding]
  | pass length =>
    have hmay : (s.concluding records value).mayPass (Thread.process R A α) length =
        s.mayPass (Thread.process R A Unit) length := by
      have hdues : (Thread.process R A α).dues (s.concluding records value).state =
          (Thread.process R A Unit).dues s.state :=
        congrArg Option.toList (Thread.due?_concluding s.state)
      unfold mayPass
      rw [hdues]
      rfl
    simp only [after?, hmay]
    split
    · simp [concluded, concluding]
    · rfl
  | resume place cue factor =>
    have hdropped : (s.concluding records value).dropped = s.dropped := rfl
    simp only [after?, hdropped]
    split
    · rfl
    · simp only [Thread.process]
      split
      · simp only [concluding, Thread.resume_concluding, Option.map_map]
        refine congrArg (Option.map · _) (funext fun step => ?_)
        simp [Thread.conclude, concluded, entriesAt]
      · rfl

/-- The conclusion is no talk. -/
theorem quiet_concluded (records : List Record) (move : Move R A) (s : Situation (Thread R A Unit)) :
    requestsOf (concluded records move s) = [] ∧ repliesOf (concluded records move s) = [] := by
  cases move with
  | cancel | pass _ | drop => exact ⟨rfl, rfl⟩
  | resume place cue factor =>
    have hquiet : ∀ o ∈ s.state.concluded records, o.isTalk = false := by
      intro o ho
      unfold Thread.concluded at ho
      split at ho
      · obtain ⟨record, -, rfl⟩ := List.mem_map.1 ho
        rfl
      · exact absurd ho List.not_mem_nil
    exact ⟨requestsOf_quiet s.now hquiet, (quiet_entriesAt s.now hquiet).2⟩

/-- A move is a turn of the thread, or it leaves the thread as it is. -/
theorem turn_or_still {s s' : Situation (Thread R A α)} {move : Move R A} {entries : List (Entry R A)}
    (h : s.after? (Thread.process R A α) move = some (entries, s')) :
    (∃ cue factor happened thread, s.state.resume ⟨s.now, s.cancelled, factor⟩ cue =
        some (happened, thread) ∧ entries = entriesAt s.now happened ∧
        s' = { s with state := thread }) ∨
      (s'.state = s.state ∧ (s.cancelled = true → s'.cancelled = true) ∧ requestsOf entries = [] ∧
        repliesOf entries = []) := by
  rcases after?_cases h with
    ⟨place, cue, factor, events, thread, -, -, hturn, rfl, rfl⟩ | ⟨-, rfl, rfl⟩ |
      ⟨length, -, rfl, rfl⟩ | ⟨-, rfl, rfl⟩
  · obtain ⟨happened, hresume, rfl⟩ := Thread.resume_of_process hturn
    exact .inl ⟨cue, factor, happened, thread, hresume, rfl, rfl⟩
  · exact .inr ⟨rfl, fun _ => rfl, rfl, rfl⟩
  · exact .inr ⟨rfl, id, rfl, rfl⟩
  · exact .inr ⟨rfl, id, rfl, rfl⟩

/-- A thread that is done stays done. -/
theorem still_of_done {s s' : Situation (Thread R A α)} {outcome : Outcome α}
    (hdone : s.state = .done outcome) {move : Move R A} {entries : List (Entry R A)}
    (h : s.after? (Thread.process R A α) move = some (entries, s')) :
    s'.state = .done outcome ∧ (s.cancelled = true → s'.cancelled = true) ∧
      requestsOf entries = [] ∧ repliesOf entries = [] := by
  rcases turn_or_still h with ⟨cue, factor, happened, thread, hturn, -, -⟩ | ⟨hsame, hstill⟩
  · rw [hdone, Thread.resume_done] at hturn
    exact absurd hturn (by simp)
  · exact ⟨hsame.trans hdone, hstill⟩

end Situation

/-- Moves of a situation are moves of it with a conclusion. -/
theorem Situation.follow_concluding {records : List Record} {value : α} {t t' : Situation (Thread R A Unit)}
    {moves : List (Move R A)} {entries : List (Entry R A)}
    (h : t.follow (Thread.process R A Unit) moves = some (entries, t')) :
    ∃ entries', (t.concluding records value).follow (Thread.process R A α) moves =
      some (entries', t'.concluding records value) ∧ requestsOf entries' = requestsOf entries := by
  induction moves generalizing t entries with
  | nil =>
    obtain ⟨rfl, rfl⟩ : [] = entries ∧ t = t' := by simpa [Situation.follow] using h
    exact ⟨[], rfl, rfl⟩
  | cons move moves ih =>
    obtain ⟨now, next, later, hafter, hlater, rfl⟩ := Situation.follow_cons.1 h
    obtain ⟨later', hfollow, hsame⟩ := ih hlater
    have hmove : (t.concluding records value).after? (Thread.process R A α) move =
        some (now ++ Situation.concluded records move next, next.concluding records value) := by
      rw [Situation.after?_concluding, hafter]
      rfl
    refine ⟨_, Situation.follow_cons.2 ⟨_, _, later', hmove, hfollow, rfl⟩, ?_⟩
    obtain ⟨hnone, -⟩ := Situation.quiet_concluded records move next
    rw [requestsOf_append, requestsOf_append_nil hnone, hsame, requestsOf_append]

/-- `a.Reaches c s past`: under given conditions the activity can come to a situation, with all that has
happened until then. -/
def Activity.Reaches (a : Activity R A α) (c : Conditions) (s : Situation (Thread R A α))
    (past : List (Entry R A)) : Prop :=
  ∃ moves entries, (a.about c).2.follow (Thread.process R A α) moves = some (entries, s) ∧
    past = (a.about c).1 ++ entries

/-- **An activity that is finished from the start** requests nothing. -/
theorem Activity.Reaches.finished {outcome : Outcome α} {c : Conditions} {s : Situation (Thread R A α)}
    {past : List (Entry R A)} (h : (Activity.finish outcome).Reaches c s past) :
    s.state = .done outcome ∧ requestsOf past = [] := by
  obtain ⟨moves, entries, hrun, rfl⟩ := h
  have hstart : ((Activity.finish outcome : Activity R A α).about c).2.state = .done outcome ∧
      requestsOf ((Activity.finish outcome : Activity R A α).about c).1 = [] := ⟨rfl, rfl⟩
  refine Situation.follow_induction (fun s past => s.state = .done outcome ∧ requestsOf past = [])
    ?_ _ hstart hrun
  rintro move _ s s' past now ⟨hdone, hrequests⟩ hafter
  obtain ⟨hdone', -, hnone, -⟩ := Situation.still_of_done hdone hafter
  exact ⟨hdone', (requestsOf_append_nil hnone).trans hrequests⟩

/-! ## 4. A last request -/

section Last

variable {request : R} {next : Except Fault (A request) → Activity R A α}
  {result : Outcome (A request) → Outcome α} {s s' : Situation (Thread R A α)}
  {past entries : List (Entry R A)} {c : Conditions}

/-- `Closes next result`: whatever the reply to the request is, what follows is the end, without any more
talk. -/
def Activity.Closes (next : Except Fault (A request) → Activity R A α)
    (result : Outcome (A request) → Outcome α) : Prop :=
  ∀ c reply, ∃ quiet, (∀ o ∈ quiet, o.isTalk = false) ∧
    Thread.afterReply c next reply = (quiet, .done (result reply))

/-- `LastAsked next result s past`: how a request stands that is the last one, with all that has happened.  It
is open, or it was answered, and that is the end. -/
inductive Situation.LastAsked (next : Except Fault (A request) → Activity R A α)
    (result : Outcome (A request) → Outcome α) (s : Situation (Thread R A α))
    (past : List (Entry R A)) : Prop
  | asking : s.state = .asking request next → requestsOf past = [request] → repliesOf past = [] →
      LastAsked next result s past
  | answered (moment : Moment) (reply : Outcome (A request)) : s.state = .done (result reply) →
      requestsOf past = [request] → repliesOf past = [⟨moment, [], .replied request reply⟩] →
      LastAsked next result s past

/-- **A move of a last request** leaves it as such requests stand. -/
theorem Situation.LastAsked.move (hcloses : Activity.Closes next result)
    (h : s.LastAsked next result past) {move : Move R A}
    (hafter : s.after? (Thread.process R A α) move = some (entries, s')) :
    s'.LastAsked next result (past ++ entries) := by
  cases h with
  | asking hstate hrequests hreplies =>
    rcases Situation.turn_or_still hafter with
      ⟨cue, factor, happened, thread, hturn, rfl, rfl⟩ | ⟨hsame, -, hnone, hsilent⟩
    · rw [hstate] at hturn
      cases cue with
      | reply answer =>
        obtain ⟨quiet, hquiet, hreply⟩ :=
          hcloses ⟨s.now, s.cancelled, factor⟩ (answer request)
        simp only [Thread.resume, hreply, Option.some.injEq, Prod.mk.injEq] at hturn
        obtain ⟨rfl, rfl⟩ := hturn
        have hnone := requestsOf_quiet s.now hquiet
        obtain ⟨-, hsilent⟩ := quiet_entriesAt s.now hquiet
        refine .answered s.now (answer request) rfl ?_ ?_
        · rw [requestsOf_append, hrequests]
          exact congrArg ([request] ++ ·) hnone
        · rw [repliesOf_append, hreplies, List.nil_append]
          exact congrArg (_ :: ·) hsilent
      | _ => exact absurd hturn (by simp [Thread.resume])
    · exact .asking (hsame.trans hstate) ((requestsOf_append_nil hnone).trans hrequests)
        ((repliesOf_append_nil hsilent).trans hreplies)
  | answered moment reply hstate hrequests hreplies =>
    obtain ⟨hdone, -, hnone, hsilent⟩ := Situation.still_of_done hstate hafter
    exact .answered moment reply hdone ((requestsOf_append_nil hnone).trans hrequests)
      ((repliesOf_append_nil hsilent).trans hreplies)

/-- **A last request** is made once, and its reply decides what comes out, whatever the moves are. -/
theorem Activity.Reaches.lastAsked (h : (Activity.ask request next).Reaches c s past)
    (hcloses : Activity.Closes next result) : s.LastAsked next result past := by
  obtain ⟨moves, entries, hrun, rfl⟩ := h
  exact Situation.follow_induction (Situation.LastAsked next result)
    (fun _ _ _ _ _ _ h hafter => h.move hcloses hafter) _ (.asking rfl rfl rfl) hrun

end Last

/-! ## 5. A request with a conclusion -/

/-- What follows the answer to a request: a conclusion, or the refusal. -/
def Activity.concluding {request : R} (records : A request → List Record) (value : A request → α) :
    Except Fault (A request) → Activity R A α
  | .ok answer => .conclusion (records answer) (value answer)
  | .error cause => .fail cause

section Inquiry

variable {request : R} {records : A request → List Record} {value : A request → α}
  {s : Situation (Thread R A α)} {past : List (Entry R A)} {c : Conditions}

/-- `Inquired records value s past`: how a request with a conclusion stands, with all that has happened.  It is
open, or it was answered, and that is the end. -/
inductive Situation.Inquired (records : A request → List Record) (value : A request → α)
    (s : Situation (Thread R A α)) (past : List (Entry R A)) : Prop
  | asking : s.state = .asking request (Activity.concluding records value) →
      requestsOf past = [request] → repliesOf past = [] → Inquired records value s past
  | answered (moment : Moment) (reply : Outcome (A request)) : s.state = .done (reply.map value) →
      requestsOf past = [request] → repliesOf past = [⟨moment, [], .replied request reply⟩] →
      Inquired records value s past

/-- The answer to the request is the end, and brings no more talk. -/
theorem Activity.closes_concluding :
    Activity.Closes (R := R) (Activity.concluding records value) (Outcome.map value) := by
  intro c reply
  cases reply with
  | ok granted =>
    refine ⟨(records granted).map .noted, fun o ho => ?_, Thread.proceed_conclusion⟩
    obtain ⟨record, -, rfl⟩ := List.mem_map.1 ho
    rfl
  | fault cause => exact ⟨[], by simp, rfl⟩
  | panic text => exact ⟨[], by simp, rfl⟩

/-- **A request with a conclusion** is made once, and its reply is what comes out, whatever the moves are. -/
theorem Activity.Reaches.inquired
    (h : (Activity.ask request (Activity.concluding records value)).Reaches c s past) :
    s.Inquired records value past := by
  cases h.lastAsked Activity.closes_concluding with
  | asking hstate hrequests hreplies => exact .asking hstate hrequests hreplies
  | answered moment reply hstate hrequests hreplies =>
    exact .answered moment reply hstate hrequests hreplies

end Inquiry

end Teardown
