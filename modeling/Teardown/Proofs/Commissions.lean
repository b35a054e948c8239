/-
# Work that is commissioned and awaited

A commission is one request and, if it is granted, a wait for what was granted; what the wait is
for may depend on the answer (`Commission`).  In the end there are some records and a value.

The request is made once, and all other requests are the question of that wait
(`Commission.Stands`).  If the request is not granted, that is the end; if it is granted to
somebody who has been cancelled, there is no question.  `Commission.pursued` says so for all
sequences of moves: the other side may answer as it likes or break off, and the cancellation may
come at any time.

* §1  waits against a remote side that may break off instead of answering.  A move of such a wait
      is one of a wait that fares on, or the break-off (`Faring.goes`), so nothing that is known
      of waits has to be proved again.
* §2  the five ways in which a commission stands, each of which a move leads to another of them
      (`Stands.move`).
* §3  what follows for whoever looks at the requests, the replies and the outcome alone
      (`Pursued`).

The deletion of a stack and both updates of a cluster are commissions.
-/
import Teardown.Proofs.Awaiting

namespace Teardown

variable {R : Type} {A : R → Type} {S α : Type}

/-! ## 1. Waits that may break off -/

namespace Goal

variable [BEq S] {g : Goal R A S} {started now : Moment} {cancelled : Bool} {polls : List (Poll g)}
  {asked : Nat} {thread thread' : Thread R A Unit} {c : Conditions} {cue : Cue R A}
  {happened : List (Occurrence R A)}

/-- A rest ends with the next question, or with the wait. -/
theorem asked_of_rest {state : WatchState} {due : Moment}
    (hturn : (Thread.resting g.watch state due Activity.ofExcept).resume c cue =
      some (happened, thread')) : ∀ o ∈ happened, o = .asked g.request := by
  intro o ho
  cases cue with
  | wake =>
    simp only [Thread.resume] at hturn
    split at hturn
    · have hrest := Option.some.inj hturn
      unfold Thread.afterRest at hrest
      cases hleave : g.watch.leave state with
      | error cause =>
        rw [hleave] at hrest
        obtain ⟨rfl, -⟩ := Prod.mk.inj hrest
        exact absurd ho List.not_mem_nil
      | ok next =>
        rw [hleave, Thread.lookAgain] at hrest
        cases henter : g.watch.enter c next with
        | none =>
          rw [henter] at hrest
          obtain ⟨rfl, -⟩ := Prod.mk.inj hrest
          exact absurd ho List.not_mem_nil
        | some next' =>
          rw [henter] at hrest
          obtain ⟨rfl, -⟩ := Prod.mk.inj hrest
          exact List.mem_singleton.1 ho
    · exact absurd hturn (by simp)
  | interrupt =>
    simp only [Thread.resume] at hturn
    split at hturn
    · obtain ⟨rfl, -⟩ := Prod.mk.inj (Option.some.inj hturn)
      exact absurd ho List.not_mem_nil
    · exact absurd hturn (by simp)
  | _ => exact absurd hturn (by simp [Thread.resume])

/-- **What happens in a turn of a wait**: nobody breaks off, and nothing is asked but its question; or the other
side breaks off instead of answering, and so does the wait. -/
theorem Fares.turn_cases (h : Fares g started now cancelled polls asked thread)
    (hturn : thread.resume c cue = some (happened, thread')) :
    ((∀ request text, .replied request (.panic text) ∉ happened) ∧
      ∀ q, .asked q ∈ happened → q = g.request) ∨
    ∃ text, happened = [.replied g.request (.panic text)] ∧ thread' = .done (.panic text) ∧
      asked = polls.length + 1 ∧ ∀ poll ∈ polls, ¬ g.Decides started poll := by
  cases h with
  | interrupted _ _ =>
    rw [Thread.resume_done] at hturn
    exact absurd hturn (by simp)
  | waits hwaits =>
    cases hwaits with
    | decided | overflowed =>
      rw [Thread.resume_done] at hturn
      exact absurd hturn (by simp)
    | looking _ state _ _ hpolls =>
      cases cue with
      | reply answer =>
        have hlook : ∀ reply, answer g.request = .ofExcept reply →
            (∀ request text, .replied request (.panic text) ∉ happened) ∧
              ∀ q, .asked q ∈ happened → q = g.request := by
          intro reply hreply
          rw [Thread.resume_looking hreply] at hturn
          obtain ⟨rfl, -⟩ := Prod.mk.inj (Option.some.inj hturn)
          obtain ⟨-, hquiet⟩ := afterLook_eq (g := g) c state reply
          constructor
          · intro request text hmem
            rcases List.mem_cons.1 hmem with hsame | hmem
            · obtain ⟨rfl, hpanic⟩ := Occurrence.replied.inj hsame
              cases reply <;> exact absurd (eq_of_heq hpanic) (by simp [Outcome.ofExcept])
            · exact absurd (hquiet _ hmem) (by simp [Occurrence.isTalk])
          · intro q hmem
            rcases List.mem_cons.1 hmem with hsame | hmem
            · exact absurd hsame (by simp)
            · exact absurd (hquiet _ hmem) (by simp [Occurrence.isTalk])
        cases hanswer : answer g.request with
        | ok value => exact .inl (hlook (.ok value) hanswer)
        | fault cause => exact .inl (hlook (.error cause) hanswer)
        | panic text =>
          simp only [Thread.resume, hanswer, Option.some.injEq, Prod.mk.injEq] at hturn
          obtain ⟨rfl, rfl⟩ := hturn
          exact .inr ⟨text, rfl, rfl, rfl, hpolls⟩
      | _ => exact absurd hturn (by simp [Thread.resume])
    | resting _ state due _ _ _ _ =>
      have hquestion := asked_of_rest hturn
      exact .inl ⟨fun request text hmem => absurd (hquestion _ hmem) (by simp),
        fun q hmem => Occurrence.asked.inj (hquestion _ hmem)⟩

/-- **A move of a wait**, whatever the other side does: the wait fares on, and asks nothing but its question;
or the other side breaks off instead of answering, and so does the wait. -/
theorem Faring.goes {s s' : Situation (Thread R A Unit)} (h : g.Faring started s polls asked)
    {move : Move R A} {entries : List (Entry R A)}
    (hafter : s.after? (Thread.process R A Unit) move = some (entries, s')) :
    (∃ (n : Nat) (more : List (Poll g)), requestsOf entries = List.replicate n g.request ∧
      repliesOf entries = more.map g.entry ∧ g.Faring started s' (polls ++ more) (asked + n)) ∨
    ∃ moment text, requestsOf entries = [] ∧
      repliesOf entries = [⟨moment, [], .replied g.request (.panic text)⟩] ∧
      s'.state = .done (.panic text) ∧ asked = polls.length + 1 ∧
      ∀ poll ∈ polls, ¬ g.Decides started poll := by
  -- Unless somebody breaks off, it is left to show that only the question is asked.
  have hgo : (∀ e ∈ entries, ∀ request text, e.event.occurrence ≠ .replied request (.panic text)) →
      (∀ q ∈ requestsOf entries, q = g.request) →
      ∃ (n : Nat) (more : List (Poll g)), requestsOf entries = List.replicate n g.request ∧
        repliesOf entries = more.map g.entry ∧ g.Faring started s' (polls ++ more) (asked + n) := by
    intro hanswered hrequests
    obtain ⟨more, hmore, hnext⟩ := h.move hafter hanswered
    exact ⟨_, more, requestsOf_eq_replicate hrequests, hmore, hnext⟩
  rcases Situation.after?_cases hafter with
    ⟨place, cue, factor, events, thread, -, hdropped, hturn, rfl, rfl⟩ | ⟨-, rfl, rfl⟩ |
      ⟨length, rfl, rfl, rfl⟩ | ⟨-, rfl, rfl⟩
  · obtain ⟨moment, hnow, hfares⟩ := h
    obtain ⟨happened, hresume, rfl⟩ := Thread.resume_of_process hturn
    have hoccurrence : ∀ e ∈ entriesAt s.now happened, e.event.occurrence ∈ happened := by
      intro e he
      obtain ⟨event, hevent, rfl⟩ := List.mem_map.1 he
      obtain ⟨o, ho, rfl⟩ := List.mem_map.1 hevent
      exact ho
    rcases hfares.turn_cases hresume with
      ⟨hanswered, hquestion⟩ | ⟨text, rfl, rfl, hasked, hpolls⟩
    · refine .inl (hgo (fun e he request text hpanic => ?_) fun q hq => ?_)
      · exact hanswered request text (hpanic ▸ hoccurrence e he)
      · obtain ⟨e, he, hasked⟩ := mem_requestsOf.1 hq
        exact hquestion q (hasked ▸ hoccurrence e he)
    · exact .inr ⟨s.now, text, rfl, rfl, rfl, hasked, hpolls⟩
  · refine .inl (hgo (fun e he => ?_) fun q hq => absurd hq List.not_mem_nil)
    obtain rfl := List.mem_singleton.1 he
    simp
  · exact .inl (hgo (fun e he => absurd he List.not_mem_nil) fun q hq => absurd hq List.not_mem_nil)
  · exact .inl (hgo (fun e he => absurd he List.not_mem_nil) fun q hq => absurd hq List.not_mem_nil)

end Goal

/-! ## 2. Commissions -/

/-- A commission: what is requested, the records when it is granted, what is then waited for, the records at the
end, and the value. -/
structure Commission (R : Type) (A : R → Type) (S α : Type) where
  request : R
  opening : A request → List Record
  goal : A request → Goal R A S
  closing : A request → List Record
  value : A request → α

namespace Commission

variable [BEq S]

/-- What follows the answer to the request. -/
def next (k : Commission R A S α) : Except Fault (A k.request) → Activity R A α
  | .ok answer => (Activity.sayAll (k.opening answer)).bind fun _ =>
      (Activity.await (k.goal answer).watch).bind fun _ =>
        .conclusion (k.closing answer) (k.value answer)
  | .error cause => .fail cause

/-- To carry out a commission is to make the request, and to go on with the answer. -/
def activity (k : Commission R A S α) : Activity R A α := .ask k.request k.next

variable {k : Commission R A S α} {beforehand : Bool} {s s' : Situation (Thread R A α)}
  {past entries : List (Entry R A)} {c : Conditions}

/-- `Stands k beforehand s past`: how a commission stands that was cancelled beforehand or not, with all that has
happened.  The request is open; or it was not granted, and that is the end; or it was granted to somebody who had
been cancelled, which is the end as well; or there is a wait, or there was one until the other side broke off. -/
inductive Stands (k : Commission R A S α) (beforehand : Bool) (s : Situation (Thread R A α))
    (past : List (Entry R A)) : Prop
  | asking : s.state = .asking k.request k.next → (beforehand = true → s.cancelled = true) →
      requestsOf past = [k.request] → repliesOf past = [] → Stands k beforehand s past
  | declined (moment : Moment) (reply : Outcome (A k.request)) : reply.isOk = false →
      s.state = .done (reply.map k.value) → requestsOf past = [k.request] →
      repliesOf past = [⟨moment, [], .replied k.request reply⟩] → Stands k beforehand s past
  | cutOff (moment : Moment) (answer : A k.request) : s.cancelled = true →
      s.state = .done (.fault (k.goal answer).watch.interrupted) → requestsOf past = [k.request] →
      repliesOf past = [⟨moment, [], .replied k.request (.ok answer)⟩] → Stands k beforehand s past
  | waiting (moment : Moment) (answer : A k.request) (polls : List (Poll (k.goal answer))) (asked : Nat)
      (t : Situation (Thread R A Unit)) : beforehand = false →
      s = t.concluding (k.closing answer) (k.value answer) →
      (k.goal answer).Faring moment t polls asked →
      requestsOf past = k.request :: List.replicate asked (k.goal answer).request →
      repliesOf past = ⟨moment, [], .replied k.request (.ok answer)⟩ :: polls.map (k.goal answer).entry →
      Stands k beforehand s past
  | brokenOff (moment : Moment) (answer : A k.request) (polls : List (Poll (k.goal answer)))
      (broken : Moment) (text : Option String) : beforehand = false → s.state = .done (.panic text) →
      (∀ poll ∈ polls, ¬ (k.goal answer).Decides moment poll) →
      requestsOf past = k.request :: List.replicate (polls.length + 1) (k.goal answer).request →
      repliesOf past = ⟨moment, [], .replied k.request (.ok answer)⟩ :: polls.map (k.goal answer).entry ++
        [⟨broken, [], .replied (k.goal answer).request (.panic text)⟩] →
      Stands k beforehand s past

/-- A commission begins with the request. -/
theorem stands_about (k : Commission R A S α) (c : Conditions) :
    k.Stands c.cancelled (k.activity.about c).2 (k.activity.about c).1 :=
  .asking rfl id rfl rfl

/-- When the request is granted the wait begins with its question, or it is cut off without one. -/
theorem proceed_granted (k : Commission R A S α) (c : Conditions) (answer : A k.request) :
    ∃ quiet, (∀ o ∈ quiet, o.isTalk = false) ∧
      (k.next (.ok answer)).proceed c =
        if c.cancelled then (quiet, .done (.fault (k.goal answer).watch.interrupted))
        else (quiet ++ [.asked (k.goal answer).request],
          (Thread.looking (k.goal answer).watch
            { (k.goal answer).watch.start c.now with attempt := 1 } Activity.ofExcept).concluding
              (k.closing answer) (k.value answer)) := by
  refine ⟨((k.opening answer) ++ [(k.goal answer).watch.opening]).map .noted, fun o ho => ?_, ?_⟩
  · obtain ⟨record, -, rfl⟩ := List.mem_map.1 ho
    rfl
  · unfold next
    rw [Activity.proceed_sayAll, Thread.proceed_concluding]
    cases hcancelled : c.cancelled with
    | true =>
      simp [Activity.await, Activity.proceed, Watch.enter, hcancelled, Thread.conclude,
        Thread.concluded, Thread.concluding, Activity.ofExcept, Outcome.ofExcept, Outcome.map]
    | false =>
      simp [Activity.await, Activity.proceed, Watch.enter, Watch.start, hcancelled, Thread.conclude,
        Thread.concluded]

/-- **The answer to the request** decides whether there is a wait. -/
theorem stands_reply {answer : (request : R) → Outcome (A request)}
    {happened : List (Occurrence R A)} {thread : Thread R A α} {factor : Binary64}
    (hturn : (Thread.asking k.request k.next).resume ⟨s.now, s.cancelled, factor⟩ (.reply answer) =
      some (happened, thread)) (hbeforehand : beforehand = true → s.cancelled = true)
    (hrequests : requestsOf past = [k.request]) (hreplies : repliesOf past = []) :
    k.Stands beforehand { s with state := thread } (past ++ entriesAt s.now happened) := by
  simp only [Thread.resume, Option.some.injEq, Prod.mk.injEq] at hturn
  obtain ⟨rfl, rfl⟩ := hturn
  cases hanswer : answer k.request with
  | panic text =>
    refine .declined s.now (.panic text) rfl rfl ?_ ?_
    · rw [requestsOf_append, hrequests]
      rfl
    · rw [repliesOf_append, hreplies]
      rfl
  | fault cause =>
    refine .declined s.now (.fault cause) rfl rfl ?_ ?_
    · rw [requestsOf_append, hrequests]
      rfl
    · rw [repliesOf_append, hreplies]
      rfl
  | ok granted =>
    obtain ⟨quiet, hquiet, hproceed⟩ := k.proceed_granted ⟨s.now, s.cancelled, factor⟩ granted
    have hreply : Thread.afterReply ⟨s.now, s.cancelled, factor⟩ k.next (.ok granted) =
        (k.next (.ok granted)).proceed ⟨s.now, s.cancelled, factor⟩ := rfl
    have hnothing := requestsOf_quiet s.now hquiet
    obtain ⟨-, hsilent⟩ := quiet_entriesAt s.now hquiet
    by_cases hcancelled : s.cancelled = true
    · rw [hreply, hproceed.trans (if_pos hcancelled)]
      refine .cutOff s.now granted hcancelled rfl ?_ ?_
      · rw [requestsOf_append, hrequests]
        exact congrArg ([k.request] ++ ·) hnothing
      · rw [repliesOf_append, hreplies, List.nil_append]
        exact congrArg (_ :: ·) hsilent
    · rw [hreply, hproceed.trans (if_neg hcancelled)]
      have hfares : Goal.Fares (k.goal granted) s.now s.now s.cancelled [] 1
          (.looking (k.goal granted).watch
            { (k.goal granted).watch.start s.now with attempt := 1 } Activity.ofExcept) :=
        .waits (.looking [] _ rfl rfl (by simp))
      have hquestion : entriesAt s.now (quiet ++ [.asked (k.goal granted).request]) =
          entriesAt s.now quiet ++ entriesAt s.now [.asked (k.goal granted).request] := by
        simp [entriesAt]
      refine .waiting s.now granted [] 1 ⟨_, s.now, s.cancelled, s.dropped⟩ ?_ rfl
        ⟨s.now, fun _ => rfl, hfares⟩ ?_ ?_
      · exact Bool.eq_false_iff.2 fun hyes => hcancelled (hbeforehand hyes)
      · have hasked : requestsOf (entriesAt s.now (quiet ++ [.asked (k.goal granted).request])) =
            [(k.goal granted).request] := by
          rw [hquestion, requestsOf_append, hnothing]
          rfl
        rw [requestsOf_append, hrequests]
        exact congrArg ([k.request] ++ ·) hasked
      · have hnone : repliesOf (entriesAt s.now (quiet ++ [.asked (k.goal granted).request])) =
            [] := by
          rw [hquestion, repliesOf_append, hsilent]
          rfl
        rw [repliesOf_append, hreplies, List.nil_append]
        exact congrArg (_ :: ·) hnone

/-- **A move of a commission** leaves it as commissions stand. -/
theorem Stands.move (h : k.Stands beforehand s past) {move : Move R A}
    (hafter : s.after? (Thread.process R A α) move = some (entries, s')) :
    k.Stands beforehand s' (past ++ entries) := by
  cases h with
  | asking hstate hbeforehand hrequests hreplies =>
    rcases Situation.turn_or_still hafter with
      ⟨cue, factor, happened, thread, hturn, rfl, rfl⟩ | ⟨hsame, hkept, hnone, hsilent⟩
    · rw [hstate] at hturn
      cases cue with
      | reply answer => exact stands_reply hturn hbeforehand hrequests hreplies
      | _ => exact absurd hturn (by simp [Thread.resume])
    · exact .asking (hsame.trans hstate) (hkept ∘ hbeforehand)
        ((requestsOf_append_nil hnone).trans hrequests) ((repliesOf_append_nil hsilent).trans hreplies)
  | declined moment reply hreply hstate hrequests hreplies =>
    obtain ⟨hdone, -, hnone, hsilent⟩ := Situation.still_of_done hstate hafter
    exact .declined moment reply hreply hdone
      ((requestsOf_append_nil hnone).trans hrequests) ((repliesOf_append_nil hsilent).trans hreplies)
  | cutOff moment answer hcancelled hstate hrequests hreplies =>
    obtain ⟨hdone, hkept, hnone, hsilent⟩ := Situation.still_of_done hstate hafter
    exact .cutOff moment answer (hkept hcancelled) hdone
      ((requestsOf_append_nil hnone).trans hrequests) ((repliesOf_append_nil hsilent).trans hreplies)
  | brokenOff moment answer polls broken text hbeforehand hstate hpolls hrequests hreplies =>
    obtain ⟨hdone, -, hnone, hsilent⟩ := Situation.still_of_done hstate hafter
    exact .brokenOff moment answer polls broken text hbeforehand hdone hpolls
      ((requestsOf_append_nil hnone).trans hrequests) ((repliesOf_append_nil hsilent).trans hreplies)
  | waiting moment answer polls asked t hbeforehand hs hfaring hrequests hreplies =>
    subst hs
    rw [Situation.after?_concluding] at hafter
    obtain ⟨⟨happened, t'⟩, hstep, heq⟩ := Option.map_eq_some_iff.1 hafter
    obtain ⟨rfl, rfl⟩ := Prod.mk.inj heq
    obtain ⟨hnone, hsilent⟩ := Situation.quiet_concluded (k.closing answer) move t'
    rcases hfaring.goes hstep with
      ⟨n, more, hasked, hreplied, hnext⟩ | ⟨broken, text, hasked, hreplied, hdone, hcount, hpolls⟩
    · refine .waiting moment answer (polls ++ more) (asked + n) t' hbeforehand rfl hnext ?_ ?_
      · rw [requestsOf_append, requestsOf_append, hrequests, hasked, hnone, List.append_nil,
          List.cons_append, List.replicate_append_replicate]
      · rw [repliesOf_append, repliesOf_append, hreplies, hreplied, hsilent, List.append_nil,
          List.map_append, List.cons_append]
    · refine .brokenOff moment answer polls broken text hbeforehand ?_ hpolls ?_ ?_
      · exact congrArg (Thread.concluding _ _) hdone
      · rw [requestsOf_append, requestsOf_append, hrequests, hasked, hnone, hcount,
          List.append_nil, List.append_nil]
      · rw [repliesOf_append, repliesOf_append, hreplies, hreplied, hsilent, List.append_nil]

/-- **After any moves** a commission stands as commissions do. -/
theorem stands_follow {moves : List (Move R A)}
    (hrun : (k.activity.about c).2.follow (Thread.process R A α) moves = some (entries, s)) :
    k.Stands c.cancelled s ((k.activity.about c).1 ++ entries) :=
  Situation.follow_induction (k.Stands c.cancelled) (fun _ _ _ _ _ _ h hafter => h.move hafter) _
    (k.stands_about c) hrun

end Commission

/-! ## 3. What is said of a commission -/

namespace Commission

variable [BEq S] {k : Commission R A S α} {s : Situation (Thread R A α)} {past entries : List (Entry R A)}
  {c : Conditions}

/-- `Pursued k c s past`: what is said of a commission that began under given conditions, with all that has
happened. -/
inductive Pursued (k : Commission R A S α) (c : Conditions) (s : Situation (Thread R A α))
    (past : List (Entry R A)) : Prop
  /-- The request is open, and may be answered in every way. -/
  | asking : requestsOf past = [k.request] → repliesOf past = [] → s.state.outcome? = none →
      (s.dropped = false → ∀ answer factor,
        (s.after? (Thread.process R A α) (.resume [] (.reply answer) factor)).isSome = true) →
      Pursued k c s past
  /-- The request was refused, or the other side broke off.  That is what comes out, and nothing else is
  requested. -/
  | declined (moment : Moment) (reply : Outcome (A k.request)) : reply.isOk = false →
      requestsOf past = [k.request] → repliesOf past = [⟨moment, [], .replied k.request reply⟩] →
      s.state.outcome? = some (reply.map k.value) → Pursued k c s past
  /-- The request was granted, and the wait comes out as its polls say.  If the commission was cancelled
  beforehand, there is no question, and the cancellation comes out. -/
  | granted (moment : Moment) (answer : A k.request) (polls : List (Poll (k.goal answer))) (asked : Nat) :
      requestsOf past = k.request :: List.replicate asked (k.goal answer).request →
      repliesOf past = ⟨moment, [], .replied k.request (.ok answer)⟩ :: polls.map (k.goal answer).entry →
      (k.goal answer).Awaited moment (k.value answer) polls asked s →
      (c.cancelled = true → asked = 0 ∧
        s.state.outcome? = some (.fault (k.goal answer).watch.interrupted)) → Pursued k c s past
  /-- The other side broke off in a poll before any poll decided, and so did the wait. -/
  | brokenOff (moment : Moment) (answer : A k.request) (polls : List (Poll (k.goal answer)))
      (broken : Moment) (text : Option String) : c.cancelled = false →
      requestsOf past = k.request :: List.replicate (polls.length + 1) (k.goal answer).request →
      repliesOf past = ⟨moment, [], .replied k.request (.ok answer)⟩ :: polls.map (k.goal answer).entry ++
        [⟨broken, [], .replied (k.goal answer).request (.panic text)⟩] →
      (∀ poll ∈ polls, ¬ (k.goal answer).Decides moment poll) →
      s.state.outcome? = some (.panic text) → Pursued k c s past

/-- **A commission is pursued** as is said of it, whatever the moves are. -/
theorem pursued (h : k.activity.Reaches c s past) : k.Pursued c s past := by
  obtain ⟨moves, entries, hrun, rfl⟩ := h
  cases stands_follow hrun with
  | asking hstate _ hrequests hreplies =>
    refine .asking hrequests hreplies (by rw [hstate]; rfl) fun hdropped answer factor => ?_
    simp [Situation.after?, hdropped, Thread.process, hstate, Thread.resume]
  | declined moment reply hreply hstate hrequests hreplies =>
    exact .declined moment reply hreply hrequests hreplies (by rw [hstate]; rfl)
  | cutOff moment answer hcancelled hstate hrequests hreplies =>
    have houtcome : s.state.outcome? = some (.fault (k.goal answer).watch.interrupted) := by
      rw [hstate]
      rfl
    refine .granted moment answer [] 0 hrequests hreplies ?_ fun _ => ⟨rfl, houtcome⟩
    refine .of_open (by simp) (fun outcome hover => .inl ⟨hcancelled, ?_⟩) fun hopen => ?_
    · exact (Option.some.inj (houtcome.symm.trans hover)).symm
    · exact absurd (houtcome.symm.trans hopen) (by simp)
  | waiting moment answer polls asked t hbeforehand hs hfaring hrequests hreplies =>
    refine .granted moment answer polls asked hrequests hreplies ?_ fun hyes => ?_
    · rw [hs]
      exact hfaring.awaited
    · exact absurd (hbeforehand.symm.trans hyes) (by simp)
  | brokenOff moment answer polls broken text hbeforehand hstate hpolls hrequests hreplies =>
    exact .brokenOff moment answer polls broken text hbeforehand hrequests hreplies hpolls
      (by rw [hstate]; rfl)

end Commission

end Teardown
