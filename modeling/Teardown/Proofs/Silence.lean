/-
# What is silent in a cancelled run

An activity is silent if it asks for nothing in a cancelled run, where a watch is not entered.  It
is brief if it is silent after whatever it waits for (`Activity.Brief`): the next turn of its
thread is the last one, and nothing is asked for in it (`Thread.Brief.resume`).

All tasks are brief but the deletion of an account, which wants its connection for one more call
(`Task.trace_brief`, `Task.resume_afterConnect`).  So a cancelled teardown asks for little more:
what is on its way may be answered, and an account whose connection comes may still be asked to
go.

* §1  silence and brevity, for activities and for the threads that carry them out.  Along a trace
      of a brief activity every thread is brief (`Activity.Trace.brief`).
* §2  the tasks, by the kinds of work they do.

Nothing is said about how soon the last turn comes; a reply may keep it waiting.  And a task that
has not begun is not considered: it does not begin at all in a cancelled run
(`Teardown.Proofs.Cancellation`).
-/
import Teardown.Proofs.Trace

namespace Teardown

variable {R : Type} {A : R → Type} {α : Type}

/-! ## 1. Silence -/

namespace Activity

/-- In a cancelled run the activity comes to its end without asking for anything. -/
def Silent : Activity R A α → Prop
  | .finish _ => True
  | .note _ next => next.Silent
  | .ask _ _ => False
  | .watch w next => (next (.error w.interrupted)).Silent

/-- Whatever the activity waits for, it is silent from then on. -/
def Brief : Activity R A α → Prop
  | .finish _ => True
  | .note _ next => next.Brief
  | .ask _ next => ∀ answer, (next answer).Silent ∧ (next answer).Brief
  | .watch _ next => ∀ answer, (next answer).Silent ∧ (next answer).Brief

/-- What a silent activity does in a cancelled run. -/
theorem Silent.proceed {a : Activity R A α} (h : a.Silent) {c : Conditions}
    (hc : c.cancelled = true) :
    (∃ outcome, (a.proceed c).2 = .done outcome) ∧ ∀ o ∈ (a.proceed c).1, o.isTalk = false := by
  induction a with
  | finish outcome => exact ⟨⟨outcome, rfl⟩, fun o ho => absurd ho List.not_mem_nil⟩
  | note record next ih =>
    obtain ⟨hdone, hquiet⟩ := ih h
    refine ⟨hdone, fun o ho => ?_⟩
    rcases List.mem_cons.1 ho with rfl | ho
    · rfl
    · exact hquiet o ho
  | ask request next _ => exact h.elim
  | watch w next ih =>
    obtain ⟨hdone, hquiet⟩ := ih _ h
    have henter : w.enter c (w.start c.now) = none := if_pos hc
    simp only [Activity.proceed, henter]
    refine ⟨hdone, fun o ho => ?_⟩
    rcases List.mem_cons.1 ho with rfl | ho
    · rfl
    · exact hquiet o ho

end Activity

theorem Watch.receive_cancelled (w : Watch R A) {c : Conditions} (hc : c.cancelled = true)
    (s : WatchState) (answer : Except Fault (A w.request)) :
    ∃ outcome, (w.receive c s answer).2 = .over outcome := by
  have hpause : ∀ s, ∃ outcome, (w.pause c s).2 = .over outcome := by
    intro s
    simp only [Watch.pause, hc, if_true]
    split
    · exact ⟨_, rfl⟩
    · split
      · exact ⟨_, rfl⟩
      · exact ⟨_, rfl⟩
  cases answer with
  | error cause => exact hpause s
  | ok answer =>
    simp only [Watch.receive]
    split
    · exact ⟨_, rfl⟩
    · exact ⟨_, rfl⟩
    · exact hpause _

namespace Thread

def Brief : Thread R A α → Prop
  | .asking _ next => ∀ answer, (next answer).Silent
  | .looking _ _ next | .resting _ _ _ next => ∀ answer, (next answer).Silent
  | .done _ => True

/-- What a turn in a cancelled run brings for a thread that is brief: it is done, and it has asked
for nothing. -/
def Finishes (step : List (Occurrence R A) × Thread R A α) : Prop :=
  (∃ outcome, step.2 = .done outcome) ∧ ∀ o ∈ step.1, o.isTalk = false

theorem finishes_broken (text : Option String) :
    Finishes (broken text : List (Occurrence R A) × Thread R A α) :=
  ⟨⟨_, rfl⟩, fun _ ho => absurd ho List.not_mem_nil⟩

section Finishes

variable {c : Conditions}

theorem finishes_afterWatch (hc : c.cancelled = true) {next : Except Fault Unit → Activity R A α}
    (hnext : ∀ answer, (next answer).Silent) (outcome : Outcome Unit) :
    Finishes (afterWatch c next outcome) := by
  cases outcome with
  | ok value => exact (hnext _).proceed hc
  | fault cause => exact (hnext _).proceed hc
  | panic text => exact finishes_broken text

theorem finishes_afterReply (hc : c.cancelled = true) {request : R}
    {next : Except Fault (A request) → Activity R A α}
    (hnext : ∀ answer, (next answer).Silent) (reply : Outcome (A request)) :
    Finishes (afterReply c next reply) := by
  cases reply with
  | ok value => exact (hnext _).proceed hc
  | fault cause => exact (hnext _).proceed hc
  | panic text => exact finishes_broken text

theorem finishes_afterLook (hc : c.cancelled = true) {w : Watch R A} {s : WatchState}
    {next : Except Fault Unit → Activity R A α} (hnext : ∀ answer, (next answer).Silent)
    (answer : Except Fault (A w.request)) : Finishes (afterLook c w s next answer) := by
  obtain ⟨outcome, hover⟩ := w.receive_cancelled hc s answer
  obtain ⟨hdone, hquiet⟩ := finishes_afterWatch hc hnext outcome
  simp only [afterLook, hover]
  refine ⟨hdone, fun o ho => ?_⟩
  rcases List.mem_append.1 ho with ho | ho
  · obtain ⟨record, -, rfl⟩ := List.mem_map.1 ho
    rfl
  · exact hquiet o ho

theorem finishes_lookAgain (hc : c.cancelled = true) {w : Watch R A}
    {next : Except Fault Unit → Activity R A α} (hnext : ∀ answer, (next answer).Silent)
    (left : Except Duration.Overflow WatchState) : Finishes (lookAgain c w next left) := by
  cases left with
  | error cause => exact finishes_afterWatch hc hnext (.overflow cause)
  | ok state =>
    have henter : w.enter c state = none := if_pos hc
    simp only [lookAgain, henter]
    exact (hnext _).proceed hc

/-- **The last turn.**  In a cancelled run a thread that is brief is done with its next turn.  The turn
begins with the reply that the thread was waiting for, if there was one. -/
theorem Brief.resume {thread : Thread R A α} (h : thread.Brief) (hc : c.cancelled = true)
    {cue : Cue R A} {step : List (Occurrence R A) × Thread R A α}
    (hturn : thread.resume c cue = some step) :
    (∃ outcome, step.2 = .done outcome) ∧ ∀ request, .asked request ∉ step.1 := by
  have hplain : Finishes step →
      (∃ outcome, step.2 = .done outcome) ∧ ∀ request, .asked request ∉ step.1 := by
    rintro ⟨hdone, hquiet⟩
    exact ⟨hdone, fun request hasked => absurd (hquiet _ hasked) (by simp [Occurrence.isTalk])⟩
  have hreply : ∀ {rest} (request : R) (reply : Outcome (A request)), Finishes rest →
      step = (.replied request reply :: rest.1, rest.2) →
      (∃ outcome, step.2 = .done outcome) ∧ ∀ request, .asked request ∉ step.1 := by
    rintro rest request reply ⟨hdone, hquiet⟩ rfl
    refine ⟨hdone, fun request' hasked => ?_⟩
    rcases List.mem_cons.1 hasked with heq | hasked
    · exact absurd heq (by simp)
    · exact absurd (hquiet _ hasked) (by simp [Occurrence.isTalk])
  cases thread with
  | done outcome =>
    rw [resume_done] at hturn
    exact absurd hturn (by simp)
  | asking request next =>
    cases cue with
    | reply answer =>
      have hrest := finishes_afterReply hc h (answer request)
      exact hreply request _ hrest (Option.some.inj hturn).symm
    | _ => exact absurd hturn (by simp [Thread.resume])
  | looking w s next =>
    cases cue with
    | reply answer =>
      have hstep := (Option.some.inj hturn).symm
      cases hanswer : answer w.request with
      | ok value =>
        rw [hanswer] at hstep
        exact hreply w.request _ (finishes_afterLook hc h (.ok value)) hstep
      | fault cause =>
        rw [hanswer] at hstep
        exact hreply w.request _ (finishes_afterLook hc h (.error cause)) hstep
      | panic text =>
        rw [hanswer] at hstep
        exact hreply w.request _ (finishes_broken text) hstep
    | _ => exact absurd hturn (by simp [Thread.resume])
  | resting w s due next =>
    cases cue with
    | wake =>
      simp only [Thread.resume] at hturn
      split at hturn
      · obtain rfl := Option.some.inj hturn
        exact hplain (finishes_lookAgain hc h _)
      · exact absurd hturn (by simp)
    | interrupt =>
      simp only [Thread.resume, hc, if_true] at hturn
      obtain rfl := Option.some.inj hturn
      exact hplain ((h _).proceed hc)
    | _ => exact absurd hturn (by simp [Thread.resume])

end Finishes

end Thread

theorem Activity.Trace.brief {a : Activity R A α} {past : List (Occurrence R A)}
    {thread : Thread R A α} (h : a.Trace past thread) (ha : a.Brief) : thread.Brief := by
  induction h with
  | finish outcome => trivial
  | note _ ih => exact ih ha
  | asking request next => exact fun answer => (ha answer).1
  | granted value _ ih => exact ih (ha _).2
  | refused cause _ ih => exact ih (ha _).2
  | broken text => trivial
  | looking s _ => exact fun answer => (ha answer).1
  | resting s due _ => exact fun answer => (ha answer).1
  | succeeded _ _ _ ih => exact ih (ha _).2
  | failed cause _ _ ih => exact ih (ha _).2
  | watchBroken text _ => trivial

/-! ## 2. Tasks -/

namespace Task

/-- What the deletion of an account does with the answer to its request for a connection. -/
def afterConnect (name : String) (answer : Except Fault Unit) : Action Unit :=
  (Activity.ofExcept answer).bind fun _ => do
    let account ← Activity.ofExcept (Account.parse name)
    (Request.deleteAccount account).send

theorem deleteAccount_eq (name : String) :
    deleteAccount name = .ask .connect (afterConnect name) := rfl

theorem afterConnect_cases (name : String) (answer : Except Fault Unit) :
    (∃ outcome, afterConnect name answer = .finish outcome) ∨
    ∃ account, Account.parse name = .ok account ∧
      afterConnect name answer = .ask (.deleteAccount account) Activity.ofExcept := by
  cases answer with
  | error cause => exact .inl ⟨_, rfl⟩
  | ok _ =>
    cases hparse : Account.parse name with
    | error cause =>
      refine .inl ⟨.fault cause, ?_⟩
      simp [afterConnect, Activity.ofExcept, Outcome.ofExcept, Activity.bind, bind, hparse]
    | ok account =>
      refine .inr ⟨account, rfl, ?_⟩
      simp only [afterConnect, Activity.ofExcept, Outcome.ofExcept, Activity.bind, bind, hparse]
      rfl

theorem afterConnect_brief (name : String) (answer : Except Fault Unit) :
    (afterConnect name answer).Brief := by
  rcases afterConnect_cases name answer with ⟨outcome, heq⟩ | ⟨account, -, heq⟩
  · rw [heq]
    trivial
  · rw [heq]
    exact fun _ => ⟨trivial, trivial⟩

/-- Every task is brief, but for the deletion of an account. -/
theorem brief_of_ne {task : Task} (h : ∀ name, task.work ≠ .deleteAccount name) :
    task.action.Brief := by
  unfold action
  split
  · -- A deletion that is waited for: a call, and then a watch.
    intro answer
    cases answer with
    | error cause => exact ⟨trivial, trivial⟩
    | ok receipt => exact ⟨trivial, fun _ => ⟨trivial, trivial⟩⟩
  · intro answer
    cases answer with
    | error cause => exact ⟨trivial, trivial⟩
    | ok receipt => exact ⟨trivial, trivial⟩
  · exact fun _ => ⟨trivial, trivial⟩
  · exact fun _ => ⟨trivial, trivial⟩
  · rename_i name hwork
    exact absurd hwork (h name)
  · exact fun _ => ⟨trivial, trivial⟩

/-- **What a task can wait for.**  A thread of a task is brief, unless it waits for the connection that
the deletion of an account needs. -/
theorem trace_brief {task : Task} {past : List (Occurrence Request Request.Answer)}
    {thread : Thread Request Request.Answer Unit} (h : task.action.Trace past thread) :
    thread.Brief ∨ ∃ name, task.work = .deleteAccount name ∧ past = [.asked .connect] ∧
      thread = .asking .connect (afterConnect name) := by
  by_cases hwork : ∃ name, task.work = .deleteAccount name
  · obtain ⟨name, hname⟩ := hwork
    have haction : task.action = .ask .connect (afterConnect name) := by
      rw [action, hname]
      exact deleteAccount_eq name
    rw [haction] at h
    cases h with
    | asking => exact .inr ⟨name, hname, rfl, rfl⟩
    | granted value hmore => exact .inl (hmore.brief (afterConnect_brief name _))
    | refused cause hmore => exact .inl (hmore.brief (afterConnect_brief name _))
    | broken text => exact .inl trivial
  · exact .inl (h.brief (brief_of_ne fun name hname => hwork ⟨name, hname⟩))

/-- What the reply to the request for a connection brings: at most the one call. -/
theorem resume_afterConnect {name : String} {c : Conditions}
    {cue : Cue Request Request.Answer}
    {step : List (Occurrence Request Request.Answer) × Thread Request Request.Answer Unit}
    (h : (Thread.asking .connect (afterConnect name)).resume c cue = some step) :
    (∀ request, .asked request ∈ step.1 →
      ∃ account, Account.parse name = .ok account ∧ request = .deleteAccount account) ∧
    ∀ request reply, .replied request reply ∈ step.1 → request = .connect := by
  have hproceed : ∀ (seen : Except Fault Unit), ∀ o ∈ ((afterConnect name seen).proceed c).1,
      ∃ account, Account.parse name = .ok account ∧ o = .asked (.deleteAccount account) := by
    intro seen o ho
    rcases afterConnect_cases name seen with ⟨outcome, heq⟩ | ⟨account, hparse, heq⟩
    · rw [heq] at ho
      exact absurd ho List.not_mem_nil
    · rw [heq] at ho
      exact ⟨account, hparse, List.mem_singleton.1 ho⟩
  cases cue with
  | reply answer =>
    have hrest : ∀ o ∈ (Thread.afterReply c (afterConnect name) (answer .connect)).1,
        ∃ account, Account.parse name = .ok account ∧ o = .asked (.deleteAccount account) := by
      cases answer .connect with
      | ok value => exact hproceed (.ok value)
      | fault cause => exact hproceed (.error cause)
      | panic text => exact fun _ ho => absurd ho List.not_mem_nil
    obtain rfl := Option.some.inj h
    constructor
    · intro request hasked
      rcases List.mem_cons.1 hasked with heq | hasked
      · exact absurd heq (by simp)
      · obtain ⟨account, hparse, heq⟩ := hrest _ hasked
        exact ⟨account, hparse, Occurrence.asked.inj heq⟩
    · intro request reply hreplied
      rcases List.mem_cons.1 hreplied with heq | hreplied
      · exact (Occurrence.replied.inj heq).1
      · obtain ⟨account, -, heq⟩ := hrest _ hreplied
        exact absurd heq (by simp)
  | _ => exact absurd h (by simp [Thread.resume])

end Task

end Teardown
