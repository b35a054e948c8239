/-
# Waits that keep to a script

A script holds all that a wait may meet: how long each answer takes, what it is, and by which
factor the rest after it is scaled.  It leaves nothing open.  The clock jumps from one thing that
is due to the next: the answer to the question that was asked, the end of a rest, or the moment at
which the wait is to be cancelled, if there is one.

Every step of such a wait is made of moves of the process (`Script.step?`), and no step has a
choice, so there is at most one run with a script and a moment of cancellation
(`Script.Run.unique`).

* §1  moments are compared and added as numbers of nanoseconds.
* §2  scripts, their steps, and the run of a wait.
* §3  there is at most one run.  A run can be computed (`Script.perform`) where one is to be
      exhibited, and reasoned about as a relation (`Script.Leads`) everywhere else.
* §4  the turns of a wait: what comes of an answer, and how far the clock can go.
* §5  the steps, one by one: an answer (`Script.step?_answer`), the end of a rest
      (`Script.step?_wake`), the cancellation with a question open (`Script.step?_cancel_looking`)
      or at rest (`Script.step?_cancel_resting`), and the rest that a cancellation interrupts
      (`Script.step?_interrupt`).

Where the cancellation and something that is due fall on one moment, what is due comes first.
-/
import Teardown.Proofs.Waiting

namespace Teardown

variable {R : Type} {A : R → Type}

/-! ## 1. Moments as numbers -/

namespace Duration

variable {a b : Duration}

theorem le_iff : a ≤ b ↔ a.nanos ≤ b.nanos := Iff.rfl

theorem lt_iff : a < b ↔ a.nanos < b.nanos := Iff.rfl

theorem nanos_inj : a.nanos = b.nanos ↔ a = b :=
  ⟨fun h => congrArg mk h, congrArg nanos⟩

@[simp] theorem nanos_add : (a + b).nanos = a.nanos + b.nanos := rfl

@[simp] theorem nanos_sub : (a - b).nanos = a.nanos - b.nanos := rfl

@[simp] theorem nanos_min : (min a b).nanos = min a.nanos b.nanos := rfl

theorem add_sub_of_le (h : a ≤ b) : a + (b - a) = b :=
  nanos_inj.1 (Nat.add_sub_of_le h)

end Duration

theorem nanos_restEnd (now : Moment) (length : Duration) :
    (restEnd now length).nanos = (now.nanos + length.nanos + 999999) / 1000000 * 1000000 := rfl

/-! ## 2. Scripts -/

/-- What a wait may meet, with its questions numbered from zero on: how long each answer takes, what it
is, and by which factor the rest after it is scaled. -/
structure Script (R : Type) (A : R → Type) where
  latency : Nat → Duration
  answer : Nat → (request : R) → Except Fault (A request)
  factor : Nat → Binary64

/-- A wait under way that keeps to a script: how many answers have come, and when the last question was
asked. -/
structure Performance (R : Type) (A : R → Type) where
  situation : Situation (Thread R A Unit)
  answered : Nat
  asked : Moment

/-- The questions among some entries. -/
def questionsOf (entries : List (Entry R A)) : List (Entry R A) :=
  entries.filter fun e => e.event.occurrence.isAsked

/-- The moves that take the clock on to a moment. -/
def clockTo (now moment : Moment) : List (Move R A) :=
  if moment ≤ now then [] else [.pass (moment - now)]

namespace Script

variable (script : Script R A) (cancelAt : Option Moment)

/-- What is due next in a wait, and when. -/
def due? (p : Performance R A) : Option (Cue R A × Moment) :=
  match p.situation.state with
  | .looking .. =>
    some (.reply fun request => .ofExcept (script.answer p.answered request),
      p.asked + script.latency p.answered)
  | .resting _ _ due _ =>
    some (if p.situation.cancelled then (.interrupt, p.situation.now) else (.wake, due))
  | .asking .. | .done _ => none

/-- The moment of the cancellation, if it comes before what is due next. -/
def cancelledBefore? (p : Performance R A) (due : Moment) : Option Moment :=
  cancelAt.filter fun moment => !p.situation.cancelled && decide (moment < due)

/-- The next moves of a wait: to the cancellation if it comes first, or else to what is due. -/
def moves? (p : Performance R A) : Option (List (Move R A)) :=
  (script.due? p).map fun (cue, due) =>
    match cancelledBefore? cancelAt p due with
    | some moment => clockTo p.situation.now moment ++ [.cancel]
    | none => clockTo p.situation.now due ++ [.resume [] cue (script.factor p.answered)]

/-- The wait after some entries. -/
def after (p : Performance R A) (entries : List (Entry R A)) (s : Situation (Thread R A Unit)) :
    Performance R A where
  situation := s
  answered := p.answered + (repliesOf entries).length
  asked := if (questionsOf entries).isEmpty then p.asked else s.now

/-- One step of a wait, with what happens in it. -/
def step? (p : Performance R A) : Option (List (Entry R A) × Performance R A) := do
  let moves ← script.moves? cancelAt p
  let (entries, s) ← p.situation.follow (Thread.process R A Unit) moves
  some (entries, after p entries s)

/-- `script.Leads cancelAt p entries q`: the steps from `p` come to `q`, and `entries` is what happens
in them. -/
inductive Leads : Performance R A → List (Entry R A) → Performance R A → Prop
  | here (p : Performance R A) : Leads p [] p
  | step {p p' q : Performance R A} {now later : List (Entry R A)} :
      script.step? cancelAt p = some (now, p') → Leads p' later q → Leads p (now ++ later) q

/-- A wait that begins at a moment.  If it should have been cancelled before, it begins cancelled. -/
def start (w : Watch R A) (started : Moment) : List (Entry R A) × Performance R A :=
  let c : Conditions := ⟨started, cancelAt.any fun moment => decide (moment ≤ started), script.factor 0⟩
  let (entries, s) := (Activity.await w).about c
  (entries, ⟨s, 0, started⟩)

/-- `script.Run cancelAt w started entries s`: the wait for `w` that begins at the moment `started` and
keeps to the script, and that is cancelled at `cancelAt` if that is a moment, is over in the situation `s`,
and `entries` is all that has happened. -/
def Run (w : Watch R A) (started : Moment) (entries : List (Entry R A))
    (s : Situation (Thread R A Unit)) : Prop :=
  ∃ later q, script.Leads cancelAt (script.start cancelAt w started).2 later q ∧
    q.situation = s ∧ s.state.outcome?.isSome = true ∧
    entries = (script.start cancelAt w started).1 ++ later

/-- `script.Ends cancelAt w started so`: the wait comes to its end, and its run is so. -/
def Ends (w : Watch R A) (started : Moment)
    (so : List (Entry R A) → Situation (Thread R A Unit) → Prop) : Prop :=
  (∃ entries s, script.Run cancelAt w started entries s) ∧
    ∀ entries s, script.Run cancelAt w started entries s → so entries s

/-- So many steps, or as many as there are. -/
def steps : Nat → Performance R A → List (Entry R A) × Performance R A
  | 0, p => ([], p)
  | n + 1, p =>
    match script.step? cancelAt p with
    | some (now, p') => (now ++ (steps n p').1, (steps n p').2)
    | none => ([], p)

/-- A wait with so many steps, or with as many as there are. -/
def perform (n : Nat) (w : Watch R A) (started : Moment) :
    List (Entry R A) × Situation (Thread R A Unit) :=
  let (entries, p) := script.start cancelAt w started
  (entries ++ (script.steps cancelAt n p).1, (script.steps cancelAt n p).2.situation)

/-! ## 3. One run -/

section Unique

variable {script cancelAt} {p q q' : Performance R A} {entries entries' : List (Entry R A)}

theorem leads_steps (n : Nat) (p : Performance R A) :
    script.Leads cancelAt p (script.steps cancelAt n p).1 (script.steps cancelAt n p).2 := by
  induction n generalizing p with
  | zero => exact .here p
  | succ n ih =>
    rw [steps]
    split
    case h_1 now p' hstep => exact .step hstep (ih p')
    case h_2 => exact .here p

theorem run_perform {n : Nat} {w : Watch R A} {started : Moment}
    (h : (script.perform cancelAt n w started).2.state.outcome?.isSome = true) :
    script.Run cancelAt w started (script.perform cancelAt n w started).1
      (script.perform cancelAt n w started).2 :=
  ⟨_, _, leads_steps n _, rfl, h, rfl⟩

theorem step?_over (h : p.situation.state.outcome?.isSome = true) :
    script.step? cancelAt p = none := by
  unfold step? moves? due?
  cases hstate : p.situation.state with
  | done outcome => rfl
  | _ =>
    rw [hstate] at h
    exact absurd h (by simp [Thread.outcome?])

/-- From one place a wait comes to one end. -/
theorem Leads.unique (h : script.Leads cancelAt p entries q)
    (hover : q.situation.state.outcome?.isSome = true) (h' : script.Leads cancelAt p entries' q')
    (hover' : q'.situation.state.outcome?.isSome = true) : entries = entries' ∧ q = q' := by
  induction h generalizing entries' with
  | here p =>
    cases h' with
    | here => exact ⟨rfl, rfl⟩
    | step hstep _ =>
      rw [step?_over hover] at hstep
      exact absurd hstep (by simp)
  | step hstep _ ih =>
    cases h' with
    | here =>
      rw [step?_over hover'] at hstep
      exact absurd hstep (by simp)
    | step hstep' hlater' =>
      obtain ⟨rfl, rfl⟩ := Prod.mk.inj (Option.some.inj (hstep.symm.trans hstep'))
      obtain ⟨rfl, rfl⟩ := ih hover hlater'
      exact ⟨rfl, rfl⟩

/-- **There is at most one run** with a script. -/
theorem Run.unique {w : Watch R A} {started : Moment} {s s' : Situation (Thread R A Unit)}
    (h : script.Run cancelAt w started entries s) (h' : script.Run cancelAt w started entries' s') :
    entries = entries' ∧ s = s' := by
  obtain ⟨later, q, hleads, rfl, hover, rfl⟩ := h
  obtain ⟨later', q', hleads', rfl, hover', rfl⟩ := h'
  obtain ⟨rfl, rfl⟩ := hleads.unique hover hleads' hover'
  exact ⟨rfl, rfl⟩

theorem Run.ends {w : Watch R A} {started : Moment} {s : Situation (Thread R A Unit)}
    {so : List (Entry R A) → Situation (Thread R A Unit) → Prop}
    (h : script.Run cancelAt w started entries s) (hso : so entries s) :
    script.Ends cancelAt w started so := by
  refine ⟨⟨entries, s, h⟩, fun entries' s' h' => ?_⟩
  obtain ⟨rfl, rfl⟩ := h.unique h'
  exact hso

end Unique

end Script

/-! ## 4. The turns of a wait -/

def Watch.Next.turn (w : Watch R A) : Watch.Next → List (Occurrence R A) × Thread R A Unit
  | .over outcome => ([], .done outcome)
  | .rest state due => ([.rested due], .resting w state due Activity.ofExcept)

/-- What a wait does after an answer: it makes its records, and then it is over or rests. -/
theorem Thread.afterLook_await (c : Conditions) (w : Watch R A) (state : WatchState)
    (answer : Except Fault (A w.request)) :
    Thread.afterLook c w state Activity.ofExcept answer =
      ((w.receive c state answer).1.map .noted ++ ((w.receive c state answer).2.turn w).1,
        ((w.receive c state answer).2.turn w).2) := by
  simp only [Thread.afterLook]
  cases (w.receive c state answer).2 with
  | «over» outcome => cases outcome <;> rfl
  | rest state' due => rfl

theorem Thread.isTalk_afterLook (c : Conditions) (w : Watch R A) (state : WatchState)
    (answer : Except Fault (A w.request)) :
    ∀ o ∈ (Thread.afterLook c w state Activity.ofExcept answer).1, o.isTalk = false := by
  intro o ho
  rw [Thread.afterLook_await] at ho
  rcases List.mem_append.1 ho with ho | ho
  · obtain ⟨record, -, rfl⟩ := List.mem_map.1 ho
    rfl
  · cases hnext : (w.receive c state answer).2 with
    | «over» outcome =>
      rw [hnext] at ho
      exact absurd ho List.not_mem_nil
    | rest state' due =>
      rw [hnext] at ho
      obtain rfl := List.mem_singleton.1 ho
      rfl

/-- The turn that an answer gives to a wait. -/
theorem Thread.resume_looking {c : Conditions} {w : Watch R A} {state : WatchState}
    {answer : (request : R) → Outcome (A request)} {reply : Except Fault (A w.request)}
    (h : answer w.request = .ofExcept reply) :
    (Thread.looking w state Activity.ofExcept).resume c (.reply answer) =
      some (.replied w.request (.ofExcept reply) ::
        (Thread.afterLook c w state Activity.ofExcept reply).1,
        (Thread.afterLook c w state Activity.ofExcept reply).2) := by
  simp only [Thread.resume, h]
  cases reply <;> rfl

/-- Time does not pass the end of a rest. -/
theorem Situation.le_due_of_pass {α : Type} {s s' : Situation (Thread R A α)} {length : Duration}
    {entries : List (Entry R A)} {due : Moment}
    (h : s.after? (Thread.process R A α) (.pass length) = some (entries, s'))
    (hdropped : s.dropped = false) (hdue : s.state.due? = some due) : s.now + length ≤ due := by
  have hpass : s.mayPass (Thread.process R A α) length = true := by
    by_contra hno
    rw [Situation.after?, if_neg hno] at h
    exact absurd h (by simp)
  simp only [Situation.mayPass, hdropped, Thread.process, hdue, Bool.false_or, Option.toList_some,
    List.all_cons, List.all_nil, Bool.and_true, Bool.and_eq_true, decide_eq_true_eq] at hpass
  exact hpass.1

theorem questionsOf_eq_nil {entries : List (Entry R A)} (h : requestCount entries = 0) :
    questionsOf entries = [] :=
  List.filter_eq_nil_iff.2 (List.countP_eq_zero.1 h)

theorem length_questionsOf (entries : List (Entry R A)) :
    (questionsOf entries).length = requestCount entries :=
  List.countP_eq_length_filter.symm

@[simp] theorem questionsOf_append (xs ys : List (Entry R A)) :
    questionsOf (xs ++ ys) = questionsOf xs ++ questionsOf ys := List.filter_append ..

/-- The clock can be taken on to a moment, unless a rest ends before. -/
theorem Situation.follow_clockTo {σ : Type} {process : Process R A σ} {state : σ} {now moment : Moment}
    {cancelled dropped : Bool} (hle : now ≤ moment)
    (hpass : now < moment →
      (⟨state, now, cancelled, dropped⟩ : Situation σ).mayPass process (moment - now) = true)
    (moves : List (Move R A)) :
    (⟨state, now, cancelled, dropped⟩ : Situation σ).follow process (clockTo now moment ++ moves) =
      (⟨state, moment, cancelled, dropped⟩ : Situation σ).follow process moves := by
  unfold clockTo
  split
  case isTrue hge =>
    obtain rfl : now = moment := Duration.nanos_inj.1 (Nat.le_antisymm hle hge)
    rfl
  case isFalse hlt =>
    have hafter : (⟨state, now, cancelled, dropped⟩ : Situation σ).after? process
        (.pass (moment - now)) = some ([], ⟨state, moment, cancelled, dropped⟩) := by
      rw [Situation.after?, if_pos (hpass (Nat.not_le.1 hlt)), Duration.add_sub_of_le hle]
    simp only [List.cons_append, List.nil_append, Situation.follow, hafter, Option.bind_eq_bind,
      Option.bind_some]
    cases (⟨state, moment, cancelled, dropped⟩ : Situation σ).follow process moves <;> rfl

namespace Performance

def looking (w : Watch R A) (state : WatchState) (answered : Nat) (asked now : Moment)
    (cancelled : Bool) : Performance R A :=
  ⟨⟨.looking w state Activity.ofExcept, now, cancelled, false⟩, answered, asked⟩

def resting (w : Watch R A) (state : WatchState) (due : Moment) (answered : Nat) (asked now : Moment)
    (cancelled : Bool) : Performance R A :=
  ⟨⟨.resting w state due Activity.ofExcept, now, cancelled, false⟩, answered, asked⟩

end Performance

/-! ## 5. The steps of a wait -/

namespace Script

variable {script : Script R A} {cancelAt : Option Moment} {w : Watch R A} {state : WatchState}
  {k : Nat} {asked now due : Moment} {cancelled : Bool}

theorem step?_of_moves {p : Performance R A} {moves : List (Move R A)} {entries : List (Entry R A)}
    {s : Situation (Thread R A Unit)} (hmoves : script.moves? cancelAt p = some moves)
    (hfollow : p.situation.follow (Thread.process R A Unit) moves = some (entries, s)) :
    script.step? cancelAt p = some (entries, after p entries s) := by
  simp only [step?, hmoves, hfollow, Option.bind_eq_bind, Option.bind_some]

/-- A turn that is due, as a sequence of moves. -/
theorem follow_turn {s : Situation (Thread R A Unit)} (hdropped : s.dropped = false) {cue : Cue R A}
    {factor : Binary64} {happened : List (Occurrence R A)} {thread : Thread R A Unit}
    (hturn : s.state.resume ⟨s.now, s.cancelled, factor⟩ cue = some (happened, thread)) :
    s.follow (Thread.process R A Unit) [.resume [] cue factor] =
      some (entriesAt s.now happened, { s with state := thread }) := by
  simp [Situation.follow, Situation.after?, hdropped, Thread.process, hturn, entriesAt]

theorem after_reply {p : Performance R A} {request : R} {reply : Outcome (A request)}
    {more : List (Occurrence R A)} (hquiet : ∀ o ∈ more, o.isTalk = false)
    (s : Situation (Thread R A Unit)) :
    after p (entriesAt now (.replied request reply :: more)) s = ⟨s, p.answered + 1, p.asked⟩ := by
  obtain ⟨hasked, hreplies⟩ := quiet_entriesAt now hquiet
  have hquestions : questionsOf (entriesAt now (.replied request reply :: more)) = [] :=
    questionsOf_eq_nil hasked
  have hone : repliesOf (entriesAt now (.replied request reply :: more)) =
      [⟨now, [], .replied request reply⟩] := congrArg (_ :: ·) hreplies
  rw [after, hquestions, hone]
  rfl

/-- **An answer comes**, unless the wait is cancelled before. -/
theorem step?_answer {answer : Except Fault (A w.request)}
    {turn : List (Occurrence R A) × Thread R A Unit} (hdue : asked + script.latency k = due)
    (hanswer : script.answer k w.request = answer)
    (hturn : Thread.afterLook ⟨due, cancelled, script.factor k⟩ w state Activity.ofExcept answer = turn)
    (hnow : now ≤ due)
    (hfirst : cancelledBefore? cancelAt (.looking w state k asked now cancelled) due = none) :
    script.step? cancelAt (.looking w state k asked now cancelled) =
      some (entriesAt due (.replied w.request (.ofExcept answer) :: turn.1),
        ⟨⟨turn.2, due, cancelled, false⟩, k + 1, asked⟩) := by
  have hmoves : script.moves? cancelAt (.looking w state k asked now cancelled) =
      some (clockTo now due ++ [.resume [] (.reply fun request => .ofExcept (script.answer k request))
        (script.factor k)]) := by
    simp only [moves?, due?, Performance.looking, Option.map_some, hdue] at hfirst ⊢
    rw [hfirst]
  have hresume : (Thread.looking w state Activity.ofExcept).resume ⟨due, cancelled, script.factor k⟩
      (.reply fun request => .ofExcept (script.answer k request)) =
      some (.replied w.request (.ofExcept answer) :: turn.1, turn.2) := by
    have hreply : Outcome.ofExcept (script.answer k w.request) = .ofExcept answer := by rw [hanswer]
    rw [← hturn]
    exact Thread.resume_looking hreply
  have hquiet : ∀ o ∈ turn.1, o.isTalk = false := by
    rw [← hturn]
    exact Thread.isTalk_afterLook _ w state answer
  have hfollow : (Performance.looking w state k asked now cancelled).situation.follow
      (Thread.process R A Unit) (clockTo now due ++
        [.resume [] (.reply fun request => .ofExcept (script.answer k request)) (script.factor k)]) =
      some (entriesAt due (.replied w.request (.ofExcept answer) :: turn.1),
        ⟨turn.2, due, cancelled, false⟩) := by
    refine (Situation.follow_clockTo hnow (fun _ => ?_) _).trans (follow_turn rfl hresume)
    simp [Situation.mayPass, Thread.process, Thread.due?]
  rw [step?_of_moves hmoves hfollow, after_reply hquiet]
  rfl

/-- **A rest ends**, unless the wait is cancelled before. -/
theorem step?_wake {turn : List (Occurrence R A) × Thread R A Unit}
    (hturn : Thread.afterRest ⟨due, false, script.factor k⟩ w state Activity.ofExcept = turn)
    (hnow : now ≤ due)
    (hfirst : cancelledBefore? cancelAt (.resting w state due k asked now false) due = none) :
    script.step? cancelAt (.resting w state due k asked now false) =
      some (entriesAt due turn.1, after (.resting w state due k asked now false) (entriesAt due turn.1)
        ⟨turn.2, due, false, false⟩) := by
  have hmoves : script.moves? cancelAt (.resting w state due k asked now false) =
      some (clockTo now due ++ [.resume [] .wake (script.factor k)]) := by
    simp only [moves?, due?, Performance.resting, Option.map_some] at hfirst ⊢
    simp [hfirst]
  have hreached : due ≤ due := Nat.le_refl due.nanos
  refine step?_of_moves hmoves ((Situation.follow_clockTo hnow (fun _ => ?_) _).trans ?_)
  · simp [Situation.mayPass, Thread.process, Thread.due?, Duration.add_sub_of_le hnow, hreached]
  · refine follow_turn rfl ?_
    simp [Thread.resume, hreached, hturn]

/-- **The cancellation** comes while a question is open. -/
theorem step?_cancel_looking {moment : Moment} (hnow : now ≤ moment)
    (hless : moment < asked + script.latency k) :
    script.step? (some moment) (.looking w state k asked now false) =
      some ([⟨moment, [], .cancelled⟩], .looking w state k asked moment true) := by
  have hmoves : script.moves? (some moment) (.looking w state k asked now false) =
      some (clockTo now moment ++ [.cancel]) := by
    simp [moves?, due?, cancelledBefore?, Performance.looking, hless, Option.filter]
  have hfollow : (Performance.looking w state k asked now false).situation.follow
      (Thread.process R A Unit) (clockTo now moment ++ [.cancel]) =
      some ([⟨moment, [], .cancelled⟩], ⟨.looking w state Activity.ofExcept, moment, true, false⟩) := by
    refine (Situation.follow_clockTo hnow (fun _ => ?_) _).trans rfl
    simp [Situation.mayPass, Thread.process, Thread.due?]
  exact (step?_of_moves hmoves hfollow).trans rfl

/-- **The cancellation** comes during a rest. -/
theorem step?_cancel_resting {moment : Moment} (hnow : now ≤ moment) (hless : moment < due) :
    script.step? (some moment) (.resting w state due k asked now false) =
      some ([⟨moment, [], .cancelled⟩], .resting w state due k asked moment true) := by
  have hmoves : script.moves? (some moment) (.resting w state due k asked now false) =
      some (clockTo now moment ++ [.cancel]) := by
    simp [moves?, due?, cancelledBefore?, Performance.resting, hless, Option.filter]
  have hfollow : (Performance.resting w state due k asked now false).situation.follow
      (Thread.process R A Unit) (clockTo now moment ++ [.cancel]) =
      some ([⟨moment, [], .cancelled⟩],
        ⟨.resting w state due Activity.ofExcept, moment, true, false⟩) := by
    have hle : moment ≤ due := Nat.le_of_lt hless
    refine (Situation.follow_clockTo hnow (fun _ => ?_) _).trans rfl
    simp [Situation.mayPass, Thread.process, Thread.due?, Duration.add_sub_of_le hnow, hle]
  exact (step?_of_moves hmoves hfollow).trans rfl

/-- **A rest is interrupted** once the wait is cancelled. -/
theorem step?_interrupt :
    script.step? cancelAt (.resting w state due k asked now true) =
      some ([], ⟨⟨.done (.fault w.interrupted), now, true, false⟩, k, asked⟩) := by
  have hmoves : script.moves? cancelAt (.resting w state due k asked now true) =
      some (clockTo now now ++ [.resume [] .interrupt (script.factor k)]) := by
    cases cancelAt <;> simp [moves?, due?, cancelledBefore?, Performance.resting, Option.filter]
  have hfollow : (Performance.resting w state due k asked now true).situation.follow
      (Thread.process R A Unit) (clockTo now now ++ [.resume [] .interrupt (script.factor k)]) =
      some ([], ⟨.done (.fault w.interrupted), now, true, false⟩) := by
    refine (Situation.follow_clockTo (Nat.le_refl now.nanos) (fun hless => ?_) _).trans rfl
    exact absurd hless (Nat.lt_irrefl now.nanos)
  exact (step?_of_moves hmoves hfollow).trans rfl

end Script

end Teardown
