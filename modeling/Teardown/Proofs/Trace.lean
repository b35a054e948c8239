/-
# Traces of activities

What an activity can have done so far is a matter of the activity alone: whichever answers come,
and however the turns fall, its requests and the replies to them form a trace of it.
`Activity.Trace` says which traces there are and where each of them leaves the thread, with one
rule for every way in which an activity can go on.  Records and rests are left out of a trace;
what remains is the work (`Occurrence.isWork`).

The two facts that make it useful: carrying out an activity up to its first halt is a trace
(`Activity.trace_proceed`), and a further turn extends a trace (`Activity.Trace.resume`).  So what
every trace of an activity has in common holds of all its runs.

* §1  work, among all that occurs.
* §2  the rounds of a watch: one question, asked again and again.
* §3-4  traces, the first halt and the further turns.
* §5  reading a trace.  An activity that is known to have ended well tells what was asked and
      granted on the way, step by step (`Activity.Trace.of_request`, `Activity.Trace.of_watch`),
      and what is asked at all is bounded by what the activity makes (`Activity.Only`).

A trace does not say how long anything took, nor what was recorded on the way.
-/
import Teardown.Execution

namespace Teardown

variable {R : Type} {A : R → Type} {α : Type}

/-! ## 1. Work -/

/-- Whether an occurrence is work, and not a record, the beginning of a rest or of a lane, or the
cancellation from outside. -/
def Occurrence.isWork : Occurrence R A → Bool
  | .asked _ | .replied .. | .began | .ended _ => true
  | .noted _ | .rested _ | .opened | .cancelled => false

/-- Whether an occurrence is a request or a reply. -/
def Occurrence.isTalk : Occurrence R A → Bool
  | .asked _ | .replied .. => true
  | .noted _ | .rested _ | .opened | .began | .ended _ | .cancelled => false

def Occurrence.isAsked : Occurrence R A → Bool
  | .asked _ => true
  | .noted _ | .replied .. | .rested _ | .opened | .began | .ended _ | .cancelled => false

def Occurrence.isReplied : Occurrence R A → Bool
  | .replied .. => true
  | .noted _ | .asked _ | .rested _ | .opened | .began | .ended _ | .cancelled => false

def Occurrence.isBegan : Occurrence R A → Bool
  | .began => true
  | .noted _ | .asked _ | .replied .. | .rested _ | .opened | .ended _ | .cancelled => false

def Occurrence.end? : Occurrence R A → Option (Outcome Unit)
  | .ended outcome => some outcome
  | .noted _ | .asked _ | .replied .. | .rested _ | .opened | .began | .cancelled => none

/-- The work among some occurrences. -/
def deeds (happened : List (Occurrence R A)) : List (Occurrence R A) :=
  happened.filter Occurrence.isWork

@[simp] theorem deeds_nil : deeds ([] : List (Occurrence R A)) = [] := rfl

@[simp] theorem deeds_append (xs ys : List (Occurrence R A)) :
    deeds (xs ++ ys) = deeds xs ++ deeds ys :=
  List.filter_append ..

@[simp] theorem deeds_noted (record : Record) (xs : List (Occurrence R A)) :
    deeds (.noted record :: xs) = deeds xs := rfl

@[simp] theorem deeds_asked (request : R) (xs : List (Occurrence R A)) :
    deeds (.asked request :: xs) = .asked request :: deeds xs := rfl

@[simp] theorem deeds_replied (request : R) (reply : Outcome (A request))
    (xs : List (Occurrence R A)) :
    deeds (.replied request reply :: xs) = .replied request reply :: deeds xs := rfl

@[simp] theorem deeds_rested (due : Moment) (xs : List (Occurrence R A)) :
    deeds (.rested due :: xs) = deeds xs := rfl

@[simp] theorem deeds_began (xs : List (Occurrence R A)) :
    deeds (.began :: xs) = .began :: deeds xs := rfl

@[simp] theorem deeds_ended (outcome : Outcome Unit) (xs : List (Occurrence R A)) :
    deeds (.ended outcome :: xs) = .ended outcome :: deeds xs := rfl

theorem countP_isBegan_deeds (happened : List (Occurrence R A)) :
    happened.countP Occurrence.isBegan = (deeds happened).countP Occurrence.isBegan := by
  rw [deeds, List.countP_filter]
  refine List.countP_congr fun o _ => ?_
  cases o <;> simp [Occurrence.isBegan, Occurrence.isWork]

theorem filterMap_end?_deeds (happened : List (Occurrence R A)) :
    happened.filterMap Occurrence.end? = (deeds happened).filterMap Occurrence.end? := by
  rw [deeds, List.filterMap_filter]
  refine congrArg (List.filterMap · happened) (funext fun o => ?_)
  cases o <;> rfl

@[simp] theorem deeds_records (records : List Record) :
    deeds (records.map Occurrence.noted : List (Occurrence R A)) = [] := by
  induction records with
  | nil => rfl
  | cons record records ih => rw [List.map_cons, deeds_noted, ih]

/-! ## 2. Rounds of a watch -/

/-- The work of a watch: its one question, asked again and again, each time with a reply. -/
inductive Watch.Rounds (w : Watch R A) : List (Occurrence R A) → Prop
  | none : w.Rounds []
  | round {past : List (Occurrence R A)} (reply : Outcome (A w.request)) :
      w.Rounds past → w.Rounds (past ++ [.asked w.request, .replied w.request reply])

/-- A watch ends well only by an answer that shows the success. -/
theorem Watch.receive_ok {w : Watch R A} {c : Conditions} {s : WatchState}
    {answer : Except Fault (A w.request)} {value : Unit}
    (h : (w.receive c s answer).2 = .over (.ok value)) :
    ∃ seen, answer = .ok seen ∧ (w.observe seen).verdict = .success := by
  have hpause : ∀ s : WatchState, (w.pause c s).2 ≠ .over (.ok value) := by
    intro s
    simp only [Watch.pause]
    split
    · simp
    · split
      · simp [Outcome.overflow]
      · split <;> simp
  cases answer with
  | error cause => exact absurd h (hpause s)
  | ok seen =>
    refine ⟨seen, rfl, ?_⟩
    simp only [Watch.receive] at h
    split at h
    · assumption
    · simp at h
    · exact absurd h (hpause _)

/-! ## 3. Traces -/

namespace Activity

/-- `Trace a past thread`: the activity can have done the work `past` and stand at `thread`. -/
inductive Trace : Activity R A α → List (Occurrence R A) → Thread R A α → Prop
  | finish (outcome : Outcome α) : Trace (.finish outcome) [] (.done outcome)
  | note {record : Record} {next : Activity R A α} {past : List (Occurrence R A)}
      {thread : Thread R A α} : Trace next past thread → Trace (.note record next) past thread
  | asking (request : R) (next : Except Fault (A request) → Activity R A α) :
      Trace (.ask request next) [.asked request] (.asking request next)
  | granted {request : R} {next : Except Fault (A request) → Activity R A α}
      {past : List (Occurrence R A)} {thread : Thread R A α} (value : A request) :
      Trace (next (.ok value)) past thread →
        Trace (.ask request next) (.asked request :: .replied request (.ok value) :: past) thread
  | refused {request : R} {next : Except Fault (A request) → Activity R A α}
      {past : List (Occurrence R A)} {thread : Thread R A α} (cause : Fault) :
      Trace (next (.error cause)) past thread →
        Trace (.ask request next) (.asked request :: .replied request (.fault cause) :: past) thread
  | broken {request : R} {next : Except Fault (A request) → Activity R A α}
      (text : Option String) :
      Trace (.ask request next) [.asked request, .replied request (.panic text)]
        (.done (.panic text))
  | looking {w : Watch R A} {next : Except Fault Unit → Activity R A α}
      {past : List (Occurrence R A)} (s : WatchState) : w.Rounds past →
        Trace (.watch w next) (past ++ [.asked w.request]) (.looking w s next)
  | resting {w : Watch R A} {next : Except Fault Unit → Activity R A α}
      {past : List (Occurrence R A)} (s : WatchState) (due : Moment) : w.Rounds past →
        Trace (.watch w next) past (.resting w s due next)
  | succeeded {w : Watch R A} {next : Except Fault Unit → Activity R A α}
      {past more : List (Occurrence R A)} {thread : Thread R A α} {seen : A w.request} :
      w.Rounds past → (w.observe seen).verdict = .success → Trace (next (.ok ())) more thread →
        Trace (.watch w next)
          (past ++ .asked w.request :: .replied w.request (.ok seen) :: more) thread
  | failed {w : Watch R A} {next : Except Fault Unit → Activity R A α}
      {past more : List (Occurrence R A)} {thread : Thread R A α} (cause : Fault) :
      w.Rounds past → Trace (next (.error cause)) more thread →
        Trace (.watch w next) (past ++ more) thread
  | watchBroken {w : Watch R A} {next : Except Fault Unit → Activity R A α}
      {past : List (Occurrence R A)} (text : Option String) : w.Rounds past →
        Trace (.watch w next) past (.done (.panic text))

/-- **The first halt.**  Carrying out an activity as far as it goes at once is a trace of it. -/
theorem trace_proceed (c : Conditions) (a : Activity R A α) :
    a.Trace (deeds (a.proceed c).1) (a.proceed c).2 := by
  induction a with
  | finish outcome => exact .finish outcome
  | note record next ih => exact .note ih
  | ask request next _ => exact .asking request next
  | watch w next ih =>
    simp only [proceed]
    split
    · exact .looking _ .none
    · exact .failed _ .none (ih _)

end Activity

/-! ## 4. Further turns -/

namespace Thread

/-- What follows the answer to the question of a watch extends the trace. -/
theorem trace_afterLook {w : Watch R A} {next : Except Fault Unit → Activity R A α}
    {past : List (Occurrence R A)} (hpast : w.Rounds past) (c : Conditions) (s : WatchState)
    (answer : Except Fault (A w.request)) :
    (Activity.watch w next).Trace
      (past ++ .asked w.request :: .replied w.request (.ofExcept answer) ::
        deeds (afterLook c w s next answer).1)
      (afterLook c w s next answer).2 := by
  have hround : w.Rounds
      (past ++ [.asked w.request, .replied w.request (.ofExcept answer)]) := .round _ hpast
  simp only [afterLook]
  match hstep : (w.receive c s answer).2 with
  | .rest state due => simpa using Activity.Trace.resting state due hround
  | .over outcome =>
    cases outcome with
    | ok value =>
      obtain ⟨seen, rfl, hseen⟩ := Watch.receive_ok hstep
      simpa [afterWatch, Outcome.ofExcept] using
        Activity.Trace.succeeded hpast hseen (Activity.trace_proceed c (next (.ok value)))
    | fault cause =>
      simpa [afterWatch] using
        Activity.Trace.failed cause hround (Activity.trace_proceed c (next (.error cause)))
    | panic text => simpa [afterWatch, broken] using Activity.Trace.watchBroken text hround

theorem trace_lookAgain {w : Watch R A} {next : Except Fault Unit → Activity R A α}
    {past : List (Occurrence R A)} (hpast : w.Rounds past) (c : Conditions)
    (left : Except Duration.Overflow WatchState) :
    (Activity.watch w next).Trace (past ++ deeds (lookAgain c w next left).1)
      (lookAgain c w next left).2 := by
  cases left with
  | error cause =>
    have h : (Activity.watch w next).Trace past (.done (.panic (some cause.message))) :=
      .watchBroken _ hpast
    simpa [lookAgain, afterWatch, Outcome.overflow, broken] using h
  | ok state =>
    simp only [lookAgain]
    split
    · exact .looking _ hpast
    · exact .failed _ hpast (Activity.trace_proceed c _)

end Thread

/-- **A further turn** extends the trace of an activity by its work. -/
theorem Activity.Trace.resume {a : Activity R A α} {past : List (Occurrence R A)}
    {thread : Thread R A α} (h : a.Trace past thread) {c : Conditions} {cue : Cue R A}
    {happened : List (Occurrence R A)} {thread' : Thread R A α}
    (hturn : thread.resume c cue = some (happened, thread')) :
    a.Trace (past ++ deeds happened) thread' := by
  induction h with
  | finish outcome | broken text | watchBroken text _ =>
    rw [Thread.resume_done] at hturn
    exact absurd hturn (by simp)
  | note _ ih => exact .note (ih hturn)
  | granted value _ ih => exact .granted value (ih hturn)
  | refused cause _ ih => exact .refused cause (ih hturn)
  | succeeded hpast hseen _ ih =>
    rw [List.append_assoc]
    exact .succeeded hpast hseen (ih hturn)
  | failed cause hpast _ ih =>
    rw [List.append_assoc]
    exact .failed cause hpast (ih hturn)
  | asking request next =>
    cases cue with
    | reply answer =>
      simp only [Thread.resume, Option.some.injEq, Prod.mk.injEq] at hturn
      obtain ⟨rfl, rfl⟩ := hturn
      cases answer request with
      | ok value => exact .granted value (trace_proceed c _)
      | fault cause => exact .refused cause (trace_proceed c _)
      | panic text => exact .broken text
    | _ => exact absurd hturn (by simp [Thread.resume])
  | @looking w next past s hpast =>
    cases cue with
    | reply answer =>
      simp only [Thread.resume, Option.some.injEq, Prod.mk.injEq] at hturn
      obtain ⟨rfl, rfl⟩ := hturn
      rw [List.append_assoc]
      cases answer w.request with
      | ok value => exact Thread.trace_afterLook hpast c s (.ok value)
      | fault cause => exact Thread.trace_afterLook hpast c s (.error cause)
      | panic text => exact .watchBroken text (.round _ hpast)
    | _ => exact absurd hturn (by simp [Thread.resume])
  | @resting w next past s due hpast =>
    cases cue with
    | wake =>
      simp only [Thread.resume] at hturn
      split at hturn
      · have h : (watch w next).Trace (past ++ deeds (Thread.lookAgain c w next (w.leave s)).1)
            (Thread.lookAgain c w next (w.leave s)).2 := Thread.trace_lookAgain hpast c _
        have hrest : Thread.lookAgain c w next (w.leave s) = (happened, thread') :=
          Option.some.inj hturn
        rwa [hrest] at h
      · exact absurd hturn (by simp)
    | interrupt =>
      simp only [Thread.resume] at hturn
      split at hturn
      · have h := trace_proceed c (next (.error w.interrupted))
        rw [Option.some.inj hturn] at h
        exact .failed _ hpast h
      · exact absurd hturn (by simp)
    | _ => exact absurd hturn (by simp [Thread.resume])

/-! ## 5. Reading a trace -/

namespace Activity

/-- An activity makes only requests of a certain kind. -/
def Only (P : R → Prop) : Activity R A α → Prop
  | .finish _ => True
  | .note _ next => next.Only P
  | .ask request next => P request ∧ ∀ answer, (next answer).Only P
  | .watch w next => P w.request ∧ ∀ answer, (next answer).Only P

end Activity

/-- A watch asks only its own question. -/
theorem Watch.Rounds.asked {w : Watch R A} {past : List (Occurrence R A)} (h : w.Rounds past)
    {request : R} (hasked : .asked request ∈ past) : request = w.request := by
  induction h with
  | none => exact absurd hasked List.not_mem_nil
  | round reply _ ih =>
    rcases List.mem_append.1 hasked with hasked | hasked
    · exact ih hasked
    · simpa using hasked

theorem Watch.Rounds.talks {w : Watch R A} {past : List (Occurrence R A)} (h : w.Rounds past) :
    ∀ o ∈ past, o.isTalk = true := by
  induction h with
  | none => simp
  | round reply _ ih =>
    intro o ho
    rcases List.mem_append.1 ho with ho | ho
    · exact ih o ho
    · rcases List.mem_cons.1 ho with rfl | ho
      · rfl
      · rw [List.mem_singleton.1 ho]
        rfl

namespace Activity.Trace

variable {a : Activity R A α} {past : List (Occurrence R A)} {thread : Thread R A α}

/-- A trace holds nothing but requests and replies. -/
theorem talks (h : a.Trace past thread) : ∀ o ∈ past, o.isTalk = true := by
  induction h with
  | finish => simp
  | note _ ih => exact ih
  | asking => simp [Occurrence.isTalk]
  | granted value _ ih => simpa [Occurrence.isTalk] using ih
  | refused cause _ ih => simpa [Occurrence.isTalk] using ih
  | broken text => simp [Occurrence.isTalk]
  | looking s hpast =>
    intro o ho
    rcases List.mem_append.1 ho with ho | ho
    · exact hpast.talks o ho
    · rw [List.mem_singleton.1 ho]
      rfl
  | resting s due hpast => exact hpast.talks
  | watchBroken text hpast => exact hpast.talks
  | succeeded hpast _ _ ih =>
    intro o ho
    rcases List.mem_append.1 ho with ho | ho
    · exact hpast.talks o ho
    · rcases List.mem_cons.1 ho with rfl | ho
      · rfl
      · rcases List.mem_cons.1 ho with rfl | ho
        · rfl
        · exact ih o ho
  | failed cause hpast _ ih =>
    intro o ho
    rcases List.mem_append.1 ho with ho | ho
    · exact hpast.talks o ho
    · exact ih o ho

theorem no_begin (h : a.Trace past thread) : past.countP Occurrence.isBegan = 0 := by
  rw [List.countP_eq_zero]
  intro o ho
  have htalk := h.talks o ho
  cases o <;> simp_all [Occurrence.isTalk, Occurrence.isBegan]

theorem no_end (h : a.Trace past thread) : past.filterMap Occurrence.end? = [] := by
  rw [List.filterMap_eq_nil_iff]
  intro o ho
  have htalk := h.talks o ho
  cases o <;> simp_all [Occurrence.isTalk, Occurrence.end?]

/-- In a trace only requests are made that the activity makes at all. -/
theorem of_only {P : R → Prop} (h : a.Trace past thread) (ha : a.Only P) {request : R}
    (hasked : .asked request ∈ past) : P request := by
  induction h with
  | finish => exact absurd hasked List.not_mem_nil
  | note _ ih => exact ih ha hasked
  | asking q next =>
    obtain rfl : request = q := by simpa using hasked
    exact ha.1
  | granted value _ ih =>
    rcases List.mem_cons.1 hasked with heq | hasked
    · obtain rfl := Occurrence.asked.inj heq
      exact ha.1
    · exact ih (ha.2 _) (by simpa using hasked)
  | refused cause _ ih =>
    rcases List.mem_cons.1 hasked with heq | hasked
    · obtain rfl := Occurrence.asked.inj heq
      exact ha.1
    · exact ih (ha.2 _) (by simpa using hasked)
  | broken text =>
    obtain rfl : request = _ := by simpa using hasked
    exact ha.1
  | looking s hpast =>
    rcases List.mem_append.1 hasked with hasked | hasked
    · exact hpast.asked hasked ▸ ha.1
    · obtain rfl : request = _ := by simpa using hasked
      exact ha.1
  | resting s due hpast => exact hpast.asked hasked ▸ ha.1
  | watchBroken text hpast => exact hpast.asked hasked ▸ ha.1
  | succeeded hpast _ _ ih =>
    rcases List.mem_append.1 hasked with hasked | hasked
    · exact hpast.asked hasked ▸ ha.1
    · rcases List.mem_cons.1 hasked with heq | hasked
      · obtain rfl := Occurrence.asked.inj heq
        exact ha.1
      · exact ih (ha.2 _) (by simpa using hasked)
  | failed cause hpast _ ih =>
    rcases List.mem_append.1 hasked with hasked | hasked
    · exact hpast.asked hasked ▸ ha.1
    · exact ih (ha.2 _) hasked

/-- What is asked for first and never again is asked for once. -/
theorem asked_once {request : R} {next : Except Fault (A request) → Activity R A α}
    (h : (Activity.ask request next).Trace past thread)
    (honly : ∀ answer, (next answer).Only (· ≠ request)) :
    ∃ rest, past = .asked request :: rest ∧ .asked request ∉ rest := by
  have hnext : ∀ {answer more}, (next answer).Trace more thread → .asked request ∉ more :=
    fun hmore hasked => hmore.of_only (honly _) hasked rfl
  cases h with
  | asking => exact ⟨[], rfl, List.not_mem_nil⟩
  | broken text => exact ⟨_, rfl, by simp⟩
  | granted value hmore => exact ⟨_, rfl, by simpa using hnext hmore⟩
  | refused cause hmore => exact ⟨_, rfl, by simpa using hnext hmore⟩

theorem of_finish {outcome : Outcome α} (h : (Activity.finish outcome).Trace past thread) :
    past = [] ∧ thread = .done outcome := by
  cases h
  exact ⟨rfl, rfl⟩

theorem of_note {record : Record} {next : Activity R A α}
    (h : (Activity.note record next).Trace past thread) : next.Trace past thread := by
  cases h
  assumption

/-- A request that an activity has got past was granted or refused. -/
theorem of_ask {request : R} {next : Except Fault (A request) → Activity R A α} {value : α}
    (h : (Activity.ask request next).Trace past (.done (.ok value))) :
    ∃ answer more, past = .asked request :: .replied request (.ofExcept answer) :: more ∧
      (next answer).Trace more (.done (.ok value)) := by
  cases h with
  | granted seen hmore => exact ⟨.ok seen, _, rfl, hmore⟩
  | refused cause hmore => exact ⟨.error cause, _, rfl, hmore⟩

/-- A single request ends well only if it was granted. -/
theorem of_request {request : R} {past : List (Occurrence R A)} {value : A request}
    (h : (Activity.request request).Trace past (.done (.ok value))) :
    past = [.asked request, .replied request (.ok value)] := by
  obtain ⟨answer, more, rfl, hmore⟩ := of_ask h
  obtain ⟨rfl, hdone⟩ := hmore.of_finish
  cases answer with
  | error cause => exact absurd hdone (by simp [Outcome.ofExcept])
  | ok granted =>
    obtain rfl : value = granted := by simpa [Outcome.ofExcept] using hdone
    rfl

/-- A watch that an activity has got past succeeded by its last answer, or failed. -/
theorem of_watch {w : Watch R A} {next : Except Fault Unit → Activity R A α} {value : α}
    (h : (Activity.watch w next).Trace past (.done (.ok value))) :
    (∃ rounds seen more, w.Rounds rounds ∧ (w.observe seen).verdict = .success ∧
      past = rounds ++ .asked w.request :: .replied w.request (.ok seen) :: more ∧
      (next (.ok ())).Trace more (.done (.ok value))) ∨
    ∃ cause more, (next (.error cause)).Trace more (.done (.ok value)) := by
  cases h with
  | succeeded hrounds hseen hmore => exact .inl ⟨_, _, _, hrounds, hseen, rfl, hmore⟩
  | failed cause _ hmore => exact .inr ⟨cause, _, hmore⟩

end Activity.Trace

end Teardown
