/-
# What is asked while a plan is made

There are four ways to make a plan (`Planner`).  Each asks its own part of four questions, and
always in the same order: for the node groups, for the provider, for the service accounts, and for
the control plane.  Nothing else is asked of anybody, and in particular nothing is changed.

The first question that does not come out well ends the making of the plan.  A refusal is handed
on as it is; an answer that shows the provider or the control plane missing has a fault of its own
(`Cluster.setback?`).  `plan_inquiry` says how far the making of a plan can have come after any
moves, whatever the answers are and whenever they come: there is a plan only when every question
has come out well, and after a setback nothing more is asked.

* §1, §2  the four ways and their questions.  That an activity keeps to a list of questions
  (`Inquires`) is put together as the activity is: first the questions of the first part, and then
  those of what follows (`Inquires.bind`).
* §3  how far the questions have come in a run of such an activity (`Inquiry`).
* §4  a remote side that only looks when it is asked one of these questions is the same
      afterwards.
* §5  the making of a plan.

A question is a request with any answer, so nothing is assumed of the other side: it may refuse,
break off, or answer with stacks that do not belong to the cluster.
-/
import Teardown.Proofs.TeardownOrder
import Teardown.Proofs.Waiting
import Teardown.Rehearsal.World

namespace Teardown

/-! ## 1. The ways to make a plan -/

/-- A way to make a plan, with all that its caller decides. -/
inductive Planner
  | nodeGroups (only : Option NameSet) (wait cleanUp : Bool)
  | accounts (only : Option NameSet) (wait : Bool)
  | provider
  | whole (wait cleanUp : Bool)

namespace Planner

/-- Making the plan. -/
def build (c : Cluster) : Planner → Action (Plan Task)
  | nodeGroups only wait cleanUp => c.deleteNodeGroups only wait cleanUp
  | accounts only wait => c.deleteServiceAccounts only wait
  | provider => c.deleteProvider
  | whole wait cleanUp => c.deleteAll wait cleanUp

/-- The questions that are asked for the plan, in order. -/
def questions (c : Cluster) : Planner → List Request
  | nodeGroups .. => [.describeStacks c.name .nodeGroup]
  | accounts .. => [.describeStacks c.name .serviceAccount]
  | provider => [.providerExists, .describeStacks c.name .serviceAccount]
  | whole .. => [.describeStacks c.name .nodeGroup, .providerExists,
      .describeStacks c.name .serviceAccount, .describeStacks c.name .cluster]

end Planner

/-! ## 2. Questions and setbacks -/

/-- The fault with which the making of a plan ends after an answer, if it does not go on. -/
def Cluster.setback? (c : Cluster) : (q : Request) → Except Fault q.Answer → Option Fault
  | _, .error cause => some cause
  | .providerExists, .ok (isThere : Bool) => if isThere then none else some Cluster.withoutProvider
  | .describeStacks _ .cluster, .ok (listing : List Stack) =>
    if listing.any Stack.isLive then none else some (.notFound "stack" (clusterStackName c.name))
  | _, .ok _ => none

/-- An activity makes some records, and then it fails. -/
inductive Fails {α : Type} (cause : Fault) : Action α → Prop
  | fail : Fails cause (.fail cause)
  | note (record : Record) {next : Action α} : Fails cause next → Fails cause (.note record next)

/-- An activity asks these questions one after the other, up to the first setback, and comes to a
value if there is none. -/
inductive Inquires {α : Type} (c : Cluster) : List Request → Action α → Prop
  | pure (value : α) : Inquires c [] (.pure value)
  | note (record : Record) {questions : List Request} {next : Action α} :
      Inquires c questions next → Inquires c questions (.note record next)
  | ask (q : Request) {questions : List Request} {next : Except Fault q.Answer → Action α} :
      (∀ answer cause, c.setback? q answer = some cause → Fails cause (next answer)) →
      (∀ answer, c.setback? q answer = none → Inquires c questions (next answer)) →
      Inquires c (q :: questions) (.ask q next)

section Inquires

variable {α β : Type} {c : Cluster} {cause : Fault} {questions later : List Request} {a : Action α}
  {k : α → Action β}

theorem Fails.bind (h : Fails cause a) : Fails cause (a >>= k) := by
  induction h with
  | fail => exact .fail
  | note record _ ih => exact .note record ih

/-- **A sequence** asks the questions of its first part, and then those of its second. -/
theorem Inquires.bind (h : Inquires c questions a) (hk : ∀ value, Inquires c later (k value)) :
    Inquires c (questions ++ later) (a >>= k) := by
  induction h with
  | pure value => exact hk value
  | note record _ ih => exact .note record ih
  | ask q hfails _ ih =>
    exact .ask q (fun answer cause hsetback => (hfails answer cause hsetback).bind) ih

theorem inquires_sayAll (records : List Record) :
    Inquires c [] (Activity.sayAll records : Action Unit) := by
  induction records with
  | nil => exact .pure ()
  | cons record records ih => exact .note record ih

/-- A listing of stacks is one question; what is listed matters only for the control plane. -/
theorem Cluster.inquires_liveStacks {kind : StackKind} (hkind : kind ≠ .cluster) :
    Inquires c [.describeStacks c.name kind] (c.liveStacks kind) := by
  refine .ask _ (fun answer cause hsetback => ?_) fun answer hsetback => ?_
  · cases answer with
    | error fault =>
      obtain rfl := Option.some.inj hsetback
      exact .fail
    | ok listing => cases kind <;> simp_all [setback?]
  · cases answer with
    | error fault => exact absurd hsetback (by simp [setback?])
    | ok listing => exact .note _ (.pure _)

/-- The question for the control plane comes out well if a live stack is listed. -/
theorem Cluster.inquires_controlPlane :
    Inquires c [.describeStacks c.name .cluster] c.controlPlane := by
  -- What follows the listing depends on whether a stack is left of it.
  have hfirst (listing : List Stack) :
      (listing.any Stack.isLive = false ∧ listing.filter Stack.isLive = []) ∨
        listing.any Stack.isLive = true ∧
          ∃ stack rest, listing.filter Stack.isLive = stack :: rest := by
    cases hlive : listing.filter Stack.isLive with
    | nil => exact .inl ⟨List.any_eq_false.2 (List.filter_eq_nil_iff.1 hlive), rfl⟩
    | cons stack rest =>
      have hmem := List.mem_filter.1 (hlive ▸ List.mem_cons_self (a := stack) (l := rest))
      exact .inr ⟨List.any_eq_true.2 ⟨stack, hmem⟩, stack, rest, rfl⟩
  obtain ⟨next, hnext, hstack, hgone⟩ : ∃ next, c.controlPlane = c.liveStacks .cluster >>= next ∧
      (∀ stack rest, next (stack :: rest) = pure stack) ∧
      next [] = Activity.fail (.notFound "stack" (clusterStackName c.name)) :=
    ⟨_, rfl, fun _ _ => rfl, rfl⟩
  rw [hnext]
  refine .ask _ (fun answer cause hsetback => ?_) fun answer hsetback => ?_
  · cases answer with
    | error fault =>
      obtain rfl := Option.some.inj hsetback
      exact .fail
    | ok listing =>
      change Fails cause (.note _ (next (listing.filter Stack.isLive)))
      rcases hfirst listing with ⟨hany, hnone⟩ | ⟨hany, -⟩
      · rw [hnone, hgone]
        obtain rfl : Fault.notFound "stack" (clusterStackName c.name) = cause := by
          simpa [setback?, hany] using hsetback
        exact .note _ .fail
      · exact absurd hsetback (by simp [setback?, hany])
  · cases answer with
    | error fault => exact absurd hsetback (by simp [setback?])
    | ok listing =>
      change Inquires c [] (.note _ (next (listing.filter Stack.isLive)))
      rcases hfirst listing with ⟨hany, -⟩ | ⟨-, stack, rest, hsome⟩
      · exact absurd hsetback (by simp [setback?, hany])
      · rw [hsome, hstack]
        exact .note _ (.pure stack)

/-- **What each builder asks**: its own part of the questions, in their order. -/
theorem Planner.inquires_build (p : Planner) (c : Cluster) :
    Inquires c (p.questions c) (p.build c) := by
  have hgroups (only : Option NameSet) (wait cleanUp : Bool) :
      Inquires c [.describeStacks c.name .nodeGroup] (c.deleteNodeGroups only wait cleanUp) :=
    (Cluster.inquires_liveStacks (by simp)).bind fun groups =>
      (inquires_sayAll _).bind fun _ => .pure _
  have haccounts (only : Option NameSet) (wait : Bool) :
      Inquires c [.describeStacks c.name .serviceAccount] (c.deleteServiceAccounts only wait) :=
    (Cluster.inquires_liveStacks (by simp)).bind fun roles =>
      (inquires_sayAll _).bind fun _ => .pure _
  have hprovider : Inquires c [.providerExists, .describeStacks c.name .serviceAccount]
      c.deleteProvider := by
    refine .ask _ (fun answer cause hsetback => ?_) fun answer hsetback => ?_
    · rcases answer with fault | isThere
      · obtain rfl := Option.some.inj hsetback
        exact .fail
      · cases isThere with
        | false =>
          obtain rfl := Option.some.inj hsetback
          exact .fail
        | true => exact absurd hsetback (by simp [Cluster.setback?])
    · rcases answer with fault | isThere
      · exact absurd hsetback (by simp [Cluster.setback?])
      · cases isThere with
        | false => exact absurd hsetback (by simp [Cluster.setback?])
        | true => exact (haccounts none true).bind fun accounts => .pure _
  cases p with
  | nodeGroups only wait cleanUp => exact hgroups only wait cleanUp
  | accounts only wait => exact haccounts only wait
  | provider => exact hprovider
  | whole wait cleanUp =>
    exact (hgroups none true cleanUp).bind fun groups => hprovider.bind fun identity =>
      Cluster.inquires_controlPlane.bind fun stack => .pure _

end Inquires

/-! ## 3. How far the questions have come -/

/-- How far the questions have come, by what was asked and replied, and where that leaves the one
who asks: the next question is open, or one of them met with a setback, or the other side broke
off, or all of them came out well. -/
inductive Inquiry {α : Type} (c : Cluster) : List Request →
    List (Occurrence Request Request.Answer) → Thread Request Request.Answer α → Prop
  | «open» (q : Request) (later : List Request) (next : Except Fault q.Answer → Action α) :
      Inquiry c (q :: later) [.asked q] (.asking q next)
  | setback (q : Request) (later : List Request) (answer : Except Fault q.Answer) (cause : Fault) :
      c.setback? q answer = some cause →
        Inquiry c (q :: later) [.asked q, .replied q (.ofExcept answer)] (.done (.fault cause))
  | broken (q : Request) (later : List Request) (text : Option String) :
      Inquiry c (q :: later) [.asked q, .replied q (.panic text)] (.done (.panic text))
  | well (q : Request) (answer : Except Fault q.Answer) {later : List Request}
      {talk : List (Occurrence Request Request.Answer)}
      {thread : Thread Request Request.Answer α} :
      c.setback? q answer = none → Inquiry c later talk thread →
        Inquiry c (q :: later) (.asked q :: .replied q (.ofExcept answer) :: talk) thread
  | «over» (value : α) : Inquiry c [] [] (.done (.ok value))

section Inquiry

variable {α : Type} {c : Cluster} {cause : Fault} {questions : List Request} {a : Action α}
  {talk : List (Occurrence Request Request.Answer)} {thread : Thread Request Request.Answer α}

theorem Fails.trace (h : Fails cause a) (htrace : a.Trace talk thread) :
    talk = [] ∧ thread = .done (.fault cause) := by
  induction h generalizing talk thread with
  | fail =>
    cases htrace
    exact ⟨rfl, rfl⟩
  | note record _ ih =>
    cases htrace with
    | note hnext => exact ih hnext

/-- **An activity that keeps to its questions** has come as far with them as its trace shows. -/
theorem Inquires.inquiry (h : Inquires c questions a) (htrace : a.Trace talk thread) :
    Inquiry c questions talk thread := by
  induction h generalizing talk thread with
  | pure value =>
    cases htrace
    exact .over value
  | note record _ ih =>
    cases htrace with
    | note hnext => exact ih hnext
  | @ask q later next hfails _ ih =>
    -- After an answer there is the failure at once, or what is left of the questions.
    have hanswer : ∀ (answer : Except Fault q.Answer)
        {rest : List (Occurrence Request Request.Answer)}
        {thread' : Thread Request Request.Answer α}, (next answer).Trace rest thread' →
        Inquiry c (q :: later) (.asked q :: .replied q (.ofExcept answer) :: rest) thread' := by
      intro answer rest thread' hrest
      cases hsetback : c.setback? q answer with
      | none => exact .well q answer hsetback (ih answer hsetback hrest)
      | some cause =>
        obtain ⟨rfl, rfl⟩ := (hfails answer cause hsetback).trace hrest
        exact .setback q later answer cause hsetback
    cases htrace with
    | asking => exact .open q later next
    | granted value hnext => exact hanswer (.ok value) hnext
    | refused cause hnext => exact hanswer (.error cause) hnext
    | broken text => exact .broken q later text

/-- What is asked or replied is about one of the questions. -/
theorem Inquiry.about_question (h : Inquiry c questions talk thread) :
    ∀ o ∈ talk, ∃ q ∈ questions, o = .asked q ∨ ∃ reply, o = .replied q reply := by
  -- A question and its reply are about the same; what comes later is about a later question.
  have hround : ∀ (q : Request) (reply : Outcome q.Answer) (later : List Request)
      (rest : List (Occurrence Request Request.Answer)),
      (∀ o ∈ rest, ∃ q ∈ later, o = .asked q ∨ ∃ reply, o = .replied q reply) →
      ∀ o ∈ .asked q :: .replied q reply :: rest,
        ∃ q' ∈ q :: later, o = .asked q' ∨ ∃ reply, o = .replied q' reply := by
    intro q reply later rest hrest o ho
    rcases List.mem_cons.1 ho with rfl | ho
    · exact ⟨q, List.mem_cons_self, .inl rfl⟩
    · rcases List.mem_cons.1 ho with rfl | ho
      · exact ⟨q, List.mem_cons_self, .inr ⟨reply, rfl⟩⟩
      · obtain ⟨q', hq', habout⟩ := hrest o ho
        exact ⟨q', List.mem_cons_of_mem _ hq', habout⟩
  induction h with
  | «open» q later next =>
    intro o ho
    exact ⟨q, List.mem_cons_self, .inl (List.mem_singleton.1 ho)⟩
  | setback q later answer cause hsetback =>
    exact hround q _ later [] fun o ho => absurd ho List.not_mem_nil
  | broken q later text => exact hround q _ later [] fun o ho => absurd ho List.not_mem_nil
  | well q answer _ _ ih => exact hround q _ _ _ ih
  | «over» => exact fun o ho => absurd ho List.not_mem_nil

/-- Whoever is not done with the questions can go on with every reply. -/
theorem Inquiry.goes_on (h : Inquiry c questions talk thread) (hopen : thread.outcome? = none)
    (conditions : Conditions) (answer : (q : Request) → Outcome q.Answer) :
    (thread.resume conditions (.reply answer)).isSome = true := by
  induction h with
  | «open» => rfl
  | well q answer _ _ ih => exact ih hopen
  | setback | broken | «over» => exact absurd hopen (by simp [Thread.outcome?])

end Inquiry

/-! ## 4. The remote side while a plan is made -/

/-- The request leaves the remote side as it is, when it arrives and when it is answered. -/
def Rehearsal.Remote.OnlyLooks {R W : Type} {A : R → Type} (remote : Remote R A W) (q : R) : Prop :=
  ∀ world, (remote.arrive world q).world = world ∧ (remote.respond world q).world = world

/-- The remote side after what was asked of it and replied by it. -/
def Rehearsal.Remote.worldAfter {R W : Type} {A : R → Type} (remote : Remote R A W) (world : W) :
    List (Occurrence R A) → W
  | [] => world
  | .asked q :: more => remote.worldAfter (remote.arrive world q).world more
  | .replied q _ :: more => remote.worldAfter (remote.respond world q).world more
  | _ :: more => remote.worldAfter world more

/-- Where only such requests occur, the remote side stays as it is. -/
theorem Rehearsal.Remote.worldAfter_eq {R W : Type} {A : R → Type} {remote : Remote R A W}
    {world : W} {talk : List (Occurrence R A)}
    (h : ∀ o ∈ talk, ∃ q, remote.OnlyLooks q ∧ (o = .asked q ∨ ∃ reply, o = .replied q reply)) :
    remote.worldAfter world talk = world := by
  induction talk with
  | nil => rfl
  | cons o more ih =>
    have hmore := ih fun o ho => h o (List.mem_cons_of_mem _ ho)
    obtain ⟨q, hlooks, rfl | ⟨reply, rfl⟩⟩ := h o List.mem_cons_self
    · rw [worldAfter, (hlooks world).1]
      exact hmore
    · rw [worldAfter, (hlooks world).2]
      exact hmore

/-- A scripted remote side is not changed by a listing, nor by the question for the provider. -/
theorem Rehearsal.World.onlyLooks (cluster : String) (kind : StackKind) :
    World.remote.OnlyLooks (.describeStacks cluster kind) ∧
      World.remote.OnlyLooks .providerExists := by
  refine ⟨fun world => ⟨rfl, ?_⟩, fun world => ⟨rfl, rfl⟩⟩
  change (World.respond world (.describeStacks cluster kind)).world = world
  simp only [World.respond, Response.refuseOr]
  split <;> rfl

/-- All questions of a planner are listings of the cluster's stacks, or about the provider. -/
theorem Planner.mem_questions {p : Planner} {c : Cluster} {q : Request} (h : q ∈ p.questions c) :
    q = .providerExists ∨ ∃ kind, q = .describeStacks c.name kind := by
  cases p <;> simp only [questions, List.mem_cons, List.not_mem_nil, or_false] at h
  case nodeGroups => exact .inr ⟨_, h⟩
  case accounts => exact .inr ⟨_, h⟩
  case provider =>
    rcases h with h | h
    · exact .inl h
    · exact .inr ⟨_, h⟩
  case whole =>
    rcases h with h | h | h | h
    · exact .inr ⟨_, h⟩
    · exact .inl h
    · exact .inr ⟨_, h⟩
    · exact .inr ⟨_, h⟩

/-! ## 5. The making of a plan -/

/-- **To make a plan is to ask**, after any moves and whatever the answers are: the questions of
the planner have come so far, in their order and up to the first setback, and nothing else is
asked.  A remote side that is not changed by these questions is as it was before.  As long as the
matter is open, every reply takes it further. -/
theorem plan_inquiry (p : Planner) (c : Cluster) {conditions : Conditions}
    {moves : List (Move Request Request.Answer)} {entries : List (Entry Request Request.Answer)}
    {s : Situation (Thread Request Request.Answer (Plan Task))}
    (hrun : ((p.build c).about conditions).2.follow
      (Thread.process Request Request.Answer (Plan Task)) moves = some (entries, s)) :
    let talk := deeds ((((p.build c).about conditions).1 ++ entries).map fun e => e.event.occurrence)
    Inquiry c (p.questions c) talk s.state ∧
      (∀ o ∈ talk, ∃ q, (q = .providerExists ∨ ∃ kind, q = .describeStacks c.name kind) ∧
        (o = .asked q ∨ ∃ reply, o = .replied q reply)) ∧
      (∀ {W : Type} (remote : Rehearsal.Remote Request Request.Answer W) (world : W),
        remote.OnlyLooks .providerExists →
        (∀ kind, remote.OnlyLooks (.describeStacks c.name kind)) →
        remote.worldAfter world talk = world) ∧
      (s.state.outcome? = none → s.dropped = false →
        ∀ (answer : (q : Request) → Outcome q.Answer) (factor : Binary64),
          (s.after? (Thread.process Request Request.Answer (Plan Task))
            (.resume [] (.reply answer) factor)).isSome = true) := by
  intro talk
  have hinquiry : Inquiry c (p.questions c) talk s.state :=
    (p.inquires_build c).inquiry (Activity.trace_follow hrun)
  have hasked : ∀ o ∈ talk, ∃ q, (q = .providerExists ∨ ∃ kind, q = .describeStacks c.name kind) ∧
      (o = .asked q ∨ ∃ reply, o = .replied q reply) := by
    intro o ho
    obtain ⟨q, hq, habout⟩ := hinquiry.about_question o ho
    exact ⟨q, Planner.mem_questions hq, habout⟩
  refine ⟨hinquiry, hasked, fun remote world hprovider hlisting => ?_, fun hopen hdropped => ?_⟩
  · refine Rehearsal.Remote.worldAfter_eq fun o ho => ?_
    obtain ⟨q, rfl | ⟨kind, rfl⟩, habout⟩ := hasked o ho
    · exact ⟨_, hprovider, habout⟩
    · exact ⟨_, hlisting kind, habout⟩
  · intro answer factor
    have hresume := hinquiry.goes_on hopen ⟨s.now, s.cancelled, factor⟩ answer
    simpa [Situation.after?, hdropped, Thread.process] using hresume

namespace Sample

/-- The fault of a listing that is refused. -/
def overloaded : Fault := .stackApi "strata-demo" "rate exceeded"

/-- A remote side that lists everything but the service accounts. -/
def withoutAccounts : (request : Request) → Outcome request.Answer
  | .describeStacks _ .serviceAccount => .fault overloaded
  | request => .ofExcept (answer request)

def inquiry : Option (List (Entry Request Request.Answer) ×
    Situation (Thread Request Request.Answer (Plan Task))) :=
  (((Planner.whole true false).build cluster).about ⟨⟨0⟩, false, 1⟩).2.follow
    (Thread.process Request Request.Answer (Plan Task))
    (List.replicate 3 (.resume [] (.reply withoutAccounts) 1))

end Sample

/-- The listing of the service accounts is refused: the control plane is not asked for any more. -/
theorem plan_inquiry_of_overload : ∃ talk,
    talk.filter Occurrence.isAsked =
        [.asked (.describeStacks "demo" .nodeGroup), .asked .providerExists,
          .asked (.describeStacks "demo" .serviceAccount)] ∧
      Inquiry Sample.cluster ((Planner.whole true false).questions Sample.cluster) talk
        (.done (.fault Sample.overloaded) : Thread Request Request.Answer (Plan Task)) ∧
      Rehearsal.World.remote.worldAfter .empty talk = .empty := by
  have hreached : Sample.inquiry.isSome = true := rfl
  have hrun : (((Planner.whole true false).build Sample.cluster).about ⟨⟨0⟩, false, 1⟩).2.follow
      (Thread.process Request Request.Answer (Plan Task))
      (List.replicate 3 (.resume [] (.reply Sample.withoutAccounts) 1)) =
      some (Sample.inquiry.get hreached) := (Option.some_get hreached).symm
  obtain ⟨hinquiry, -, hworld, -⟩ := plan_inquiry (.whole true false) Sample.cluster hrun
  exact ⟨_, rfl, hinquiry, hworld Rehearsal.World.remote .empty
    (Rehearsal.World.onlyLooks "demo" .cluster).2
    fun kind => (Rehearsal.World.onlyLooks "demo" kind).1⟩

end Teardown
