/-
# Accounts without a proper name

The name of an account is the tag of its role stack, or else the name of that stack, and it is
read only when the account is to be deleted.  Making a plan does not look at it: the plan is made
whatever the names are.  So a plan may hold the task of an account that cannot be deleted, and
then the stack of the role is gone before the fault is found.

`unnamed_refused_late` says when this can happen: exactly if a role stack that is live and
selected has no proper name for its account.  Without such a stack no execution finds the fault;
with it, some execution deletes the role and fails then.  That execution only needs the turns of
the one pair, which are turns of the whole plan (`Turns.parallel`, `Turns.follow`).

* §1  proper names, of texts and of the accounts of a plan.
* §2  turns of one part of a parallel group are turns of the group, and turns of a run are moves
      of its execution.
* §3  the execution that comes to the fault: the pair is carried out alone, up to the connection,
      and everything is granted on the way.
* §4  when it happens, and when it does not.

A role stack that was made with its tag has a proper name for its account; so it is the stacks
without the tag that are concerned, and their names are none of accounts.
-/
import Teardown.Proofs.Pairs

namespace Teardown

open Run

/-! ## 1. Proper names -/

/-- All accounts that a plan deletes have proper names. -/
def Plan.ProperlyNamed (plan : Plan Task) : Prop :=
  ∀ task ∈ plan.tasks, ∀ name, task.work = .deleteAccount name →
    ∃ account, Account.parse name = .ok account

theorem Account.parse_eq_ok_iff {name : String} {account : Account} :
    parse name = .ok account ↔ name = account.text ∧ account.IsWhole := by
  rw [← parse?_eq_some_iff, parse]
  cases parse? name <;> simp

theorem Account.parse_eq_error {name : String} (h : ¬ ∃ account, parse name = .ok account) :
    parse name = .error (malformed name) := by
  cases hparse : parse? name with
  | none => rw [parse, hparse]
  | some account => exact absurd ⟨account, by rw [parse, hparse]⟩ h

/-- The accounts of a plan of pairs are those of the role stacks. -/
theorem Cluster.properlyNamed_pairsPlan_iff (c : Cluster) (wait : Bool) (roles : List Stack) :
    (c.pairsPlan wait roles).ProperlyNamed ↔
      ∀ stack ∈ roles, ∃ account, Account.parse stack.accountName = .ok account := by
  constructor
  · intro h stack hstack
    obtain ⟨i, hi⟩ := List.getElem?_of_mem hstack
    have hleaf := (c.at?_pairsPlan_iff wait).2 ⟨i, stack, hi, .inr ⟨rfl, rfl⟩⟩
    exact h _ (Plan.mem_tasks_of_at? hleaf) _ rfl
  · intro h task htask name hname
    obtain ⟨place, hleaf⟩ := Plan.exists_at?_of_mem_tasks _ htask
    obtain ⟨i, stack, hstack, ⟨-, rfl⟩ | ⟨-, rfl⟩⟩ := (c.at?_pairsPlan_iff wait).1 hleaf
    · exact absurd hname (by simp [roleTask, deletionTask])
    · obtain rfl := Work.deleteAccount.inj hname
      exact h stack (List.mem_of_getElem? hstack)

/-- At a pair the deletion of the role stack was accepted; then there was a connection to the cluster,
but the account was not asked for, since it has no proper name. -/
def RefusedLate (events : List RunEvent) (i : Nat) (stack : Stack) : Prop :=
  (∃ receipt, ⟨[i, 0], .replied (.deleteStack stack) (.ok receipt)⟩ ∈ events) ∧
    ⟨[i, 1], .replied .connect (.ok ())⟩ ∈ events ∧
    (∀ account, ⟨[i, 1], .asked (.deleteAccount account)⟩ ∉ events) ∧
    ⟨[i, 1], .ended (.fault (Account.malformed stack.accountName))⟩ ∈ events

/-! ## 2. Turns of one part -/

/-- Some turns under the same conditions take a run to another one. -/
inductive Turns (c : Conditions) : Run → List RunEvent → Run → Prop
  | none {run : Run} : Turns c run [] run
  | turn {run run' : Run} {place : Place} {cue : Cue Request Request.Answer} {turn : Turn}
      {events : List RunEvent} : resumeAt c cue place run = some turn → Turns c turn.run events run' →
      Turns c run (turn.happened ++ events) run'

section Turns

variable {c : Conditions} {run run' part part' : Run} {events : List RunEvent}

theorem Turns.trans (h : Turns c run events run') {run'' : Run} {more : List RunEvent}
    (hmore : Turns c run' more run'') : Turns c run (events ++ more) run'' := by
  induction h with
  | none => exact hmore
  | turn hturn _ ih =>
    rw [List.append_assoc]
    exact .turn hturn (ih hmore)

/-- The turns of a part are turns of the parallel group. -/
theorem Turns.parallel (h : Turns c part events part') {parts : List Run} {i : Nat}
    (hpart : parts[i]? = some part) :
    Turns c (.parallel parts) (events.map (Event.inside i)) (.parallel (parts.set i part')) := by
  induction h generalizing parts with
  | @none part =>
    obtain ⟨hi, rfl⟩ := List.getElem?_eq_some_iff.1 hpart
    rw [List.set_getElem_self]
    exact .none
  | @turn part part' place cue turn events hturn _ ih =>
    have hstep : resumeAt c cue (i :: place) (.parallel parts) =
        some ⟨turn.happened.map (Event.inside i), .parallel (parts.set i turn.run)⟩ := by
      simp [resumeAt, hpart, hturn]
    have hi := (List.getElem?_eq_some_iff.1 hpart).1
    have hnext : (parts.set i turn.run)[i]? = some turn.run := List.getElem?_set_self hi
    have hrest := ih hnext
    rw [List.set_set] at hrest
    rw [List.map_append]
    exact .turn hstep hrest

/-- Turns of the run are moves of its execution. -/
theorem Turns.follow (h : Turns c run events run') {s : Situation Execution}
    (hrun : s.state.run = run) (hnow : c.now = s.now) (hcancelled : c.cancelled = s.cancelled)
    (hdropped : s.dropped = false) :
    ∃ (moves : List (Move Request Request.Answer)) (entries : List (Entry Request Request.Answer))
        (s' : Situation Execution),
      s.follow Execution.process moves = some (entries, s') ∧
        ∀ e ∈ events, e ∈ happened entries := by
  induction h generalizing s with
  | none => exact ⟨[], [], s, rfl, fun e he => absurd he List.not_mem_nil⟩
  | @turn run run' place cue turn events hturn _ ih =>
    have hresume : s.state.resume ⟨s.now, s.cancelled, c.factor⟩ place cue =
        some (Execution.ofTurn c s.state.tasks s.state.started turn) := by
      rw [Execution.resume, hrun, ← hnow, ← hcancelled]
      exact congrArg _ hturn
    have hafter : s.after? Execution.process (.resume place cue c.factor) =
        some ((Execution.ofTurn c s.state.tasks s.state.started turn).1.map (Entry.mk s.now),
          { s with state := (Execution.ofTurn c s.state.tasks s.state.started turn).2 }) := by
      rw [Situation.after?, if_neg (by simp [hdropped])]
      exact congrArg _ hresume
    have hnext : (Execution.ofTurn c s.state.tasks s.state.started turn).2.run = turn.run := rfl
    obtain ⟨moves, more, s', hfollow, hseen⟩ :=
      ih (s := { s with state := _ }) hnext hnow hcancelled hdropped
    refine ⟨.resume place cue c.factor :: moves, _ ++ more, s',
      Situation.follow_cons.2 ⟨_, _, more, hafter, hfollow, rfl⟩, fun e he => ?_⟩
    rw [happened_append, happened_at]
    rcases List.mem_append.1 he with he | he
    · exact List.mem_append_left _ (List.mem_append_left _ he)
    · exact List.mem_append_right _ (hseen e he)

end Turns

/-! ## 3. A late refusal -/

def calm : Conditions := ⟨⟨0⟩, false, 1⟩

/-- Everything that is asked for is granted, and stacks that are deleted are gone. -/
def granted : (request : Request) → Outcome request.Answer
  | .describeStacks .. => .ok []
  | .describeStack _ => .ok none
  | .deleteStack stack => .ok ⟨stack.name, "accepted"⟩
  | .providerExists => .ok true
  | .deleteProvider | .connect | .deleteAccount _ | .cleanUp _ | .perform .. => .ok ()

/-- A pair whose role is gone, with the task of the account waiting for its connection. -/
def awaitingConnection (stack : Stack) : Run :=
  .sequence 1 (.working (Cluster.accountTask stack)
    (.asking .connect (Task.afterConnect stack.accountName))) []

section Late

variable {c : Cluster} {wait : Bool} {roles : List Stack} {stack : Stack} {cause : Fault}

/-- With the connection, the task of an account without a proper name ends. -/
theorem resume_unnamed (h : Account.parse stack.accountName = .error cause) :
    resumeAt calm (.reply granted) [1] (awaitingConnection stack) =
      some ⟨[⟨[1], .replied .connect (.ok ())⟩,
        ⟨[1], .noted ((Cluster.accountTask stack).failed cause)⟩, ⟨[1], .ended (.fault cause)⟩,
        ⟨[], .ended (.fault cause)⟩], .closed (.fault cause)⟩ := by
  have hthread : (Thread.asking .connect (Task.afterConnect stack.accountName)).resume calm
      (.reply granted) = some ([.replied .connect (.ok ())], .done (.fault cause)) := by
    have hproceed : @Thread.afterReply Request Request.Answer Unit calm .connect
        (Task.afterConnect stack.accountName) (granted .connect) = ([], .done (.fault cause)) := by
      change (Task.afterConnect stack.accountName (.ok ())).proceed calm = _
      rw [Task.afterConnect_of_error h]
      rfl
    simp only [Thread.resume, hproceed]
    rfl
  rw [awaitingConnection, resumeAt, if_pos rfl, resumeAt, hthread]
  rfl

/-- A pair on its own can go on until the task of the account waits for its connection. -/
theorem turns_to_connect (c : Cluster) (wait : Bool) (stack : Stack) :
    ∃ (events : List RunEvent) (receipt : Receipt),
      Turns calm (.waiting (c.accountPart wait stack)) events (awaitingConnection stack) ∧
      ⟨[0], .replied (.deleteStack stack) (.ok receipt)⟩ ∈ events := by
  have hlast {turn : Turn} (hrun : turn.run = awaitingConnection stack) :
      Turns calm turn.run [] (awaitingConnection stack) := by
    rw [hrun]
    exact .none
  cases wait with
  | false =>
    have hturns : ∃ first, resumeAt calm .start [] (.waiting (c.accountPart false stack)) =
        some first ∧ ∃ second, resumeAt calm (.reply granted) [0] first.run = some second ∧
          ⟨[0], .replied (.deleteStack stack) (.ok ⟨stack.name, "accepted"⟩)⟩ ∈ second.happened ∧
          second.run = awaitingConnection stack :=
      ⟨_, rfl, _, rfl, List.mem_cons_self, rfl⟩
    obtain ⟨first, hfirst, second, hsecond, hseen, hrun⟩ := hturns
    refine ⟨_, ⟨stack.name, "accepted"⟩, .turn hfirst (.turn hsecond (hlast hrun)), ?_⟩
    exact List.mem_append_right _ (List.mem_append_left _ hseen)
  | true =>
    -- Here the stack is looked for once more, and it is gone.
    have hturns : ∃ first, resumeAt calm .start [] (.waiting (c.accountPart true stack)) =
        some first ∧ ∃ second, resumeAt calm (.reply granted) [0] first.run = some second ∧
          ⟨[0], .replied (.deleteStack stack) (.ok ⟨stack.name, "accepted"⟩)⟩ ∈ second.happened ∧
          ∃ third, resumeAt calm (.reply granted) [0] second.run = some third ∧
            third.run = awaitingConnection stack :=
      ⟨_, rfl, _, rfl, List.mem_cons_self, _, rfl, rfl⟩
    obtain ⟨first, hfirst, second, hsecond, hseen, third, hthird, hrun⟩ := hturns
    refine ⟨_, ⟨stack.name, "accepted"⟩, .turn hfirst (.turn hsecond (.turn hthird (hlast hrun))), ?_⟩
    exact List.mem_append_right _ (List.mem_append_left _ hseen)

/-- **A pair on its own** whose account has no proper name can go on until the fault is found. -/
theorem turns_unnamed (c : Cluster) (wait : Bool)
    (h : Account.parse stack.accountName = .error cause) :
    ∃ (events : List RunEvent) (run : Run) (receipt : Receipt),
      Turns calm (.waiting (c.accountPart wait stack)) events run ∧
      ⟨[0], .replied (.deleteStack stack) (.ok receipt)⟩ ∈ events ∧
      ⟨[1], .replied .connect (.ok ())⟩ ∈ events ∧ ⟨[1], .ended (.fault cause)⟩ ∈ events := by
  obtain ⟨events, receipt, hturns, hdeleted⟩ := turns_to_connect c wait stack
  have hlast := hturns.trans (.turn (resume_unnamed h) .none)
  exact ⟨_, _, receipt, hlast, List.mem_append_left _ hdeleted,
    List.mem_append_right _ (by simp), List.mem_append_right _ (by simp)⟩

/-- **Without a proper name, the fault is found too late** in some execution of the plan. -/
theorem refusedLate_of_unnamed (c : Cluster) (wait : Bool) {i : Nat}
    (hstack : roles[i]? = some stack)
    (h : ¬ ∃ account, Account.parse stack.accountName = .ok account) :
    ∃ (moves : List (Move Request Request.Answer)) (entries : List (Entry Request Request.Answer))
        (s : Situation Execution),
      (Execution.about (c.pairsPlan wait roles) calm).2.follow Execution.process moves =
        some (entries, s) ∧
      RefusedLate (happened ((Execution.about (c.pairsPlan wait roles) calm).1 ++ entries)) i
        stack := by
  have hempty : (c.pairsPlan wait roles).isEmpty = false := Cluster.pairsPlan_isEmpty hstack
  obtain ⟨events, run, receipt, hturns, hdeleted, hconnected, hended⟩ :=
    turns_unnamed c wait (Account.parse_eq_error h)
  have hpart : ((roles.map (c.accountPart wait)).map Run.waiting)[i]? =
      some (.waiting (c.accountPart wait stack)) := by
    simp [hstack]
  have hstart : (Execution.about (c.pairsPlan wait roles) calm).2.state.run =
      .parallel ((roles.map (c.accountPart wait)).map .waiting) := by
    have hparts : (roles.map (c.accountPart wait)).isEmpty = false := by
      cases roles with
      | nil => exact absurd hstack (by simp)
      | cons stack roles => rfl
    rw [Execution.about, Execution.start, if_neg (by simp [hempty])]
    change (launchParts (roles.map (c.accountPart wait))).run = _
    rw [launchParts, if_neg (by simp [hparts])]
  obtain ⟨moves, entries, s, hrun, hseen⟩ :=
    (hturns.parallel hpart).follow hstart rfl rfl rfl
  have hmem {e : RunEvent} (he : e ∈ events) : e.inside i ∈
      happened ((Execution.about (c.pairsPlan wait roles) calm).1 ++ entries) := by
    rw [happened_append]
    exact List.mem_append_right _ (hseen _ (List.mem_map_of_mem he))
  refine ⟨moves, entries, s, hrun, ⟨receipt, hmem hdeleted⟩, hmem hconnected, ?_, hmem hended⟩
  intro account hasked
  have htraced := traced_execution hempty hrun
  exact h ⟨account, (htraced.asked_account_iff hstack (mem_work.2 ⟨hmem hconnected, rfl⟩)).1
    (mem_work.2 ⟨hasked, rfl⟩)⟩

end Late

/-! ## 4. When it happens -/

/-- **Accounts are refused late** exactly if a role stack that is live and selected has no proper name
for its account.  The plan is made in any case; it is properly named exactly if all those stacks are,
and exactly if no execution finds a role gone and its account without a proper name. -/
theorem unnamed_refused_late {c : Cluster} {answer : (q : Request) → Except Fault q.Answer}
    {listing : List Stack}
    (hlisting : answer (.describeStacks c.name .serviceAccount) = .ok listing)
    (only : Option NameSet) (wait : Bool) :
    ∃ plan, ((c.deleteServiceAccounts only wait).answered answer).2 = some (.ok plan) ∧
      (plan.ProperlyNamed ↔ ∀ stack ∈ listing, stack.isLive = true →
        isSelected only stack.accountName = true →
        ∃ account : Account, stack.accountName = account.text ∧ account.IsWhole) ∧
      (plan.ProperlyNamed ↔ ∀ (start : Conditions) (moves : List (Move Request Request.Answer))
        (entries : List (Entry Request Request.Answer)) (s : Situation Execution),
        (Execution.about plan start).2.follow Execution.process moves = some (entries, s) →
        ∀ i stack, plan.at? [i, 0] = some (.leaf (c.roleTask wait stack)) →
          ¬ RefusedLate (happened ((Execution.about plan start).1 ++ entries)) i stack) := by
  have hroles : c.serviceAccounts.Yields answer (listing.filter Stack.isLive) :=
    Cluster.liveStacks_yields.2 ⟨listing, hlisting, rfl⟩
  have hplan : (c.deleteServiceAccounts only wait).Yields answer _ :=
    Cluster.deleteServiceAccounts_yields.2 ⟨_, hroles, rfl⟩
  have hnamed := c.properlyNamed_pairsPlan_iff wait
    (Cluster.selectedRoles only (listing.filter Stack.isLive))
  refine ⟨_, hplan, hnamed.trans ?_, ?_⟩
  · simp only [Cluster.selectedRoles, List.mem_filter, Account.parse_eq_ok_iff, and_imp]
  · constructor
    · rintro h start moves entries s hrun i stack hleaf ⟨-, hconnected, hasked, -⟩
      have hstack := (c.at?_role_iff wait).1 hleaf
      obtain ⟨account, hparse⟩ := hnamed.1 h stack (List.mem_of_getElem? hstack)
      have htraced := traced_execution (Cluster.pairsPlan_isEmpty hstack) hrun
      have hnow := (htraced.asked_account_iff hstack (mem_work.2 ⟨hconnected, rfl⟩)).2 hparse
      exact hasked account (mem_work.1 hnow).1
    · intro h
      refine hnamed.2 fun stack hstack => Classical.byContradiction fun hunnamed => ?_
      obtain ⟨i, hi⟩ := List.getElem?_of_mem hstack
      obtain ⟨moves, entries, s, hrun, hlate⟩ :=
        refusedLate_of_unnamed c wait hi hunnamed
      exact h calm moves entries s hrun i stack ((c.at?_role_iff wait).2 hi) hlate

/-- With the tag in place no execution finds the account without a proper name. -/
theorem tagged_never_refused_late :
    ∃ plan, ((Sample.cluster.deleteServiceAccounts none true).answered
        (Sample.roleAnswer [Sample.tagged])).2 = some (.ok plan) ∧
      ∀ (start : Conditions) (moves : List (Move Request Request.Answer))
        (entries : List (Entry Request Request.Answer)) (s : Situation Execution),
        (Execution.about plan start).2.follow Execution.process moves = some (entries, s) →
        ∀ i stack, plan.at? [i, 0] = some (.leaf (Sample.cluster.roleTask true stack)) →
          ¬ RefusedLate (happened ((Execution.about plan start).1 ++ entries)) i stack := by
  have hlisting : Sample.roleAnswer [Sample.tagged]
      (.describeStacks Sample.cluster.name .serviceAccount) = .ok [Sample.tagged] := rfl
  obtain ⟨plan, hplan, hnamed, hlate⟩ := unnamed_refused_late hlisting none true
  refine ⟨plan, hplan, hlate.1 (hnamed.2 fun stack hstack _ _ => ?_)⟩
  obtain rfl := List.mem_singleton.1 hstack
  exact ⟨⟨"default", "app"⟩, by decide +kernel, by decide +kernel⟩

/-- **A plan may hold an account that cannot be named**, and an execution of it deletes the role of the
account first.  Here the role stack has the name that the program gives to such stacks, but no tag. -/
theorem untagged_refused_late :
    (¬ ∀ (c : Cluster) (answer : (q : Request) → Except Fault q.Answer) (only : Option NameSet)
      (wait : Bool) (plan : Plan Task),
      ((c.deleteServiceAccounts only wait).answered answer).2 = some (.ok plan) →
      plan.ProperlyNamed) ∧
    ¬ ∀ (c : Cluster) (answer : (q : Request) → Except Fault q.Answer) (only : Option NameSet)
      (wait : Bool) (plan : Plan Task),
      ((c.deleteServiceAccounts only wait).answered answer).2 = some (.ok plan) →
      ∀ (start : Conditions) (moves : List (Move Request Request.Answer))
        (entries : List (Entry Request Request.Answer)) (s : Situation Execution),
        (Execution.about plan start).2.follow Execution.process moves = some (entries, s) →
        ∀ i stack, plan.at? [i, 0] = some (.leaf (c.roleTask wait stack)) →
          ¬ RefusedLate (happened ((Execution.about plan start).1 ++ entries)) i stack := by
  have hplan : ((Sample.cluster.deleteServiceAccounts none true).answered
      (Sample.roleAnswer [Sample.untagged])).2 =
        some (.ok (Sample.cluster.pairsPlan true [Sample.untagged])) := rfl
  have hunnamed : ¬ ∃ account, Account.parse Sample.untagged.accountName = .ok account := by
    have hnone : Account.parse? Sample.untagged.accountName = none := by decide +kernel
    rintro ⟨account, hparse⟩
    rw [Account.parse, hnone] at hparse
    exact absurd hparse (by simp)
  have hstack : [Sample.untagged][0]? = some Sample.untagged := rfl
  constructor
  · intro hclaim
    have hnamed := (Cluster.properlyNamed_pairsPlan_iff _ _ _).1
      (hclaim Sample.cluster _ none true _ hplan)
    exact hunnamed (hnamed _ List.mem_cons_self)
  · intro hclaim
    obtain ⟨moves, entries, s, hrun, hlate⟩ :=
      refusedLate_of_unnamed Sample.cluster true hstack hunnamed
    exact hclaim Sample.cluster _ none true _ hplan calm moves entries s hrun 0 Sample.untagged rfl
      hlate

end Teardown
