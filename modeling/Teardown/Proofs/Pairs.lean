/-
# Pairs of a role and an account

The plan that deletes service accounts has one pair for each of them, and all pairs go side by
side.  The first task of a pair deletes the stack of the role, and the second one the account in
the cluster (`Cluster.at?_pairsPlan_iff`).  So the task of an account does nothing before the
deletion of the stack was accepted (`Traced.role_accepted`).  It asks for a connection, then it
reads the name of the account, and only if there is such an account it asks for its deletion
(`Task.asked_deleteAccount_iff`).

Two accounts of the plan may be the same account, if two stacks give the same name; they are two
pairs then, and nothing here depends on the names being different.

* §1  the leaves of a plan of pairs, by their places.  A place has two steps: which pair, and
      which half of it.
* §2  what happens at a pair, from the traces of its two tasks.  `Traced.asked_account_iff` puts
      it in terms of the events of a whole run.
-/
import Teardown.Proofs.Conversations
import Teardown.Proofs.Silence
import Teardown.Proofs.TeardownOrder

namespace Teardown

open Run

/-! ## 1. Plans of pairs -/

theorem Plan.at?_leaf {ℓ : Type} {task task' : ℓ} {place : Place}
    (h : (Plan.leaf task).at? place = some (.leaf task')) : place = [] ∧ task' = task := by
  cases place with
  | nil => exact ⟨rfl, (Plan.leaf.inj (Option.some.inj h)).symm⟩
  | cons i place => exact absurd h (by simp [Plan.at?])

namespace Cluster

variable {c : Cluster} {wait : Bool} {roles : List Stack}

/-- The plan with one pair for each of some role stacks. -/
def pairsPlan (c : Cluster) (wait : Bool) (roles : List Stack) : Plan Task :=
  .group .parallel false (roles.map (c.accountPart wait))

/-- The role stacks that are selected, by the names of their accounts. -/
def selectedRoles (only : Option NameSet) (roles : List Stack) : List Stack :=
  roles.filter fun stack => isSelected only stack.accountName

/-- **The leaves of a plan of pairs**: for each role stack the task for it, and then the task for its
account. -/
theorem at?_pairsPlan_iff (c : Cluster) (wait : Bool) {place : Place} {task : Task} :
    (c.pairsPlan wait roles).at? place = some (.leaf task) ↔
      ∃ (i : Nat) (stack : Stack), roles[i]? = some stack ∧
        (place = [i, 0] ∧ task = c.roleTask wait stack ∨
          place = [i, 1] ∧ task = accountTask stack) := by
  constructor
  · intro h
    obtain ⟨i, place, part, rfl, hpart, h⟩ := Plan.at?_group h
    rw [List.getElem?_map, Option.map_eq_some_iff] at hpart
    obtain ⟨stack, hstack, rfl⟩ := hpart
    obtain ⟨j, place, part, rfl, hpart, h⟩ := Plan.at?_group h
    refine ⟨i, stack, hstack, ?_⟩
    match j, hpart with
    | 0, hpart =>
      obtain rfl := Option.some.inj hpart
      obtain ⟨rfl, rfl⟩ := Plan.at?_leaf h
      exact .inl ⟨rfl, rfl⟩
    | 1, hpart =>
      obtain rfl := Option.some.inj hpart
      obtain ⟨rfl, rfl⟩ := Plan.at?_leaf h
      exact .inr ⟨rfl, rfl⟩
  · rintro ⟨i, stack, hstack, ⟨rfl, rfl⟩ | ⟨rfl, rfl⟩⟩ <;>
      simp [pairsPlan, Plan.at?, hstack, accountPart]

theorem at?_role_iff (c : Cluster) (wait : Bool) {i : Nat} {stack : Stack} :
    (c.pairsPlan wait roles).at? [i, 0] = some (.leaf (c.roleTask wait stack)) ↔
      roles[i]? = some stack := by
  rw [at?_pairsPlan_iff]
  constructor
  · rintro ⟨j, other, hother, ⟨hplace, htask⟩ | ⟨hplace, -⟩⟩
    · obtain ⟨rfl, -⟩ := List.cons.inj hplace
      obtain ⟨rfl, -⟩ := Work.deleteStack.inj (congrArg Task.work htask)
      exact hother
    · exact absurd hplace (by simp)
  · exact fun hstack => ⟨i, stack, hstack, .inl ⟨rfl, rfl⟩⟩

theorem pairsPlan_isEmpty {i : Nat} {stack : Stack} (hstack : roles[i]? = some stack) :
    (c.pairsPlan wait roles).isEmpty = false :=
  Plan.isEmpty_of_mem_tasks (Plan.mem_tasks_of_at? ((c.at?_role_iff wait).2 hstack))

end Cluster

/-! ## 2. What happens at a pair -/

namespace Task

/-- With a connection, an account with a proper name is asked for. -/
theorem afterConnect_of_ok {name : String} {account : Account}
    (h : Account.parse name = .ok account) :
    afterConnect name (.ok ()) = .ask (.deleteAccount account) Activity.ofExcept := by
  simp only [afterConnect, Activity.ofExcept, Outcome.ofExcept, Activity.bind, bind, h]
  rfl

/-- With a connection, the task of an account without a proper name fails at once. -/
theorem afterConnect_of_error {name : String} {cause : Fault}
    (h : Account.parse name = .error cause) :
    afterConnect name (.ok ()) = .finish (.fault cause) := by
  simp [afterConnect, Activity.ofExcept, Outcome.ofExcept, Activity.bind, bind, h]

/-- Once there is a connection, an account is asked for exactly if the name is that of the account. -/
theorem asked_deleteAccount_iff {name : String} {account : Account}
    {past : List (Occurrence Request Request.Answer)}
    {thread : Thread Request Request.Answer Unit} (h : (deleteAccount name).Trace past thread)
    (hgranted : .replied .connect (.ok ()) ∈ past) :
    .asked (.deleteAccount account) ∈ past ↔ Account.parse name = .ok account := by
  rw [deleteAccount_eq] at h
  cases h with
  | asking => exact absurd hgranted (by simp)
  | broken text => exact absurd hgranted (by simp)
  | refused cause hmore =>
    obtain ⟨rfl, -⟩ := Activity.Trace.of_finish hmore
    exact absurd hgranted (by simp)
  | granted _ hmore =>
    have hmore : (afterConnect name (.ok ())).Trace _ thread := hmore
    cases hparse : Account.parse name with
    | error cause =>
      rw [afterConnect_of_error hparse] at hmore
      obtain ⟨rfl, -⟩ := hmore.of_finish
      simp
    | ok found =>
      rw [afterConnect_of_ok hparse] at hmore
      have hend (answer : Except Fault Unit) {more : List (Occurrence Request Request.Answer)}
          (hmore : (Activity.ofExcept answer : Action Unit).Trace more thread) : more = [] :=
        (Activity.Trace.of_finish hmore).1
      cases hmore with
      | asking => simp [eq_comm]
      | broken text => simp [eq_comm]
      | granted _ hrest => simp [hend _ hrest, eq_comm]
      | refused _ hrest => simp [hend _ hrest, eq_comm]

end Task

section Events

variable {c : Cluster} {wait : Bool} {roles : List Stack} {mayRefuse : Prop} {run : Run}
  {events : List RunEvent} {i : Nat} {stack : Stack}

/-- Once there is a connection for an account, the account is asked for exactly if it has the name of
the pair. -/
theorem Traced.asked_account_iff (h : Traced mayRefuse (c.pairsPlan wait roles) run events)
    (hstack : roles[i]? = some stack) (hgranted : ⟨[i, 1], .replied .connect (.ok ())⟩ ∈ events)
    {account : Account} :
    ⟨[i, 1], .asked (.deleteAccount account)⟩ ∈ events ↔
      Account.parse stack.accountName = .ok account := by
  obtain ⟨task, past, ending, thread, hleaf, htrace, -, hunder, hending⟩ :=
    h.asked_at (h.asked_of_replied hgranted)
  have htask := (c.at?_pairsPlan_iff wait).2
    ⟨i, stack, hstack, .inr ⟨rfl, rfl⟩⟩
  obtain rfl := Plan.leaf.inj (Option.some.inj (hleaf.symm.trans htask))
  -- Between the beginning and the end of the task there is nothing but its trace.
  have hpast {o : Occurrence Request Request.Answer} (hbegan : o ≠ .began)
      (hended : ∀ outcome, o ≠ .ended outcome) : ⟨[i, 1], o⟩ ∈ events ↔ o ∈ past := by
    have hmem : (⟨[], o⟩ : RunEvent) ∈ under [i, 1] events ↔ ⟨[i, 1], o⟩ ∈ events := mem_under
    rw [← hmem, hunder]
    constructor
    · intro hseen
      obtain ⟨o', ho', heq⟩ := List.mem_map.1 hseen
      obtain rfl := (Event.mk.inj heq).2
      rcases List.mem_append.1 ho' with ho' | ho'
      · exact (List.mem_cons.1 ho').resolve_left hbegan
      · obtain ⟨outcome, rfl⟩ := hending o' ho'
        exact absurd rfl (hended outcome)
    · exact fun ho => List.mem_map_of_mem (List.mem_append_left _ (List.mem_cons_of_mem _ ho))
  rw [hpast (by simp) (by simp)]
  exact Task.asked_deleteAccount_iff htrace ((hpast (by simp) (by simp)).1 hgranted)

end Events

end Teardown
