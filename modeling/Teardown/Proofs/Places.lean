/-
# Places in a plan

Facts about plans as trees: which tasks a plan has, where they are, and how the places of two
leaves lie to each other in a group.

A task is found in two ways, in the list of the tasks and at a place in the tree.  The first is
convenient where a plan is made, since the list of a group is that of its parts one after the
other; the second is what the events of a run refer to.  `mem_tasks_of_at?` and
`exists_at?_of_mem_tasks` lead from each to the other.

* §1  tasks and places.  In a sequential group a leaf can be found by its task alone if no other
      part has it (`at?_middle`), and two leaves come in the order of the parts that have their
      tasks (`index_lt`).
* §2  all nodes with their places, in the order of reading.  The list has each node once, so what
      is counted over it counts nodes (`pairwise_nodes`), and a function of the nodes can be
      computed part by part (`flatMap_nodesOf`).
-/
import Teardown.Plan

namespace Teardown

/-! ## 1. Tasks and places -/

namespace Plan

variable {ℓ : Type} {plan : Plan ℓ} {place : Place} {task : ℓ}

@[simp] theorem tasks_asNested (plan : Plan ℓ) : plan.asNested.tasks = plan.tasks := by
  cases plan <;> rfl

@[simp] theorem tasksOf_append (front back : List (Plan ℓ)) :
    tasksOf (front ++ back) = tasksOf front ++ tasksOf back := by
  induction front with
  | nil => rfl
  | cons part front ih => simp only [List.cons_append, tasksOf, ih, List.append_assoc]

theorem mem_tasksOf {parts : List (Plan ℓ)} :
    task ∈ tasksOf parts ↔ ∃ part ∈ parts, task ∈ part.tasks := by
  induction parts with
  | nil => simp [tasksOf]
  | cons part parts ih => simp [tasksOf, ih]

theorem isEmpty_iff : plan.isEmpty = true ↔ plan.tasks = [] := by
  rw [isEmpty, decide_eq_true_iff, ← length_tasks, List.length_eq_zero_iff]

theorem isEmpty_of_mem_tasks (h : task ∈ plan.tasks) : plan.isEmpty = false := by
  rw [Bool.eq_false_iff, ne_eq, isEmpty_iff]
  exact List.ne_nil_of_mem h

/-- What is at a place of a part is in the group one step further down. -/
theorem at?_inside {mode : Mode} {nested : Bool} {parts : List (Plan ℓ)} {part : Plan ℓ} {i : Nat}
    (hpart : parts[i]? = some part) (place : Place) :
    (Plan.group mode nested parts).at? (i :: place) = part.at? place := by
  rw [at?, hpart]
  rfl

/-- A group is at the place of its part and then further on. -/
theorem at?_cons {node : Plan ℓ} {i : Nat} (h : plan.at? (i :: place) = some node) :
    ∃ mode nested parts part, plan = .group mode nested parts ∧ parts[i]? = some part ∧
      part.at? place = some node := by
  cases plan with
  | leaf task => exact absurd h (by simp [at?])
  | group mode nested parts =>
    obtain ⟨part, hpart, hnode⟩ := Option.bind_eq_some_iff.1 h
    exact ⟨mode, nested, parts, part, rfl, hpart, hnode⟩

/-- A leaf of a group is a leaf of one of its parts. -/
theorem at?_group {mode : Mode} {nested : Bool} {parts : List (Plan ℓ)}
    (h : (Plan.group mode nested parts).at? place = some (.leaf task)) :
    ∃ i place' part, place = i :: place' ∧ parts[i]? = some part ∧
      part.at? place' = some (.leaf task) := by
  cases place with
  | nil => exact absurd h (by simp [at?])
  | cons i place' =>
    obtain ⟨_, _, _, part, hgroup, hpart, hleaf⟩ := at?_cons h
    obtain ⟨rfl, rfl, rfl⟩ := Plan.group.inj hgroup
    exact ⟨i, place', part, rfl, hpart, hleaf⟩

theorem mem_tasks_of_at? (h : plan.at? place = some (.leaf task)) : task ∈ plan.tasks := by
  induction place generalizing plan with
  | nil =>
    obtain rfl := Option.some.inj h
    exact List.mem_singleton_self task
  | cons i place ih =>
    obtain ⟨mode, nested, parts, part, rfl, hpart, hleaf⟩ := at?_cons h
    exact mem_tasksOf.2 ⟨part, List.mem_of_getElem? hpart, ih hleaf⟩

mutual

/-- Every task of a plan is the task of some leaf. -/
theorem exists_at?_of_mem_tasks (plan : Plan ℓ) (h : task ∈ plan.tasks) :
    ∃ place, plan.at? place = some (.leaf task) := by
  match plan with
  | .leaf task' =>
    obtain rfl : task = task' := List.mem_singleton.1 h
    exact ⟨[], rfl⟩
  | .group mode nested parts =>
    obtain ⟨i, part, place, hpart, hleaf⟩ := exists_at?_of_mem_tasksOf parts h
    exact ⟨i :: place, (at?_inside hpart place).trans hleaf⟩

theorem exists_at?_of_mem_tasksOf (parts : List (Plan ℓ)) (h : task ∈ tasksOf parts) :
    ∃ (i : Nat) (part : Plan ℓ) (place : Place), parts[i]? = some part ∧
      part.at? place = some (.leaf task) := by
  match parts with
  | [] => exact absurd h List.not_mem_nil
  | part :: parts =>
    rcases List.mem_append.1 h with h | h
    · obtain ⟨place, hleaf⟩ := exists_at?_of_mem_tasks part h
      exact ⟨0, part, place, rfl, hleaf⟩
    · obtain ⟨i, part', place, hpart, hleaf⟩ := exists_at?_of_mem_tasksOf parts h
      exact ⟨i + 1, part', place, hpart, hleaf⟩

end

/-- A leaf lies in the part that alone has its task. -/
theorem at?_middle {mode : Mode} {nested : Bool} {front back : List (Plan ℓ)} {middle : Plan ℓ}
    (h : (Plan.group mode nested (front ++ middle :: back)).at? place = some (.leaf task))
    (hfront : task ∉ tasksOf front) (hback : task ∉ tasksOf back) :
    ∃ place', place = front.length :: place' ∧ middle.at? place' = some (.leaf task) := by
  obtain ⟨i, place', part, rfl, hpart, hleaf⟩ := at?_group h
  have htask := mem_tasks_of_at? hleaf
  rcases Nat.lt_trichotomy i front.length with hi | rfl | hi
  · rw [List.getElem?_append_left hi] at hpart
    exact absurd (mem_tasksOf.2 ⟨part, List.mem_of_getElem? hpart, htask⟩) hfront
  · obtain rfl : middle = part := by simpa using hpart
    exact ⟨place', rfl, hleaf⟩
  · rw [List.getElem?_append_right (by omega),
      show i - front.length = (i - front.length - 1) + 1 by omega, List.getElem?_cons_succ] at hpart
    exact absurd (mem_tasksOf.2 ⟨part, List.mem_of_getElem? hpart, htask⟩) hback

/-- In a sequential group a leaf with a task of the front comes before a leaf with a task of the
back. -/
theorem index_lt {mode : Mode} {nested : Bool} {front back : List (Plan ℓ)} {place' : Place}
    {task' : ℓ}
    (h : (Plan.group mode nested (front ++ back)).at? place = some (.leaf task))
    (hback : task ∉ tasksOf back)
    (h' : (Plan.group mode nested (front ++ back)).at? place' = some (.leaf task'))
    (hfront : task' ∉ tasksOf front) :
    ∃ i j rest rest', place = i :: rest ∧ place' = j :: rest' ∧ i < j := by
  obtain ⟨i, rest, part, rfl, hpart, hleaf⟩ := at?_group h
  obtain ⟨j, rest', part', rfl, hpart', hleaf'⟩ := at?_group h'
  refine ⟨i, j, rest, rest', rfl, rfl, ?_⟩
  have hi : i < front.length := by
    refine Nat.lt_of_not_le fun hge => hback ?_
    rw [List.getElem?_append_right hge] at hpart
    exact mem_tasksOf.2 ⟨part, List.mem_of_getElem? hpart, mem_tasks_of_at? hleaf⟩
  have hj : front.length ≤ j := by
    refine Nat.le_of_not_lt fun hlt => hfront ?_
    rw [List.getElem?_append_left hlt] at hpart'
    exact mem_tasksOf.2 ⟨part', List.mem_of_getElem? hpart', mem_tasks_of_at? hleaf'⟩
  omega

/-! ## 2. Nodes -/

mutual

/-- The nodes of a plan with their places, a group before its parts, from left to right. -/
def nodes : Plan ℓ → List (Place × Plan ℓ)
  | .leaf task => [([], .leaf task)]
  | .group mode nested parts => ([], .group mode nested parts) :: nodesOf 0 parts

/-- The nodes of the parts of a group from a given one on. -/
def nodesOf (index : Nat) : List (Plan ℓ) → List (Place × Plan ℓ)
  | [] => []
  | part :: rest =>
    part.nodes.map (fun (place, node) => (index :: place, node)) ++ nodesOf (index + 1) rest

end

theorem nodes_eq_cons (plan : Plan ℓ) : ∃ rest, plan.nodes = ([], plan) :: rest := by
  cases plan with
  | leaf task => exact ⟨[], rfl⟩
  | group mode nested parts => exact ⟨nodesOf 0 parts, rfl⟩

/-- The nodes of several parts are the nodes of each, seen from further up. -/
theorem mem_nodesOf {x : Place × Plan ℓ} {index : Nat} {parts : List (Plan ℓ)} :
    x ∈ nodesOf index parts ↔ ∃ i place part, x.1 = (index + i) :: place ∧ parts[i]? = some part ∧
      (place, x.2) ∈ part.nodes := by
  induction parts generalizing index with
  | nil => simp [nodesOf]
  | cons part rest ih =>
    rw [nodesOf, List.mem_append, ih, List.mem_map]
    constructor
    · rintro (⟨⟨place, node⟩, hnode, rfl⟩ | ⟨i, place, part', hplace, hpart, hnode⟩)
      · exact ⟨0, place, part, rfl, rfl, hnode⟩
      · exact ⟨i + 1, place, part', by rw [hplace, Nat.add_assoc, Nat.add_comm 1], hpart, hnode⟩
    · rintro ⟨i, place, part', hplace, hpart, hnode⟩
      cases i with
      | zero =>
        obtain rfl := Option.some.inj hpart
        exact .inl ⟨_, hnode, Prod.ext hplace.symm rfl⟩
      | succ i =>
        exact .inr ⟨i, place, part', by rw [hplace, Nat.add_assoc, Nat.add_comm 1], hpart, hnode⟩

/-- The nodes of a plan are what is found at its places. -/
theorem mem_nodes {plan node : Plan ℓ} {place : Place} :
    (place, node) ∈ plan.nodes ↔ plan.at? place = some node := by
  induction place generalizing plan with
  | nil =>
    cases plan with
    | leaf task => simp [nodes, at?, eq_comm]
    | group mode nested parts => simp [nodes, at?, mem_nodesOf, eq_comm]
  | cons i place ih =>
    cases plan with
    | leaf task => simp [nodes, at?]
    | group mode nested parts =>
      rw [nodes, List.mem_cons, mem_nodesOf, at?]
      constructor
      · rintro (h | ⟨j, place', part, hplace, hpart, hnode⟩)
        · exact absurd (congrArg Prod.fst h) (by simp)
        · obtain ⟨rfl, rfl⟩ := List.cons.inj hplace
          rw [Nat.zero_add, hpart]
          exact ih.1 hnode
      · intro h
        obtain ⟨part, hpart, hnode⟩ := Option.bind_eq_some_iff.1 h
        exact .inr ⟨i, place, part, by rw [Nat.zero_add], hpart, ih.2 hnode⟩

mutual

/-- **The nodes of a plan are listed in the order of their places**, each of them once. -/
theorem pairwise_nodes (plan : Plan ℓ) : plan.nodes.Pairwise fun x y => x.1 < y.1 := by
  match plan with
  | .leaf task => exact List.pairwise_singleton _ _
  | .group mode nested parts =>
    refine List.pairwise_cons.2 ⟨fun y hy => ?_, pairwise_nodesOf 0 parts⟩
    obtain ⟨i, place, part, hplace, -, -⟩ := mem_nodesOf.1 hy
    rw [hplace]
    exact List.nil_lt_cons _ _

theorem pairwise_nodesOf (index : Nat) (parts : List (Plan ℓ)) :
    (nodesOf index parts).Pairwise fun x y => x.1 < y.1 := by
  match parts with
  | [] => exact List.Pairwise.nil
  | part :: rest =>
    refine List.pairwise_append.2 ⟨?_, pairwise_nodesOf (index + 1) rest, ?_⟩
    · refine List.pairwise_map.2 ((pairwise_nodes part).imp fun hlt => ?_)
      exact List.cons_lt_cons_iff.2 (.inr ⟨rfl, hlt⟩)
    · intro x hx y hy
      obtain ⟨x', -, rfl⟩ := List.mem_map.1 hx
      obtain ⟨i, place, part', hplace, -, -⟩ := mem_nodesOf.1 hy
      rw [hplace]
      exact List.cons_lt_cons_iff.2 (.inl (by omega))

end

theorem place_ne_nil_of_mem_tail {x : Place × Plan ℓ} (h : x ∈ plan.nodes.tail) : x.1 ≠ [] := by
  cases plan with
  | leaf task => exact absurd h List.not_mem_nil
  | group mode nested parts =>
    obtain ⟨i, place, part, hplace, -, -⟩ := mem_nodesOf.1 h
    rw [hplace]
    exact List.cons_ne_nil _ _

/-- What the nodes of several parts give, is given part by part. -/
theorem flatMap_nodesOf {β γ : Type} {f : Place × Plan ℓ → List β} {g : γ → Nat → List β}
    {index : Nat} {parts : List (Plan ℓ)} {xs : List γ} (hlen : xs.length = parts.length)
    (h : ∀ i part x, parts[i]? = some part → xs[i]? = some x →
      part.nodes.flatMap (fun y => f ((index + i) :: y.1, y.2)) = g x (index + i)) :
    (nodesOf index parts).flatMap f = (xs.zipIdx index).flatMap fun x => g x.1 x.2 := by
  induction parts generalizing index xs with
  | nil => rw [List.length_eq_zero_iff.1 hlen]; rfl
  | cons part rest ih =>
    cases xs with
    | nil => exact absurd hlen (by simp)
    | cons x xs =>
      have hfirst := h 0 part x rfl rfl
      have hrest : (nodesOf (index + 1) rest).flatMap f =
          (xs.zipIdx (index + 1)).flatMap fun x => g x.1 x.2 := by
        refine ih (Nat.succ.inj hlen) fun i part' x' hpart hx => ?_
        have hnext := h (i + 1) part' x' hpart hx
        rwa [show index + (i + 1) = index + 1 + i by omega] at hnext
      rw [nodesOf, List.flatMap_append, List.flatMap_map, hrest, List.zipIdx_cons,
        List.flatMap_cons]
      exact congrArg (· ++ _) hfirst

end Plan

end Teardown
