/-
# Plans

A plan is a tree of tasks.  A sequential group is carried out from its first part to its last and
stops at the first failure; a parallel group begins all its parts at once and carries out each of
them to its end.  A group may be marked as nested, which changes only how it is described.

A node is found by its place, the list of the parts to take on the way to it.  The place of an
event says which node it happened at, so most of what is proved of runs is said in terms of
`Plan.at?`; and two events are in one order for certain if their places have the same lane
(`lane`).

`describe` writes a plan with one line for every node, a group before its parts, and two blanks of
indentation for each group around a node.

The functions on plans recur through the lists of parts, and each has a companion on such lists
(`tasksOf`, `sizeOf`, `linesOf`).

* §1  trees.
* §2  the tasks of a plan, from left to right, and how many there are.
* §3  places and lanes.
* §4  descriptions.  A plan has two: `describe` for a reader, and `inspect` for whoever wants to
      see its structure.
-/

namespace Teardown

/-! ## 1. Trees -/

/-- How the parts of a group are carried out. -/
inductive Mode
  | sequential
  | parallel
deriving DecidableEq, Inhabited

/-- A place in a tree: which part to take in each group on the way to it. -/
abbrev Place := List Nat

/-- A tree of tasks. -/
inductive Plan (ℓ : Type)
  | leaf (task : ℓ)
  | group (mode : Mode) (nested : Bool) (parts : List (Plan ℓ))

namespace Plan

variable {ℓ : Type}

instance : Inhabited (Plan ℓ) := ⟨.group .sequential false []⟩

/-- The same plan, marked as nested under another. -/
def asNested : Plan ℓ → Plan ℓ
  | .leaf task => .leaf task
  | .group mode _ parts => .group mode true parts

/-! ## 2. Tasks -/

mutual

/-- The tasks of a plan, from left to right. -/
def tasks : Plan ℓ → List ℓ
  | .leaf task => [task]
  | .group _ _ parts => tasksOf parts

def tasksOf : List (Plan ℓ) → List ℓ
  | [] => []
  | part :: parts => part.tasks ++ tasksOf parts

end

mutual

/-- How many tasks a plan has. -/
def size : Plan ℓ → Nat
  | .leaf _ => 1
  | .group _ _ parts => sizeOf parts

def sizeOf : List (Plan ℓ) → Nat
  | [] => 0
  | part :: parts => part.size + sizeOf parts

end

/-- Whether a plan has no task. -/
def isEmpty (plan : Plan ℓ) : Bool := plan.size = 0

mutual

theorem length_tasks (plan : Plan ℓ) : plan.tasks.length = plan.size := by
  match plan with
  | .leaf _ => rfl
  | .group _ _ parts => exact length_tasksOf parts

theorem length_tasksOf (parts : List (Plan ℓ)) : (tasksOf parts).length = sizeOf parts := by
  match parts with
  | [] => rfl
  | part :: parts =>
    rw [tasksOf, List.length_append, length_tasks part, length_tasksOf parts, sizeOf]

end

/-! ## 3. Places -/

/-- The node at a place. -/
def at? : Place → Plan ℓ → Option (Plan ℓ)
  | [], plan => some plan
  | i :: place, .group _ _ parts => parts[i]?.bind (at? place)
  | _ :: _, .leaf _ => none

/-- The lane of a place: the innermost part of a parallel group that holds it.  What happens in one
lane happens in one order. -/
def lane : Place → Plan ℓ → Place
  | i :: place, .group mode _ parts =>
    match parts[i]? with
    | some part =>
      let inner := lane place part
      if inner.isEmpty ∧ mode = .sequential then [] else i :: inner
    | none => []
  | _, _ => []

/-! ## 4. Description -/

/-- The indentation of a node inside so many groups. -/
def indentation (depth : Nat) : String := String.ofList (List.replicate (2 * depth) ' ')

/-- One thing or several. -/
def counted (count : Nat) (noun : String) : String :=
  toString count ++ " " ++ noun ++ (if count = 1 then "" else "s")

def Mode.word : Mode → String
  | .sequential => "sequential"
  | .parallel => "parallel"

/-- The line of a group with so many parts. -/
def heading (mode : Mode) (nested : Bool) (count : Nat) : String :=
  counted count (Mode.word mode ++ (if nested then " sub-task" else " task")) ++ ":"

mutual

/-- The lines of a plan inside so many groups. -/
def lines (text : ℓ → String) (depth : Nat) : Plan ℓ → List String
  | .leaf task => [indentation depth ++ text task]
  | .group mode nested parts =>
    (indentation depth ++ heading mode nested parts.length) :: linesOf text (depth + 1) parts

def linesOf (text : ℓ → String) (depth : Nat) : List (Plan ℓ) → List String
  | [] => []
  | part :: parts => part.lines text depth ++ linesOf text depth parts

end

def describe (text : ℓ → String) (plan : Plan ℓ) : String :=
  if plan.isEmpty then "no tasks" else "\n".intercalate (plan.lines text 0)

/-- The description of a plan with the number of its tasks. -/
def render (text : ℓ → String) (plan : Plan ℓ) : String :=
  plan.describe text ++ "\n" ++ counted plan.size "task" ++ " planned"

mutual

/-- The structure of a plan. -/
def inspect (leaf : ℓ → String) : Plan ℓ → String
  | .leaf task => "Task(" ++ leaf task ++ ")"
  | .group mode nested parts => "Tree(" ++ inspectGroup leaf mode nested parts ++ ")"

def inspectGroup (leaf : ℓ → String) (mode : Mode) (nested : Bool) (parts : List (Plan ℓ)) :
    String :=
  "TaskTree \x7b parallel: " ++ toString (decide (mode = .parallel)) ++ ", sub_task: " ++
    toString nested ++ ", children: [" ++ ", ".intercalate (inspectAll leaf parts) ++ "] \x7d"

def inspectAll (leaf : ℓ → String) : List (Plan ℓ) → List String
  | [] => []
  | part :: parts => part.inspect leaf :: inspectAll leaf parts

end

def inspectWhole (leaf : ℓ → String) : Plan ℓ → String
  | .leaf task => leaf task
  | .group mode nested parts => inspectGroup leaf mode nested parts

/-! ## Worked examples -/

/-- A plan with two tasks, the second of them inside a parallel group. -/
def sample : Plan Nat := .group .sequential false [.leaf 1, .group .parallel true [.leaf 2]]

example : sample.tasks = [1, 2] := rfl

example : sample.lines toString 0 =
    ["2 sequential tasks:", "  1", "  1 parallel sub-task:", "    2"] := by decide +kernel

example : sample.lane [0] = [] := rfl

example : sample.lane [1, 0] = [1, 0] := rfl

end Plan

end Teardown
