/-
# The lines of a plan

A plan is described with one line for each of its nodes (`lines_eq`).  Where no line is broken,
the description is cut into the lines again (`split_describe`).

The lines settle the plan, up to the tasks that are described in the same way (`alike_of_lines`).
The heading of a group says how it is carried out, whether it is nested, and how many parts it has
(`heading_inj`); it begins with a digit, so it is no line of a task.  Where one part ends and the
next one begins follows from the number of parts, by induction on the plan.  The indentation is
not needed for this.

The induction is on one plan, with any lines behind it and any other plan beside it.  What it
gives is that the two plans are alike and that the same lines follow; so in a group the parts can
be taken one after the other.

Nothing in here is about the tasks of this program: a task is anything that has a description, and
all that is asked of descriptions is that they do not begin with a digit and have no line break.
-/
import Teardown.Proofs.Pieces
import Teardown.Proofs.Places

namespace Teardown.Plan

variable {ℓ : Type} {text : ℓ → String} {plan plan' : Plan ℓ}

/-! ## 1. One line for each node -/

/-- What the line of a node says. -/
def title (text : ℓ → String) : Plan ℓ → String
  | .leaf task => text task
  | .group mode nested parts => heading mode nested parts.length

def isLeaf : Plan ℓ → Bool
  | .leaf _ => true
  | .group .. => false

mutual

/-- As many nodes are leaves as the plan has tasks. -/
theorem countP_nodes (plan : Plan ℓ) :
    plan.nodes.countP (fun node => node.2.isLeaf) = plan.size := by
  match plan with
  | .leaf task => rfl
  | .group mode nested parts =>
    rw [nodes, List.countP_cons_of_neg (by simp [isLeaf]), countP_nodesOf 0 parts, size]

theorem countP_nodesOf (index : Nat) (parts : List (Plan ℓ)) :
    (nodesOf index parts).countP (fun node => node.2.isLeaf) = sizeOf parts := by
  match parts with
  | [] => rfl
  | part :: parts =>
    rw [nodesOf, List.countP_append, List.countP_map, countP_nodesOf (index + 1) parts, sizeOf,
      ← countP_nodes part]
    rfl

end

mutual

/-- **The lines of a plan** are those of its nodes, indented as far as they are down. -/
theorem lines_eq (text : ℓ → String) (depth : Nat) (plan : Plan ℓ) :
    plan.lines text depth =
      plan.nodes.map fun node => indentation (depth + node.1.length) ++ node.2.title text := by
  match plan with
  | .leaf task => rfl
  | .group mode nested parts =>
    rw [lines, linesOf_eq text depth 0 parts]
    rfl

theorem linesOf_eq (text : ℓ → String) (depth index : Nat) (parts : List (Plan ℓ)) :
    linesOf text (depth + 1) parts = (nodesOf index parts).map fun node =>
      indentation (depth + node.1.length) ++ node.2.title text := by
  match parts with
  | [] => rfl
  | part :: parts =>
    rw [linesOf, lines_eq text (depth + 1) part, linesOf_eq text depth (index + 1) parts, nodesOf,
      List.map_append, List.map_map]
    simp only [Function.comp_def, List.length_cons, Nat.add_assoc, Nat.add_comm 1]

end

/-! ## 2. Headings -/

/-- A line begins with a digit. -/
def IsNumbered (line : String) : Prop := ∃ c ∈ line.toList.head?, c.isDigit = true

theorem not_isNumbered {line : String} {c : Char} {rest : List Char} (h : line.toList = c :: rest)
    (hc : c.isDigit = false) : ¬ IsNumbered line := by
  rintro ⟨c', hfirst, hdigit⟩
  rw [h] at hfirst
  obtain rfl := Option.some.inj hfirst
  rw [hc] at hdigit
  cases hdigit

def headingEnd (mode : Mode) (nested : Bool) (count : Nat) : String :=
  Mode.word mode ++ (if nested then " sub-task" else " task") ++
    ((if count = 1 then "" else "s") ++ ":")

theorem toList_heading (mode : Mode) (nested : Bool) (count : Nat) :
    (heading mode nested count).toList =
      Nat.toDigits 10 count ++ ' ' :: (headingEnd mode nested count).toList := by
  simp [heading, counted, headingEnd]

/-- The rest of a heading tells how the group is carried out and whether it is nested. -/
theorem headingEnd_inj {mode mode' : Mode} {nested nested' : Bool} {count : Nat}
    (h : headingEnd mode nested count = headingEnd mode' nested' count) :
    mode = mode' ∧ nested = nested' := by
  rw [headingEnd, headingEnd, String.append_left_inj] at h
  revert h
  cases mode <;> cases mode' <;> cases nested <;> cases nested' <;> decide

/-- A character that is no digit does not occur in a number. -/
theorem not_mem_toDigits {c : Char} (h : c.isDigit = false) (n : Nat) : c ∉ Nat.toDigits 10 n := by
  intro hmem
  have hdigit := Nat.isDigit_of_mem_toDigits (by decide) (by decide) hmem
  rw [h] at hdigit
  cases hdigit

/-- **A heading tells everything about its group** but what the parts are. -/
theorem heading_inj {mode mode' : Mode} {nested nested' : Bool} {count count' : Nat}
    (h : heading mode nested count = heading mode' nested' count') :
    mode = mode' ∧ nested = nested' ∧ count = count' := by
  have hchars := congrArg String.toList h
  rw [toList_heading, toList_heading] at hchars
  obtain ⟨hdigits, hrest⟩ := Text.append_cons_inj (not_mem_toDigits (by decide) count)
    (not_mem_toDigits (by decide) count') hchars
  obtain rfl : count = count' := by
    simpa only [Nat.ofDigitChars_ten_toDigits] using congrArg (Nat.ofDigitChars 10 · 0) hdigits
  obtain ⟨hmode, hnested⟩ := headingEnd_inj (String.toList_inj.1 hrest)
  exact ⟨hmode, hnested, rfl⟩

theorem isNumbered_heading (mode : Mode) (nested : Bool) (count : Nat) :
    IsNumbered (heading mode nested count) := by
  obtain ⟨c, digits, hdigits⟩ : ∃ c digits, Nat.toDigits 10 count = c :: digits :=
    List.exists_cons_of_ne_nil Nat.toDigits_ne_nil
  refine ⟨c, by rw [toList_heading, hdigits]; rfl, ?_⟩
  exact Nat.isDigit_of_mem_toDigits (by decide) (by decide) (hdigits ▸ List.mem_cons_self)

/-- A heading is one line. -/
theorem newline_not_mem_heading (mode : Mode) (nested : Bool) (count : Nat) :
    '\n' ∉ (heading mode nested count).toList := by
  have hrest : '\n' ∉ (headingEnd mode nested count).toList := by
    rw [headingEnd]
    by_cases hcount : count = 1
    · rw [if_pos hcount]
      cases mode <;> cases nested <;> decide
    · rw [if_neg hcount]
      cases mode <;> cases nested <;> decide
  rw [toList_heading, List.mem_append, List.mem_cons]
  rintro (h | h | h)
  · exact not_mem_toDigits (by decide) count h
  · cases h
  · exact hrest h

/-! ## 3. A plan from its lines -/

mutual

/-- Two plans are alike: they have the same groups, and related tasks at the same places. -/
inductive Alike (r : ℓ → ℓ → Prop) : Plan ℓ → Plan ℓ → Prop
  | leaf {task task' : ℓ} : r task task' → Alike r (.leaf task) (.leaf task')
  | group (mode : Mode) (nested : Bool) {parts parts' : List (Plan ℓ)} :
      AllAlike r parts parts' → Alike r (.group mode nested parts) (.group mode nested parts')

/-- Two lists of plans are alike, one by one. -/
inductive AllAlike (r : ℓ → ℓ → Prop) : List (Plan ℓ) → List (Plan ℓ) → Prop
  | nil : AllAlike r [] []
  | cons {part part' : Plan ℓ} {parts parts' : List (Plan ℓ)} :
      Alike r part part' → AllAlike r parts parts' → AllAlike r (part :: parts) (part' :: parts')

end

section Alike

variable {r r' : ℓ → ℓ → Prop}

mutual

/-- What follows for all tasks of two plans, follows for those at the same places. -/
theorem Alike.imp (plan plan' : Plan ℓ)
    (hr : ∀ task ∈ plan.tasks, ∀ task' ∈ plan'.tasks, r task task' → r' task task')
    (h : plan.Alike r plan') : plan.Alike r' plan' := by
  match plan with
  | .leaf task =>
    cases h with
    | leaf htask =>
      exact .leaf (hr _ (List.mem_singleton_self _) _ (List.mem_singleton_self _) htask)
  | .group mode nested parts =>
    cases h with
    | group _ _ hparts => exact .group mode nested (AllAlike.imp parts _ hr hparts)

theorem AllAlike.imp (parts parts' : List (Plan ℓ))
    (hr : ∀ task ∈ tasksOf parts, ∀ task' ∈ tasksOf parts', r task task' → r' task task')
    (h : AllAlike r parts parts') : AllAlike r' parts parts' := by
  match parts with
  | [] =>
    cases h
    exact .nil
  | part :: parts =>
    cases h with
    | cons hpart hparts =>
      refine .cons (Alike.imp part _ (fun task htask task' htask' => ?_) hpart)
        (AllAlike.imp parts _ (fun task htask task' htask' => ?_) hparts)
      · exact hr task (List.mem_append_left _ htask) task' (List.mem_append_left _ htask')
      · exact hr task (List.mem_append_right _ htask) task' (List.mem_append_right _ htask')

end

end Alike

mutual

/-- **Two plans with the same lines are alike**, whatever follows, if the description of no task
begins with a digit. -/
theorem alike_of_lines {depth : Nat} {rest rest' : List String} (plan plan' : Plan ℓ)
    (hplan : ∀ task ∈ plan.tasks, ¬ IsNumbered (text task))
    (hplan' : ∀ task ∈ plan'.tasks, ¬ IsNumbered (text task))
    (h : plan.lines text depth ++ rest = plan'.lines text depth ++ rest') :
    plan.Alike (fun task task' => text task = text task') plan' ∧ rest = rest' := by
  match plan, plan' with
  | .leaf task, .leaf task' =>
    obtain ⟨hline, hrest⟩ := List.cons.inj h
    exact ⟨.leaf ((String.append_right_inj _).1 hline), hrest⟩
  | .leaf task, .group mode nested parts =>
    have hline := (String.append_right_inj _).1 (List.cons.inj h).1
    exact absurd (hline ▸ isNumbered_heading mode nested parts.length)
      (hplan task (by simp [tasks]))
  | .group mode nested parts, .leaf task =>
    have hline := (String.append_right_inj _).1 (List.cons.inj h).1
    exact absurd (hline ▸ isNumbered_heading mode nested parts.length)
      (hplan' task (by simp [tasks]))
  | .group mode nested parts, .group mode' nested' parts' =>
    obtain ⟨hline, hmore⟩ := List.cons.inj h
    obtain ⟨rfl, rfl, hlength⟩ := heading_inj ((String.append_right_inj _).1 hline)
    obtain ⟨hparts, hrest⟩ := allAlike_of_linesOf parts parts' hplan hplan' hlength hmore
    exact ⟨.group mode nested hparts, hrest⟩

theorem allAlike_of_linesOf {depth : Nat} {rest rest' : List String} (parts parts' : List (Plan ℓ))
    (hparts : ∀ task ∈ tasksOf parts, ¬ IsNumbered (text task))
    (hparts' : ∀ task ∈ tasksOf parts', ¬ IsNumbered (text task))
    (hlength : parts.length = parts'.length)
    (h : linesOf text depth parts ++ rest = linesOf text depth parts' ++ rest') :
    AllAlike (fun task task' => text task = text task') parts parts' ∧ rest = rest' := by
  match parts, parts' with
  | [], [] => exact ⟨.nil, h⟩
  | part :: parts, part' :: parts' =>
    rw [linesOf, linesOf, List.append_assoc, List.append_assoc] at h
    obtain ⟨hpart, hmore⟩ := alike_of_lines part part'
      (fun task htask => hparts task (List.mem_append_left _ htask))
      (fun task htask => hparts' task (List.mem_append_left _ htask)) h
    obtain ⟨hrest, hend⟩ := allAlike_of_linesOf parts parts'
      (fun task htask => hparts task (List.mem_append_right _ htask))
      (fun task htask => hparts' task (List.mem_append_right _ htask)) (Nat.succ.inj hlength) hmore
    exact ⟨.cons hpart hrest, hend⟩

end

/-! ## 4. Descriptions -/

/-- The lines of a plan are not broken. -/
theorem newline_not_mem_lines (h : ∀ task ∈ plan.tasks, '\n' ∉ (text task).toList) :
    ∀ line ∈ plan.lines text 0, '\n' ∉ line.toList := by
  intro line hline
  rw [lines_eq] at hline
  obtain ⟨⟨place, node⟩, hnode, rfl⟩ := List.mem_map.1 hline
  have hindentation : '\n' ∉ (indentation (0 + place.length)).toList := by
    simp [indentation, List.mem_replicate]
  have htitle : '\n' ∉ (node.title text).toList := by
    cases node with
    | leaf task => exact h task (mem_tasks_of_at? (mem_nodes.1 hnode))
    | group mode nested parts => exact newline_not_mem_heading mode nested parts.length
  rw [String.toList_append, List.mem_append, not_or]
  exact ⟨hindentation, htitle⟩

/-- **A description is cut into its lines**, one for each node. -/
theorem split_describe (hempty : plan.isEmpty = false)
    (h : ∀ task ∈ plan.tasks, '\n' ∉ (text task).toList) :
    Text.split '\n' (plan.describe text) = plan.lines text 0 := by
  have hlines : plan.lines text 0 ≠ [] := by
    cases plan <;> exact List.cons_ne_nil _ _
  rw [describe, if_neg (by simp [hempty])]
  exact Text.split_intercalate hlines (newline_not_mem_lines h)

end Teardown.Plan
