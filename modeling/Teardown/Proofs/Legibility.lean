/-
# What a printed plan says

The plan that is shown before anything is deleted says what will be deleted, whatever the names of
the stacks and their tags are.  Every node of the plan has one line, and two plans that are
printed alike agree node by node: in their groups, in what each task is for, in the name it is
about, and in whether it is waited for (`plan_legible`).  No name can pretend to be a line of its
own.

A line of a task has one of six beginnings, and then at most a quoted name and the note that it is
waited for (`TaskLine`).  The beginnings hold no quotes, so the first quote opens the name; where
the name ends is found by reading it back (`TaskLine.named_inj`).

* §1  the lines of tasks, and that they can be told apart (`TaskLine.text_inj`).
* §2  the tasks of the builders.  Each has such a line (`Cluster.Shows`), so a plan that a builder
      makes is legible; this goes part by part and not by looking at whole plans.
* §3  descriptions: cut into lines, and compared line by line from the top.

What a line shows is the name of a node group, or the written form of an account, as the stack
gives them.  Two stacks that give the same name are printed alike, and nothing else about them is.
-/
import Teardown.Proofs.Coverage
import Teardown.Proofs.Inquiry
import Teardown.Proofs.Lines
import Teardown.Proofs.Quotation

namespace Teardown

/-! ## 1. Lines of tasks -/

/-- What a task is for that is about something with a name. -/
inductive Aim
  | cleanUp
  | nodeGroup
  | role
  | account
  | controlPlane
deriving DecidableEq

/-- How a line begins. -/
def Aim.words : Aim → String
  | cleanUp => "cleanup for nodegroup "
  | nodeGroup => "delete nodegroup "
  | role => "delete IAM role for serviceaccount "
  | account => "delete serviceaccount "
  | controlPlane => "delete cluster control plane "

/-- What the line of a task says. -/
inductive TaskLine
  | named (aim : Aim) (name : String) (waits : Bool)
  | provider

namespace TaskLine

def info : TaskLine → String
  | named aim name _ => aim.words ++ Text.quote name
  | provider => "delete IAM OIDC provider"

/-- Whether the line says that the task is waited for. -/
def waits : TaskLine → Bool
  | named _ _ waits => waits
  | provider => false

def note (waits : Bool) : String := if waits then " [wait]" else ""

def text (line : TaskLine) : String := line.info ++ note line.waits

/-- The words at the beginning of a line hold no quote and no line break, and they do not begin with
a digit. -/
theorem words_plain (aim : Aim) :
    '"' ∉ aim.words.toList ∧ '\n' ∉ aim.words.toList ∧
      ∃ c words, aim.words.toList = c :: words ∧ c.isDigit = false := by
  cases aim <;> exact ⟨by decide, by decide, _, _, rfl, rfl⟩

/-- After the words there is a quote, if there is a name. -/
theorem toList_named (aim : Aim) (name : String) (waits : Bool) :
    ∃ rest, (named aim name waits).text.toList = aim.words.toList ++ '"' :: rest :=
  ⟨name.toList.flatMap Text.quoteChar ++ '"' :: (note waits).toList,
    by simp [text, info, TaskLine.waits, Text.quote, Text.quoteChars]⟩

/-- Two lines that are the same say the same about the same name. -/
theorem named_inj {aim aim' : Aim} {name name' : String} {waits waits' : Bool}
    (h : (named aim name waits).text = (named aim' name' waits').text) :
    aim = aim' ∧ name = name' ∧ waits = waits' := by
  -- The words end where the first quote is.
  obtain ⟨rest, hrest⟩ := toList_named aim name waits
  obtain ⟨rest', hrest'⟩ := toList_named aim' name' waits'
  obtain ⟨hwords, -⟩ := Text.append_cons_inj (words_plain aim).1 (words_plain aim').1
    (hrest.symm.trans ((congrArg String.toList h).trans hrest'))
  obtain rfl : aim = aim' := by
    revert hwords
    cases aim <;> cases aim' <;> decide
  -- The name ends where reading it back ends.
  have hname : Text.quote name ++ note waits = Text.quote name' ++ note waits' := by
    simpa only [text, info, TaskLine.waits, String.append_assoc, String.append_right_inj] using h
  obtain ⟨rfl, hnote⟩ := Text.quote_append_inj hname
  refine ⟨rfl, rfl, ?_⟩
  revert hnote
  cases waits <;> cases waits' <;> decide

/-- **Two lines that are the same say the same.** -/
theorem text_inj {line line' : TaskLine} (h : line.text = line'.text) : line = line' := by
  -- There is no quote in the line for the provider.
  have hprovider (aim : Aim) (name : String) (waits : Bool) :
      (named aim name waits).text ≠ provider.text := by
    intro heq
    obtain ⟨rest, hrest⟩ := toList_named aim name waits
    have hquote : '"' ∈ provider.text.toList := by simp [← heq, hrest]
    exact absurd hquote (by decide)
  cases line with
  | provider =>
    cases line' with
    | provider => rfl
    | named aim name waits => exact absurd h.symm (hprovider aim name waits)
  | named aim name waits =>
    cases line' with
    | provider => exact absurd h (hprovider aim name waits)
    | named aim' name' waits' =>
      obtain ⟨rfl, rfl, rfl⟩ := named_inj h
      rfl

theorem newline_not_mem_text (line : TaskLine) : '\n' ∉ line.text.toList := by
  cases line with
  | provider => decide
  | named aim name waits =>
    have hnote : '\n' ∉ (note waits).toList := by cases waits <;> decide
    simp only [text, info, TaskLine.waits, String.toList_append, List.mem_append, not_or]
    exact ⟨⟨(words_plain aim).2.1, Text.quote_in_line name⟩, hnote⟩

/-- A line does not begin with a digit. -/
theorem not_isNumbered_text (line : TaskLine) : ¬ Plan.IsNumbered line.text := by
  cases line with
  | provider => exact Plan.not_isNumbered (c := 'd') rfl rfl
  | named aim name waits =>
    obtain ⟨rest, hrest⟩ := toList_named aim name waits
    obtain ⟨-, -, c, words, hwords, hc⟩ := words_plain aim
    rw [hwords] at hrest
    exact Plan.not_isNumbered hrest hc

end TaskLine

/-! ## 2. Tasks of the builders -/

/-- A task of a plan for the cluster, and what its line says. -/
inductive Cluster.Shows (c : Cluster) : Task → TaskLine → Prop
  | cleanUp (name : String) : Shows c (cleanUpTask name) (.named .cleanUp name false)
  | nodeGroup (wait : Bool) (stack : Stack) :
      Shows c (c.nodeGroupTask wait stack) (.named .nodeGroup stack.nodeGroupName wait)
  | role (wait : Bool) (stack : Stack) :
      Shows c (c.roleTask wait stack) (.named .role stack.accountName wait)
  | account (stack : Stack) :
      Shows c (accountTask stack) (.named .account stack.accountName false)
  | provider : Shows c providerTask .provider
  | controlPlane (wait : Bool) (stack : Stack) :
      Shows c (c.controlPlaneTask wait stack) (.named .controlPlane c.name wait)

namespace Cluster

variable {c : Cluster} {answer : (q : Request) → Except Fault q.Answer} {wait cleanUp : Bool}
  {plan : Plan Task}

/-- The line tells the description of the task and whether it is waited for. -/
theorem Shows.line {task : Task} {line : TaskLine} (h : c.Shows task line) :
    task.info = line.info ∧ task.isBlocking = line.waits := by
  cases h with
  | cleanUp | account | provider => exact ⟨rfl, rfl⟩
  | nodeGroup wait | role wait | controlPlane wait => cases wait <;> exact ⟨rfl, rfl⟩

theorem Shows.describe {task : Task} {line : TaskLine} (h : c.Shows task line) :
    task.describe = line.text := by
  rw [Task.describe, TaskLine.text, TaskLine.note, h.line.1, h.line.2]
  cases line.waits <;> simp

/-- Every task of the plan has a line that says what it is. -/
def Legible (c : Cluster) (plan : Plan Task) : Prop :=
  ∀ task ∈ plan.tasks, ∃ line, c.Shows task line

/-- A plan that is made part by part is legible, if each part is. -/
theorem legible_map {part : Stack → Plan Task} (h : ∀ stack, c.Legible (part stack))
    (mode : Mode) (nested : Bool) (members : List Stack) :
    c.Legible (.group mode nested (members.map part)) := by
  intro task htask
  rw [Plan.tasks, Plan.tasksOf_map] at htask
  obtain ⟨stack, -, htask⟩ := List.mem_flatMap.1 htask
  exact h stack task htask

theorem legible_nodeGroupPart (stack : Stack) : c.Legible (c.nodeGroupPart wait cleanUp stack) := by
  intro task htask
  rw [tasks_nodeGroupPart] at htask
  split at htask
  · rcases List.mem_cons.1 htask with rfl | htask
    · exact ⟨_, .cleanUp _⟩
    · obtain rfl := List.mem_singleton.1 htask
      exact ⟨_, .nodeGroup wait stack⟩
  · obtain rfl := List.mem_singleton.1 htask
    exact ⟨_, .nodeGroup wait stack⟩

theorem legible_accountPart (stack : Stack) : c.Legible (c.accountPart wait stack) := by
  intro task htask
  rcases List.mem_cons.1 htask with rfl | htask
  · exact ⟨_, .role wait stack⟩
  · obtain rfl : task = accountTask stack := List.mem_singleton.1 htask
    exact ⟨_, .account stack⟩

/-- What every builder makes: a legible group.  There is only one without tasks. -/
structure Made (c : Cluster) (plan : Plan Task) : Prop where
  legible : c.Legible plan
  isGroup : ∃ mode nested parts, plan = .group mode nested parts
  ofEmpty : plan.isEmpty = true → plan = .group .parallel false []

/-- A builder makes a part with tasks from each stack. -/
theorem made_map {part : Stack → Plan Task} (h : ∀ stack, c.Legible (part stack))
    (htasks : ∀ stack, (part stack).tasks ≠ []) (members : List Stack) :
    c.Made (.group .parallel false (members.map part)) where
  legible := legible_map h .parallel false members
  isGroup := ⟨_, _, _, rfl⟩
  ofEmpty hempty := by
    cases members with
    | nil => rfl
    | cons stack members =>
      exact absurd (List.append_eq_nil_iff.1 (Plan.isEmpty_iff.1 hempty)).1 (htasks stack)

/-- A builder puts a task behind other parts. -/
theorem made_append {parts : List (Plan Task)} {task : Task} {line : TaskLine}
    (hparts : ∀ task ∈ Plan.tasksOf parts, ∃ line, c.Shows task line) (hline : c.Shows task line)
    (mode : Mode) (nested : Bool) : c.Made (.group mode nested (parts ++ [.leaf task])) where
  legible other hother := by
    rw [Plan.tasks, Plan.tasksOf_append] at hother
    rcases List.mem_append.1 hother with hother | hother
    · exact hparts other hother
    · obtain rfl : other = task := List.mem_singleton.1 hother
      exact ⟨line, hline⟩
  isGroup := ⟨_, _, _, rfl⟩
  ofEmpty hempty := by
    have htasks := Plan.isEmpty_iff.1 hempty
    rw [Plan.tasks, Plan.tasksOf_append] at htasks
    exact absurd (List.append_eq_nil_iff.1 htasks).2 (List.cons_ne_nil _ _)

theorem made_deleteNodeGroups {only : Option NameSet}
    (h : (c.deleteNodeGroups only wait cleanUp).Yields answer plan) : c.Made plan := by
  obtain ⟨groups, -, rfl⟩ := deleteNodeGroups_yields.1 h
  refine made_map legible_nodeGroupPart (fun stack => ?_) _
  rw [tasks_nodeGroupPart]
  split <;> exact List.cons_ne_nil _ _

theorem made_deleteServiceAccounts {only : Option NameSet}
    (h : (c.deleteServiceAccounts only wait).Yields answer plan) : c.Made plan := by
  obtain ⟨roles, -, rfl⟩ := deleteServiceAccounts_yields.1 h
  exact made_map legible_accountPart (fun stack => List.cons_ne_nil _ _) _

theorem made_deleteProvider (h : c.deleteProvider.Yields answer plan) : c.Made plan := by
  obtain ⟨-, accounts, haccounts, rfl⟩ := deleteProvider_yields.1 h
  refine made_append ?_ .provider .sequential false
  rw [tasksOf_nestedPart]
  exact (made_deleteServiceAccounts haccounts).legible

theorem made_deleteAll (h : (c.deleteAll wait cleanUp).Yields answer plan) : c.Made plan := by
  obtain ⟨groups, identity, stack, hgroups, hidentity, -, rfl⟩ := deleteAll_yields.1 h
  refine made_append ?_ (.controlPlane wait stack) .sequential false
  rw [Plan.tasksOf_append, tasksOf_nestedPart, tasksOf_nestedPart]
  intro task htask
  rcases List.mem_append.1 htask with htask | htask
  · exact (made_deleteNodeGroups hgroups).legible task htask
  · exact (made_deleteProvider hidentity).legible task htask

end Cluster

/-- **Whatever a builder makes is legible.** -/
theorem Planner.made {p : Planner} {c : Cluster} {answer : (q : Request) → Except Fault q.Answer}
    {plan : Plan Task} (h : (p.build c).Yields answer plan) : c.Made plan := by
  cases p with
  | nodeGroups only wait cleanUp => exact Cluster.made_deleteNodeGroups h
  | accounts only wait => exact Cluster.made_deleteServiceAccounts h
  | provider => exact Cluster.made_deleteProvider h
  | whole wait cleanUp => exact Cluster.made_deleteAll h

/-! ## 3. Descriptions of plans -/

namespace Cluster.Made

variable {c c' : Cluster} {plan plan' : Plan Task}

/-- The description of a plan with tasks is cut into its lines. -/
theorem split_describe (h : c.Made plan) (hempty : plan.isEmpty = false) :
    Text.split '\n' (plan.describe Task.describe) = plan.lines Task.describe 0 := by
  refine Plan.split_describe hempty fun task htask => ?_
  obtain ⟨line, hline⟩ := h.legible task htask
  rw [hline.describe]
  exact line.newline_not_mem_text

/-- No task is described with a digit at the beginning. -/
theorem not_isNumbered (h : c.Made plan) :
    ∀ task ∈ plan.tasks, ¬ Plan.IsNumbered task.describe := by
  intro task htask
  obtain ⟨line, hline⟩ := h.legible task htask
  rw [hline.describe]
  exact line.not_isNumbered_text

/-- A plan with tasks is not described as one without. -/
theorem describe_ne (h : c.Made plan) (hempty : plan.isEmpty = false) :
    plan.describe Task.describe ≠ "no tasks" := by
  intro heq
  obtain ⟨mode, nested, parts, rfl⟩ := h.isGroup
  have hsplit := h.split_describe hempty
  have hone : Text.split '\n' "no tasks" = ["no tasks"] := by decide
  rw [heq, hone] at hsplit
  -- The first line would be the heading of the group.
  have hheading := Plan.isNumbered_heading mode nested parts.length
  have hfirst : "no tasks" = Plan.heading mode nested parts.length := by
    simpa [Plan.indentation] using (List.cons.inj hsplit).1
  exact Plan.not_isNumbered (c := 'n') rfl rfl (hfirst ▸ hheading)

/-- Two plans that are described alike have tasks with the same lines at the same places. -/
theorem alike (h : c.Made plan) (h' : c'.Made plan')
    (hdescribe : plan.describe Task.describe = plan'.describe Task.describe) :
    plan.Alike (fun task task' => task.describe = task'.describe) plan' := by
  cases hempty : plan.isEmpty with
  | true =>
    have hnone : plan.describe Task.describe = "no tasks" := by rw [Plan.describe, if_pos hempty]
    have hempty' : plan'.isEmpty = true := by
      by_contra hne
      exact h'.describe_ne (by simpa using hne) (hdescribe.symm.trans hnone)
    rw [h.ofEmpty hempty, h'.ofEmpty hempty']
    exact .group .parallel false .nil
  | false =>
    have hempty' : plan'.isEmpty = false := by
      by_contra hne
      refine h.describe_ne hempty (hdescribe.trans ?_)
      rw [Plan.describe, if_pos (by simpa using hne)]
    have hlines : plan.lines Task.describe 0 ++ [] = plan'.lines Task.describe 0 ++ [] := by
      rw [← h.split_describe hempty, ← h'.split_describe hempty', hdescribe]
    exact (Plan.alike_of_lines plan plan' h.not_isNumbered h'.not_isNumbered hlines).1

end Cluster.Made

/-- **A printed plan is legible**, whatever the names are.  The description of a plan with tasks has
one line for each node, in the order of reading, with two blanks for each group around it, and as
many lines of tasks as the plan has tasks.  Plans that are described alike, be they for one cluster
or for two, made in one way or in two, have the same groups, and at each place tasks with the same
description, about the same name, and both waited for or neither. -/
theorem plan_legible (p p' : Planner) (c c' : Cluster)
    {answer answer' : (q : Request) → Except Fault q.Answer} {plan plan' : Plan Task}
    (hplan : (p.build c).Yields answer plan) (hplan' : (p'.build c').Yields answer' plan') :
    (plan.isEmpty = false →
      Text.split '\n' (plan.describe Task.describe) =
          plan.nodes.map (fun node =>
            Plan.indentation node.1.length ++ node.2.title Task.describe) ∧
        (∀ place node, (place, node) ∈ plan.nodes ↔ plan.at? place = some node) ∧
        plan.nodes.Pairwise (fun node later => node.1 < later.1) ∧
        plan.nodes.countP (fun node => node.2.isLeaf) = plan.size) ∧
      (plan.describe Task.describe = plan'.describe Task.describe →
        plan.Alike (fun task task' => task.info = task'.info ∧ task.isBlocking = task'.isBlocking ∧
          ∃ line, c.Shows task line ∧ c'.Shows task' line) plan') := by
  have hmade := Planner.made hplan
  have hmade' := Planner.made hplan'
  refine ⟨fun hempty => ⟨?_, fun _ _ => Plan.mem_nodes, Plan.pairwise_nodes plan,
    Plan.countP_nodes plan⟩, fun hdescribe => ?_⟩
  · rw [hmade.split_describe hempty, Plan.lines_eq]
    simp only [Nat.zero_add]
  · refine Plan.Alike.imp plan plan' (fun task htask task' htask' heq => ?_)
      (hmade.alike hmade' hdescribe)
    obtain ⟨line, hline⟩ := hmade.legible task htask
    obtain ⟨line', hline'⟩ := hmade'.legible task' htask'
    rw [hline.describe, hline'.describe] at heq
    obtain rfl := TaskLine.text_inj heq
    exact ⟨hline.line.1.trans hline'.line.1.symm, hline.line.2.trans hline'.line.2.symm,
      line, hline, hline'⟩

namespace Sample

/-- A node group with a name of its own choice. -/
def nodeGroup (name : String) : Stack := workers.withTag nodeGroupNameTag name

/-- A remote side with these node groups. -/
def listing (groups : List Stack) : (request : Request) → Except Fault request.Answer
  | .describeStacks _ .nodeGroup => .ok groups
  | request => answer request

def forgedName : String := "a\" [wait]\n  delete nodegroup \"b"

def forged : Plan Task :=
  .group .parallel false [.leaf (cluster.nodeGroupTask true (nodeGroup forgedName))]

def honest : Plan Task :=
  .group .parallel false [.leaf (cluster.nodeGroupTask true (nodeGroup "a")),
    .leaf (cluster.nodeGroupTask true (nodeGroup "b"))]

end Sample

/-- A name that reads like two lines is printed in one, not as the groups it pretends to be. -/
theorem plan_legible_of_forged :
    (Text.split '\n' (Sample.forged.describe Task.describe)).length = 2 ∧
      Sample.forged.describe Task.describe ≠ Sample.honest.describe Task.describe := by
  have hforged : ((Planner.nodeGroups none true false).build Sample.cluster).Yields
      (Sample.listing [Sample.nodeGroup Sample.forgedName]) Sample.forged := rfl
  have hhonest : ((Planner.nodeGroups none true false).build Sample.cluster).Yields
      (Sample.listing [Sample.nodeGroup "a", Sample.nodeGroup "b"]) Sample.honest := rfl
  obtain ⟨hlines, halike⟩ := plan_legible (.nodeGroups none true false)
    (.nodeGroups none true false) Sample.cluster Sample.cluster hforged hhonest
  constructor
  · rw [(hlines rfl).1, List.length_map]
    rfl
  · intro heq
    cases halike heq with
    | group _ _ hparts =>
      cases hparts with
      | cons _ hrest => cases hrest

end Teardown
