/-
# What a selection comes to

Node groups and service accounts can be deleted by a selection of names.  Either builder lists the
stacks of its kind, leaves out those that are gone, and compares the names of the others with the
selection; it warns of names without a stack, and it notes the stacks that it passes over.  The
names are read from the tags or from the names of the stacks, so several stacks may go by one
name.

`selection_partitions` says that nothing is lost between these steps, whatever is listed and
whatever is selected.  The parts of the plan belong to the chosen stacks, one to one and in their
order.  Each stack that is passed over has one record and no task.  Each selected name is found,
and then every stack of that name is deleted, or it is warned of once.

* §1  both builders are alike up to the kind of the stacks, the names, the records and the part
      for one stack.  So they are treated as one, a `Builder` (`Builder.answered_build`).
* §2  only what is said of one part goes by cases (`Builder.isPart_part`,
      `Builder.work_of_mem_part`).
* §3  the records: which of them are notes, which are warnings, and how often each is made.
* §4  the partition, and a selection of two node groups out of three.

It is about a listing that came.  Where the listing fails there is no plan
(`Teardown.Proofs.Inquiry`).
-/
import Mathlib.Data.List.Count
import Teardown.Proofs.Coverage
import Teardown.Proofs.Orphans

namespace Teardown

/-! ## 1. The two builders -/

/-- A task has to do with a stack that goes by a name. -/
def Task.Concerns (task : Task) (stack : Stack) (name : String) : Prop :=
  (∃ settings, task.work = .deleteStack stack settings) ∨ task.work = .cleanUp name ∨
    task.work = .deleteAccount name

/-- The builders that take a selection. -/
inductive Builder
  | nodeGroups (cleanUp : Bool)
  | accounts

namespace Builder

def kind : Builder → StackKind
  | nodeGroups _ => .nodeGroup
  | accounts => .serviceAccount

def nameOf : Builder → Stack → String
  | nodeGroups _ => Stack.nodeGroupName
  | accounts => Stack.accountName

def build (c : Cluster) (only : Option NameSet) (wait : Bool) : Builder → Action (Plan Task)
  | nodeGroups cleanUp => c.deleteNodeGroups only wait cleanUp
  | accounts => c.deleteServiceAccounts only wait

/-- The part of the plan for one stack. -/
def part (c : Cluster) (wait : Bool) : Builder → Stack → Plan Task
  | nodeGroups cleanUp => c.nodeGroupPart wait cleanUp
  | accounts => c.accountPart wait

def records (only : Option NameSet) : Builder → Stack → List Record
  | nodeGroups cleanUp => Cluster.nodeGroupRecords only cleanUp
  | accounts => Cluster.accountRecords only

/-- The record about a stack that is passed over. -/
def skipped : Builder → String → Record
  | nodeGroups _, name =>
    ⟨.info, planningTarget, "Skipping nodegroup not selected for deletion",
      [("nodegroup", .text name)]⟩
  | accounts, name =>
    ⟨.info, planningTarget, "Skipping serviceaccount not selected for deletion",
      [("serviceaccount", .text name)]⟩

def warning (b : Builder) (name : String) : Record :=
  ⟨.warn, planningTarget, "Requested for deletion but no stack exists",
    [("kind", .text b.kind.text), ("name", .text name)]⟩

/-- The live stacks of a listing that are selected by their names. -/
def chosen (b : Builder) (only : Option NameSet) (listing : List Stack) : List Stack :=
  (listing.filter Stack.isLive).filter fun stack => isSelected only (b.nameOf stack)

/-- The live stacks of a listing that are not. -/
def passedOver (b : Builder) (only : Option NameSet) (listing : List Stack) : List Stack :=
  (listing.filter Stack.isLive).filter fun stack => !isSelected only (b.nameOf stack)

/-- All records about a listing: how long it is, the warnings, and what is said of each live stack. -/
def said (b : Builder) (c : Cluster) (only : Option NameSet) (listing : List Stack) : List Record :=
  c.described b.kind listing.length (listing.filter Stack.isLive).length ::
    (unmatched only ((listing.filter Stack.isLive).map b.nameOf) b.kind.text ++
      (listing.filter Stack.isLive).flatMap (b.records only))

variable {b : Builder} {c : Cluster} {only : Option NameSet} {wait : Bool} {listing : List Stack}
  {stack other : Stack} {task : Task} {name : String} {names : NameSet} {found : List String}

/-- **A builder, written out**: the records that it makes, and the plan, from a listing of stacks. -/
theorem answered_build (b : Builder) (c : Cluster) (only : Option NameSet) (wait : Bool)
    {answer : (q : Request) → Except Fault q.Answer}
    (hlisting : answer (.describeStacks c.name b.kind) = .ok listing) :
    (b.build c only wait).answered answer = (b.said c only listing,
      some (.ok (.group .parallel false ((b.chosen only listing).map (b.part c wait))))) := by
  cases b with
  | accounts => exact Cluster.answered_deleteServiceAccounts only wait hlisting
  | nodeGroups cleanUp =>
    have hgroups : answer (.describeStacks c.name .nodeGroup) = .ok listing := hlisting
    simp only [build, Cluster.deleteNodeGroups, Cluster.nodeGroups, Cluster.liveStacks,
      Request.send, Activity.request, Activity.say, bind, pure, Activity.bind, Activity.answered,
      hgroups, Activity.ofExcept, Outcome.ofExcept, Activity.pure]
    rw [Activity.answered_sayAll, Activity.answered, List.append_nil]
    rfl

/-! ## 2. The part for one stack -/

/-- The part of a plan for one stack, as it should be.  A node group that is stuck is cleaned up
before its deletion, if that is wanted, and any other is only deleted.  The role of an account is
deleted, and then the account. -/
def IsPart (b : Builder) (c : Cluster) (wait : Bool) (stack : Stack) (part : Plan Task) : Prop :=
  match b with
  | nodeGroups cleanUp =>
    (part = .group .sequential true [.leaf (Cluster.cleanUpTask stack.nodeGroupName),
        .leaf (c.nodeGroupTask wait stack)] ↔
      stack.status = .deleteFailed ∧ cleanUp = true) ∧
    (part = .leaf (c.nodeGroupTask wait stack) ↔
      ¬ (stack.status = .deleteFailed ∧ cleanUp = true))
  | accounts =>
    part = .group .sequential true
      [.leaf (c.roleTask wait stack), .leaf (Cluster.accountTask stack)]

/-- The builders make parts as they should be. -/
theorem isPart_part (b : Builder) (c : Cluster) (wait : Bool) (stack : Stack) :
    b.IsPart c wait stack (b.part c wait stack) := by
  cases b with
  | accounts => rfl
  | nodeGroups cleanUp =>
    have hneeds : Cluster.needsCleanUp stack cleanUp = true ↔
        stack.status = .deleteFailed ∧ cleanUp = true := by
      simp [Cluster.needsCleanUp, and_comm]
    simp only [IsPart, part, Cluster.nodeGroupPart, ← hneeds]
    split <;> simp [*]

/-- What the tasks for one stack do: they delete this stack, or they deal with what has its name. -/
theorem work_of_mem_part (h : task ∈ (b.part c wait stack).tasks) :
    task.work = .deleteStack stack (if wait then some c.wait else none) ∨
      task.work = .cleanUp (b.nameOf stack) ∨ task.work = .deleteAccount (b.nameOf stack) := by
  cases b with
  | nodeGroups cleanUp =>
    rw [part, Cluster.tasks_nodeGroupPart] at h
    split at h
    · rcases List.mem_pair.1 h with rfl | rfl
      · exact .inr (.inl rfl)
      · exact .inl rfl
    · obtain rfl := List.mem_singleton.1 h
      exact .inl rfl
  | accounts =>
    rcases List.mem_pair.1 (h : task ∈ [c.roleTask wait stack, Cluster.accountTask stack]) with
      rfl | rfl
    · exact .inl rfl
    · exact .inr (.inr rfl)

theorem exists_deletion_part (b : Builder) (c : Cluster) (wait : Bool) (stack : Stack) :
    ∃ task ∈ (b.part c wait stack).tasks,
      task.work = .deleteStack stack (if wait then some c.wait else none) := by
  cases b with
  | nodeGroups cleanUp =>
    refine ⟨c.nodeGroupTask wait stack, ?_, rfl⟩
    rw [part, Cluster.tasks_nodeGroupPart]
    split <;> simp
  | accounts => exact ⟨c.roleTask wait stack, List.mem_cons_self, rfl⟩

/-- A task in the part for one stack has nothing to do with stacks of other names. -/
theorem nameOf_of_concerns (h : task ∈ (b.part c wait other).tasks)
    (hconcerns : task.Concerns stack (b.nameOf stack)) : b.nameOf other = b.nameOf stack := by
  -- Each kind of work leaves one way to have to do with the stack.
  rcases work_of_mem_part h with hwork | hwork | hwork
  · have hsame : other = stack := by simpa [Task.Concerns, hwork] using hconcerns
    rw [hsame]
  · simpa [Task.Concerns, hwork] using hconcerns
  · simpa [Task.Concerns, hwork] using hconcerns

/-! ## 3. The records -/

/-- The records about one stack: a note if it is passed over, and no warning. -/
theorem filter_records (b : Builder) (only : Option NameSet) (stack : Stack) :
    (b.records only stack).filter (fun record => record.level = .info) =
      if isSelected only (b.nameOf stack) then [] else [b.skipped (b.nameOf stack)] := by
  cases b with
  | nodeGroups cleanUp =>
    change (Cluster.nodeGroupRecords only cleanUp stack).filter _ =
      if isSelected only stack.nodeGroupName then _ else _
    unfold Cluster.nodeGroupRecords
    cases isSelected only stack.nodeGroupName with
    | false => rfl
    | true => cases Cluster.needsCleanUp stack cleanUp <;> rfl
  | accounts =>
    change (Cluster.accountRecords only stack).filter _ =
      if isSelected only stack.accountName then _ else _
    unfold Cluster.accountRecords
    cases isSelected only stack.accountName <;> rfl

theorem level_of_mem_records {record : Record} (h : record ∈ b.records only stack) :
    record.level ≠ .warn := by
  cases b with
  | nodeGroups cleanUp =>
    simp only [records, Cluster.nodeGroupRecords] at h
    split at h
    · rw [List.mem_singleton.1 h]
      exact Level.noConfusion
    · split at h
      · rw [List.mem_singleton.1 h]
        exact Level.noConfusion
      · exact absurd h List.not_mem_nil
  | accounts =>
    simp only [records, Cluster.accountRecords] at h
    split at h
    · exact absurd h List.not_mem_nil
    · rw [List.mem_singleton.1 h]
      exact Level.noConfusion

theorem filter_flatMap_records (b : Builder) (only : Option NameSet) (live : List Stack) :
    (live.flatMap (b.records only)).filter (fun record => record.level = .info) =
      (live.filter fun stack => !isSelected only (b.nameOf stack)).map
        fun stack => b.skipped (b.nameOf stack) := by
  induction live with
  | nil => rfl
  | cons stack live ih =>
    rw [List.flatMap_cons, List.filter_append, filter_records, ih, List.filter_cons]
    cases isSelected only (b.nameOf stack) <;> rfl

/-- What is said of selected names are warnings of names that are selected and not found. -/
theorem mem_unmatched_iff {record : Record} :
    record ∈ unmatched only found b.kind.text ↔
      ∃ names, only = some names ∧ ∃ name ∈ names, name ∉ found ∧ record = b.warning name := by
  cases only with
  | none => simp [unmatched]
  | some names =>
    simp only [unmatched, List.mem_map, ← NameSet.mem_iff, NameSet.mem_diff, NameSet.mem_ofList,
      Option.some.injEq, exists_eq_left', and_assoc, warning, eq_comm]

/-- **A selected name is warned of once**, or not at all if it is found. -/
theorem count_unmatched (b : Builder) (hname : name ∈ names) :
    (unmatched (some names) found b.kind.text).count (b.warning name) =
      if name ∈ found then 0 else 1 := by
  have hinjective : Function.Injective b.warning := by
    intro name name' h
    simpa [warning] using h
  -- A set of names holds each name once.
  have hnodup : (names.diff (.ofList found)).toList.Nodup := by
    refine (names.diff (.ofList found)).increasing.imp ?_
    rintro name _ hlt rfl
    exact String.lt_irrefl name hlt
  have hmem : name ∈ (names.diff (.ofList found)).toList ↔ name ∉ found := by
    rw [← NameSet.mem_iff, NameSet.mem_diff, NameSet.mem_ofList]
    exact and_iff_right hname
  change ((names.diff (.ofList found)).toList.map b.warning).count (b.warning name) = _
  rw [List.count_map_of_injective _ _ hinjective, hnodup.count]
  simp only [hmem, ite_not]

/-- **What is noted**: the stacks that are passed over, one by one in the order of the listing. -/
theorem filter_said (b : Builder) (c : Cluster) (only : Option NameSet) (listing : List Stack) :
    (b.said c only listing).filter (fun record => record.level = .info) =
      (b.passedOver only listing).map fun stack => b.skipped (b.nameOf stack) := by
  have hnames : (unmatched only ((listing.filter Stack.isLive).map b.nameOf) b.kind.text).filter
      (fun record => record.level = .info) = [] := by
    refine List.filter_eq_nil_iff.2 fun record hrecord => ?_
    obtain ⟨names, -, name, -, -, rfl⟩ := mem_unmatched_iff.1 hrecord
    simp [warning]
  rw [said, List.filter_cons_of_neg (by simp [Cluster.described]), List.filter_append, hnames,
    List.nil_append, filter_flatMap_records]
  rfl

theorem mem_unmatched_of_warn {record : Record} (h : record ∈ b.said c only listing)
    (hlevel : record.level = .warn) :
    record ∈ unmatched only ((listing.filter Stack.isLive).map b.nameOf) b.kind.text := by
  rcases List.mem_cons.1 h with rfl | h
  · exact absurd hlevel (by simp [Cluster.described])
  · rcases List.mem_append.1 h with h | h
    · exact h
    · obtain ⟨stack, -, h⟩ := List.mem_flatMap.1 h
      exact absurd hlevel (level_of_mem_records h)

/-- **What is warned of**: each selected name that no live stack has, once. -/
theorem count_said (b : Builder) (c : Cluster) (listing : List Stack) (hname : name ∈ names) :
    (b.said c (some names) listing).count (b.warning name) =
      if name ∈ (listing.filter Stack.isLive).map b.nameOf then 0 else 1 := by
  have hrest : b.warning name ∉ (listing.filter Stack.isLive).flatMap (b.records (some names)) := by
    intro hmem
    obtain ⟨stack, -, hmem⟩ := List.mem_flatMap.1 hmem
    exact level_of_mem_records hmem rfl
  rw [said, List.count_cons_of_ne (by simp [Cluster.described, warning]), List.count_append,
    b.count_unmatched hname, List.count_eq_zero_of_not_mem hrest, Nat.add_zero]

/-! ## 4. The partition -/

/-- How the stacks of a listing and the names of a selection come out in the records about a plan and
in its parts. -/
structure Partition (b : Builder) (c : Cluster) (only : Option NameSet) (wait : Bool)
    (listing : List Stack) (records : List Record) (parts : List (Plan Task)) : Prop where
  /-- Each chosen stack has a part, in the order of the listing, and there are no other parts. -/
  chosen : List.Forall₂ (b.IsPart c wait) (b.chosen only listing) parts
  /-- Each stack that is passed over has one record, in the order of the listing … -/
  skipped : records.filter (fun record => record.level = .info) =
    (b.passedOver only listing).map fun stack => b.skipped (b.nameOf stack)
  /-- … and no task has to do with it. -/
  spared : ∀ stack ∈ b.passedOver only listing, ∀ task ∈ Plan.tasksOf parts,
    ¬ task.Concerns stack (b.nameOf stack)
  /-- Each selected name is that of a live stack, and all stacks of that name are deleted, or it is
  warned of, once. -/
  named : ∀ names, only = some names → ∀ name ∈ names,
    ((∃ stack ∈ listing, stack.isLive ∧ b.nameOf stack = name) ∧
        (∀ stack ∈ listing, stack.isLive → b.nameOf stack = name →
          ∃ task ∈ Plan.tasksOf parts, ∃ settings, task.work = .deleteStack stack settings) ∧
        records.count (b.warning name) = 0) ∨
      ((∀ stack ∈ listing, stack.isLive → b.nameOf stack ≠ name) ∧
        records.count (b.warning name) = 1)
  /-- Nothing else is warned of. -/
  warned : ∀ record ∈ records, record.level = .warn →
    ∃ names, only = some names ∧ ∃ name ∈ names, record = b.warning name
  /-- The deletion of a stack is waited for exactly if that is wanted. -/
  waits : ∀ task ∈ Plan.tasksOf parts, ∀ stack settings, task.work = .deleteStack stack settings →
    (task.isBlocking = true ↔ wait = true) ∧
    task.action = if wait then stack.deleteAndWait c.wait else Task.requestDeletion stack

theorem mem_tasksOf_chosen :
    task ∈ Plan.tasksOf ((b.chosen only listing).map (b.part c wait)) ↔
      ∃ stack ∈ b.chosen only listing, task ∈ (b.part c wait stack).tasks := by
  rw [Plan.tasksOf_map, List.mem_flatMap]

theorem not_concerns_of_passedOver (hstack : stack ∈ b.passedOver only listing)
    (htask : task ∈ Plan.tasksOf ((b.chosen only listing).map (b.part c wait))) :
    ¬ task.Concerns stack (b.nameOf stack) := by
  intro hconcerns
  obtain ⟨other, hother, htask⟩ := mem_tasksOf_chosen.1 htask
  have hselected : isSelected only (b.nameOf other) = true := (List.mem_filter.1 hother).2
  have hnot : (!isSelected only (b.nameOf stack)) = true := (List.mem_filter.1 hstack).2
  rw [← nameOf_of_concerns htask hconcerns, hselected] at hnot
  exact Bool.noConfusion hnot

theorem exists_deletion (hname : isSelected only (b.nameOf stack) = true) (hstack : stack ∈ listing)
    (hlive : stack.isLive = true) :
    ∃ task ∈ Plan.tasksOf ((b.chosen only listing).map (b.part c wait)),
      ∃ settings, task.work = .deleteStack stack settings := by
  obtain ⟨task, htask, hwork⟩ := b.exists_deletion_part c wait stack
  have hchosen : stack ∈ b.chosen only listing :=
    List.mem_filter.2 ⟨List.mem_filter.2 ⟨hstack, hlive⟩, hname⟩
  exact ⟨task, mem_tasksOf_chosen.2 ⟨stack, hchosen, htask⟩, _, hwork⟩

/-- A deletion in the plan is waited for exactly if that is wanted. -/
theorem waits_iff {settings : Option WaitSettings}
    (htask : task ∈ Plan.tasksOf ((b.chosen only listing).map (b.part c wait)))
    (hwork : task.work = .deleteStack stack settings) :
    (task.isBlocking = true ↔ wait = true) ∧
      task.action = if wait then stack.deleteAndWait c.wait else Task.requestDeletion stack := by
  obtain ⟨other, -, htask⟩ := mem_tasksOf_chosen.1 htask
  rcases work_of_mem_part htask with hother | hother | hother
  · rw [Task.isBlocking, Task.action, hwork]
    obtain ⟨-, rfl⟩ := Work.deleteStack.inj (hwork.symm.trans hother)
    cases wait <;> simp
  · exact absurd (hwork.symm.trans hother) (by simp)
  · exact absurd (hwork.symm.trans hother) (by simp)

/-- Whatever is listed and whatever is selected, the records and the parts of the plan are those of a
partition. -/
theorem partition (b : Builder) (c : Cluster) (only : Option NameSet) (wait : Bool)
    (listing : List Stack) :
    b.Partition c only wait listing (b.said c only listing)
      ((b.chosen only listing).map (b.part c wait)) where
  chosen := List.forall₂_map_right_iff.2 (List.forall₂_same.2 fun stack _ =>
    b.isPart_part c wait stack)
  skipped := b.filter_said c only listing
  spared _ hstack _ htask := not_concerns_of_passedOver hstack htask
  named := by
    rintro names rfl name hname
    have hcarried : name ∈ (listing.filter Stack.isLive).map b.nameOf ↔
        ∃ stack ∈ listing, stack.isLive ∧ b.nameOf stack = name := by
      simp only [List.mem_map, List.mem_filter, and_assoc]
    rw [b.count_said c listing hname]
    by_cases hfound : name ∈ (listing.filter Stack.isLive).map b.nameOf
    · refine .inl ⟨hcarried.1 hfound, ?_, if_pos hfound⟩
      rintro stack hstack hlive rfl
      exact exists_deletion (decide_eq_true hname) hstack hlive
    · refine .inr ⟨fun stack hstack hlive hsame => ?_, if_neg hfound⟩
      exact hfound (hcarried.2 ⟨stack, hstack, hlive, hsame⟩)
  warned record hrecord hlevel := by
    obtain ⟨names, honly, name, hname, -, rfl⟩ :=
      mem_unmatched_iff.1 (mem_unmatched_of_warn hrecord hlevel)
    exact ⟨names, honly, name, hname, rfl⟩
  waits _ htask _ _ hwork := waits_iff htask hwork

end Builder

/-- **A selection partitions the stacks and the names.**  Whatever stacks are listed and whatever names
are selected, there is a plan, with its parts side by side; each live stack has a part of the plan if
it is selected, and one record and no task if it is not; and each selected name is found and deleted,
or warned of once. -/
theorem selection_partitions (b : Builder) (c : Cluster) (only : Option NameSet) (wait : Bool)
    {answer : (q : Request) → Except Fault q.Answer} {listing : List Stack}
    (hlisting : answer (.describeStacks c.name b.kind) = .ok listing) :
    ∃ records parts, (b.build c only wait).answered answer =
        (records, some (.ok (.group .parallel false parts))) ∧
      b.Partition c only wait listing records parts :=
  ⟨_, _, b.answered_build c only wait hlisting, b.partition c only wait listing⟩

namespace Sample

def groups : List Stack :=
  [.plain (nodeGroupStackName "demo" "a") .nodeGroup .deleteComplete,
   .plain (nodeGroupStackName "demo" "b") .nodeGroup .deleteFailed, workers]

def groupAnswer : (request : Request) → Except Fault request.Answer
  | .describeStacks _ .nodeGroup => .ok groups
  | request => answer request

def groupsOnly : Option NameSet := some (.ofList ["a", "b"])

end Sample

/-- Of three node groups the one that is stuck is deleted, and the one in use is passed over; the one
that is gone is warned of, for its name is selected. -/
theorem selection_partitions_of_groups :
    Sample.groupAnswer (.describeStacks Sample.cluster.name .nodeGroup) = .ok Sample.groups ∧
      ∃ records parts,
        ((Builder.nodeGroups true).build Sample.cluster Sample.groupsOnly false).answered
            Sample.groupAnswer = (records, some (.ok (.group .parallel false parts))) ∧
          parts.length = 1 ∧
          (records.filter fun record => record.level = .info) =
            [(Builder.nodeGroups true).skipped "workers"] ∧
          records.count ((Builder.nodeGroups true).warning "a") = 1 ∧
          records.count ((Builder.nodeGroups true).warning "b") = 0 := by
  have hlisting : Sample.groupAnswer (.describeStacks Sample.cluster.name .nodeGroup) =
      .ok Sample.groups := rfl
  obtain ⟨records, parts, hbuild, hpartition⟩ :=
    selection_partitions (.nodeGroups true) Sample.cluster Sample.groupsOnly false hlisting
  have hnames : ((Builder.nodeGroups true).chosen Sample.groupsOnly Sample.groups).length = 1 ∧
      ((Builder.nodeGroups true).passedOver Sample.groupsOnly Sample.groups).map
        Stack.nodeGroupName = ["workers"] ∧
      (Sample.groups.filter Stack.isLive).map Stack.nodeGroupName = ["b", "workers"] := by
    decide +kernel
  obtain ⟨hchosen, hpassedOver, hlive⟩ := hnames
  have hcarried (name : String) : (∃ stack ∈ Sample.groups, stack.isLive ∧
      stack.nodeGroupName = name) ↔ name ∈ ["b", "workers"] := by
    simp only [← hlive, List.mem_map, List.mem_filter, and_assoc]
  have hlength : parts.length = 1 := hpartition.chosen.length_eq.symm.trans hchosen
  refine ⟨hlisting, records, parts, hbuild, hlength, ?_, ?_, ?_⟩
  · rw [hpartition.skipped, ← List.map_singleton, ← hpassedOver, List.map_map]
    rfl
  · obtain ⟨hfound, -⟩ | ⟨-, hcount⟩ := hpartition.named _ rfl "a" (by decide)
    · exact absurd ((hcarried "a").1 hfound) (by decide)
    · exact hcount
  · obtain ⟨-, -, hcount⟩ | ⟨hmissing, -⟩ := hpartition.named _ rfl "b" (by decide)
    · exact hcount
    · obtain ⟨stack, hstack, hexists, hname⟩ := (hcarried "b").2 (by decide)
      exact absurd hname (hmissing stack hstack hexists)

end Teardown
