/-
# The name of a node group in the name of its stack

The stack of a node group is named for its cluster and for the group, and where the stack carries
no tag the name of the group is read back from this name: it is what follows the first
`-nodegroup-`.  But the name of the cluster comes before it and may be anything.  Cut at its
dashes it may have `nodegroup` as a piece of its own, and then it is in the cluster's name that
the name of the group seems to begin (`nodeGroupName_eq`).

So the name that is read back is the right one exactly if the cluster's name has no such piece,
and only then is the stack found when its group is selected for deletion (`group_found_iff`).

The name of the group makes no difference.  It stands behind the word that the program has put in,
so whatever it holds, the first occurrence of the word is not in it.  A cluster whose name ends
with the word, or begins with it, is as bad as one that has it in the middle, since the program
joins its own dashes to the name.

Stacks with the tag are not concerned: their group has the name that the tag gives.
-/
import Teardown.Proofs.Pieces
import Teardown.Proofs.Selection

namespace Teardown

variable {cluster nodeGroup : String} {kind : StackKind} {status : StackStatus}

/-! ## 1. What is read back -/

/-- What stands between the cluster and the group, without its dashes. -/
def nodeGroupWord : String := "nodegroup"

/-- The name of the stack, as pieces each with a dash before it. -/
theorem toList_nodeGroupStackName (cluster nodeGroup : String) :
    (nodeGroupStackName cluster nodeGroup).toList = "strata".toList ++
      ((Text.splitChars '-' cluster.toList ++ [nodeGroupWord.toList]).flatMap ('-' :: ·) ++
        '-' :: nodeGroup.toList) := by
  rw [List.flatMap_append, Text.flatMap_splitChars]
  simp [nodeGroupStackName, Stack.nodeGroupInfix, nodeGroupWord]

section Pieces

variable {before later : List String}

theorem splitChars_append_word
    (hpieces : Text.split '-' cluster ++ [nodeGroupWord] = before ++ nodeGroupWord :: later) :
    Text.splitChars '-' cluster.toList ++ [nodeGroupWord.toList] =
      (before.map String.toList ++ [nodeGroupWord.toList]) ++ later.map String.toList := by
  have hmap := congrArg (List.map String.toList) hpieces
  simpa [Text.split, Function.comp_def] using hmap

theorem dash_not_mem_before
    (hpieces : Text.split '-' cluster ++ [nodeGroupWord] = before ++ nodeGroupWord :: later) :
    ∀ piece ∈ before.map String.toList, '-' ∉ piece := by
  intro piece hpiece
  have hmem : piece ∈ Text.splitChars '-' cluster.toList ++ [nodeGroupWord.toList] := by
    rw [splitChars_append_word hpieces]
    exact List.mem_append_left _ (List.mem_append_left _ hpiece)
  rcases List.mem_append.1 hmem with hmem | hmem
  · exact Text.not_mem_of_mem_splitChars hmem
  · rw [List.mem_singleton.1 hmem]
    decide

/-- The name of the stack, cut where the word comes first among the pieces. -/
theorem splitOnce?_nodeGroupStackName (nodeGroup : String)
    (hpieces : Text.split '-' cluster ++ [nodeGroupWord] = before ++ nodeGroupWord :: later)
    (hfirst : nodeGroupWord ∉ before) :
    ∃ front, Text.splitOnce? Stack.nodeGroupInfix (nodeGroupStackName cluster nodeGroup) =
      some (front, "-".intercalate (later ++ [nodeGroup])) := by
  -- After the word there is a dash, and then what the later pieces and the group make up.
  have hlater : later.map String.toList ++ [nodeGroup.toList] ≠ [] := by simp
  have hname : (nodeGroupStackName cluster nodeGroup).toList = "strata".toList ++
      ((before.map String.toList ++ [nodeGroupWord.toList]).flatMap ('-' :: ·) ++
        '-' :: ['-'].intercalate (later.map String.toList ++ [nodeGroup.toList])) := by
    rw [toList_nodeGroupStackName, splitChars_append_word hpieces, Text.cons_intercalate hlater]
    simp only [List.flatMap_append, List.flatMap_singleton, List.append_assoc]
  have hnew : nodeGroupWord.toList ∉ before.map String.toList := by
    intro hmem
    obtain ⟨piece, hpiece, heq⟩ := List.mem_map.1 hmem
    exact hfirst (String.toList_inj.1 heq ▸ hpiece)
  have hinfix : Stack.nodeGroupInfix.toList = '-' :: (nodeGroupWord.toList ++ ['-']) := by decide
  have hafter : "-".intercalate (later ++ [nodeGroup]) =
      String.ofList (['-'].intercalate (later.map String.toList ++ [nodeGroup.toList])) := by
    rw [← String.toList_inj, String.toList_ofList, String.toList_intercalate, List.map_append]
    rfl
  refine ⟨String.ofList ("strata".toList ++ (before.map String.toList).flatMap ('-' :: ·)), ?_⟩
  rw [Text.splitOnce?, hname, hinfix, Text.splitOnceChars?_skip (by decide),
    Text.splitOnceChars?_pieces (by decide) (dash_not_mem_before hpieces) hnew, hafter]
  rfl

/-- **What is read back** from the name of the stack: what follows the first piece that is the
word, be it a piece of the cluster's name or the one that comes after it. -/
theorem nodeGroupName_eq (nodeGroup : String) (kind : StackKind) (status : StackStatus)
    (hpieces : Text.split '-' cluster ++ [nodeGroupWord] = before ++ nodeGroupWord :: later)
    (hfirst : nodeGroupWord ∉ before) :
    (Stack.plain (nodeGroupStackName cluster nodeGroup) kind status).nodeGroupName =
      "-".intercalate (later ++ [nodeGroup]) := by
  obtain ⟨front, hsplit⟩ := splitOnce?_nodeGroupStackName nodeGroup hpieces hfirst
  have htag : (Stack.plain (nodeGroupStackName cluster nodeGroup) kind status).tags.get?
      nodeGroupNameTag = none := rfl
  have hname : (Stack.plain (nodeGroupStackName cluster nodeGroup) kind status).name =
      nodeGroupStackName cluster nodeGroup := rfl
  simp only [Stack.nodeGroupName, htag, hname, hsplit]

end Pieces

/-! ## 2. When it is the name of the group -/

theorem intercalate_append_ne {later : List String} (hlater : later ≠ []) (name : String) :
    "-".intercalate (later ++ [name]) ≠ name := by
  intro heq
  have hlength : (['-'].intercalate (later.map String.toList ++ [name.toList])).length =
      name.toList.length := by
    have hchars := congrArg (fun s => s.toList.length) heq
    simpa [String.toList_intercalate] using hchars
  have hnonempty : later.map String.toList ++ [name.toList] ≠ [] := by simp
  have hcons : ('-' :: ['-'].intercalate (later.map String.toList ++ [name.toList])).length = _ :=
    congrArg List.length (Text.cons_intercalate hnonempty)
  rw [List.length_cons, hlength, List.flatMap_append, List.length_append, List.flatMap_singleton,
    List.length_cons] at hcons
  have hnone : (later.map String.toList).flatMap ('-' :: ·) = [] :=
    List.length_eq_zero_iff.1 (by omega)
  cases later with
  | nil => exact hlater rfl
  | cons piece later => exact absurd hnone (by simp)

/-- **The name is read back** exactly if the name of the cluster has no piece that is the word. -/
theorem nodeGroupName_eq_iff :
    (Stack.plain (nodeGroupStackName cluster nodeGroup) kind status).nodeGroupName = nodeGroup ↔
      nodeGroupWord ∉ Text.split '-' cluster := by
  constructor
  · intro hback hmem
    obtain ⟨before, later, hpieces, hfirst⟩ := List.eq_append_cons_of_mem hmem
    have hlater : Text.split '-' cluster ++ [nodeGroupWord] =
        before ++ nodeGroupWord :: (later ++ [nodeGroupWord]) := by
      rw [hpieces, List.append_assoc, List.cons_append]
    have hname := nodeGroupName_eq nodeGroup kind status hlater hfirst
    exact intercalate_append_ne (by simp) nodeGroup (hname.symm.trans hback)
  · intro hnone
    have hpieces : Text.split '-' cluster ++ [nodeGroupWord] =
        Text.split '-' cluster ++ nodeGroupWord :: [] := rfl
    rw [nodeGroupName_eq nodeGroup kind status hpieces hnone]
    simp

/-! ## 3. Whether the stack is found -/

/-- A live stack is deleted by a plan exactly if its name is selected. -/
theorem Builder.deleted_iff {b : Builder} {c : Cluster} {only : Option NameSet} {wait : Bool}
    {listing : List Stack} {stack : Stack} (hstack : stack ∈ listing)
    (hlive : stack.isLive = true) :
    (∃ task ∈ Plan.tasksOf ((b.chosen only listing).map (b.part c wait)),
        ∃ settings, task.work = .deleteStack stack settings) ↔
      isSelected only (b.nameOf stack) = true := by
  constructor
  · rintro ⟨task, htask, hwork⟩
    obtain ⟨other, hother, htask⟩ := Builder.mem_tasksOf_chosen.1 htask
    rw [← Builder.nameOf_of_concerns htask (.inl hwork)]
    exact (List.mem_filter.1 hother).2
  · exact fun hname => Builder.exists_deletion hname hstack hlive

/-- **A group is found by its name** exactly if no piece of the cluster's name is the word: then
its name is read back from that of its stack, and a plan that is made for this group alone deletes
the stack. -/
theorem group_found_iff (cluster nodeGroup : String) (kind : StackKind) (status : StackStatus) :
    let stack := Stack.plain (nodeGroupStackName cluster nodeGroup) kind status
    (stack.nodeGroupName = nodeGroup ↔ nodeGroupWord ∉ Text.split '-' cluster) ∧
      ∀ (c : Cluster) (wait cleanUp : Bool) {answer : (q : Request) → Except Fault q.Answer}
        {listing : List Stack}, answer (.describeStacks c.name .nodeGroup) = .ok listing →
        stack ∈ listing → stack.isLive = true →
        ∃ records parts, (c.deleteNodeGroups (some (.ofList [nodeGroup])) wait cleanUp).answered
            answer = (records, some (.ok (.group .parallel false parts))) ∧
          ((∃ task ∈ Plan.tasksOf parts, ∃ settings, task.work = .deleteStack stack settings) ↔
            nodeGroupWord ∉ Text.split '-' cluster) := by
  intro stack
  refine ⟨nodeGroupName_eq_iff, fun c wait cleanUp answer listing hlisting hstack hlive => ?_⟩
  refine ⟨_, _, (Builder.nodeGroups cleanUp).answered_build c _ wait hlisting, ?_⟩
  have hselected : isSelected (some (.ofList [nodeGroup])) stack.nodeGroupName = true ↔
      stack.nodeGroupName = nodeGroup := by
    simp [isSelected, NameSet.mem_ofList]
  exact (Builder.deleted_iff hstack hlive).trans (hselected.trans nodeGroupName_eq_iff)

/-- The group of the sample cluster is found: a plan for it alone deletes its stack. -/
theorem group_found_workers :
    Sample.workers.nodeGroupName = "workers" ∧
      ∃ records parts,
        (Sample.cluster.deleteNodeGroups (some (.ofList ["workers"])) true false).answered
            Sample.answer = (records, some (.ok (.group .parallel false parts))) ∧
          ∃ task ∈ Plan.tasksOf parts, ∃ settings,
            task.work = .deleteStack Sample.workers settings := by
  have hnone : nodeGroupWord ∉ Text.split '-' "demo" := by decide
  have hlisting : Sample.answer (.describeStacks Sample.cluster.name .nodeGroup) =
      .ok [Sample.workers] := rfl
  obtain ⟨hname, hfound⟩ := group_found_iff "demo" "workers" .nodeGroup .createComplete
  obtain ⟨records, parts, hanswered, hdeleted⟩ :=
    hfound Sample.cluster true false hlisting List.mem_cons_self (by decide)
  exact ⟨hname.2 hnone, records, parts, hanswered, hdeleted.2 hnone⟩

namespace Sample

/-- The stack of the group `workers` of a cluster whose name has the word between its dashes. -/
def mistaken : Stack :=
  .plain (nodeGroupStackName "prod-nodegroup-eu" "workers") .nodeGroup .createComplete

end Sample

/-- Of this stack another name is read back, and its group is not found. -/
theorem group_mistaken : Sample.mistaken.nodeGroupName = "eu-nodegroup-workers" ∧
    ¬ ∀ cluster nodeGroup, (Stack.plain (nodeGroupStackName cluster nodeGroup) .nodeGroup
      .createComplete).nodeGroupName = nodeGroup :=
  ⟨by decide, fun h => absurd (h "prod-nodegroup-eu" "workers") (by decide)⟩

end Teardown
