/-
# What a failed run reports

The failures of a run that ended with a fault are put together from blocks, one for each node, in
the order of the plan (`Plan.nodes`).  A task that was begun and failed has its own failures as
its block; a part of a parallel group whose panic was caught has one internal error; a task or a
sequential group that refused to go on has one cancellation (`block`).  Every other node has
nothing: in particular a task that ended well, and a task that was never begun.

`failures_complete` says that nothing else is reported, nothing is lost and nothing is reported
twice, and that a node refuses only if the run was cancelled.  Here a node is judged by what was
seen of it: whether its task was begun, and how it ended.

* §1, §2  blocks, and how the blocks of a group are those of its parts with the place of each part
  put in front.
* §3  when a node has ended, and when it refused: what can be read off its events is what the run
      says (`Traced.endAt_eq`, `Traced.leaf_cases`, `Traced.refuses_sequential`).
* §4  the failures of a run that is closed, by induction on the plan.  A group adds its own
      refusal to the shares of its parts (`Stands.failures_eq`), and `Traced.blocks` compares that
      with the blocks.
* §5  the same for whole runs.  Blocks depend on the work alone, so records make no difference.

The failures inside a fault are taken apart completely, so a task that fails with a collection of
its own adds all of them, in their order.
-/
import Mathlib.Data.List.Basic
import Teardown.Proofs.Reach

namespace Teardown

open Run

/-! ## 1. Blocks -/

/-- How a node has ended, if it has. -/
def endAt (place : Place) (events : List RunEvent) : Option (Outcome Unit) :=
  ((occurrencesAt place events).filterMap Occurrence.end?).head?

/-- Whether a task was begun at a place. -/
def begunAt (place : Place) (events : List RunEvent) : Bool :=
  (occurrencesAt place events).any Occurrence.isBegan

/-- The failures in an outcome, with all collections taken apart. -/
def Outcome.failures : Outcome Unit → List Fault
  | .ok _ => []
  | .fault cause => cause.failures
  | .panic _ => []

/-- Whether a node refused to go on: a task that ended without having begun, or a sequential group
that failed although none of its parts did. -/
def refuses (events : List RunEvent) : Place × Plan Task → Bool
  | (place, .leaf _) => (endAt place events).isSome && !begunAt place events
  | (place, .group .sequential _ parts) =>
    match endAt place events with
    | some (.fault _) =>
      (List.range parts.length).all fun i =>
        ((endAt (place ++ [i]) events).map Outcome.isOk).getD true
    | _ => false
  | (_, .group .parallel _ _) => false

/-- The block of a node by itself. -/
def ownBlock (events : List RunEvent) : Place × Plan Task → List Fault
  | (place, .leaf task) =>
    if refuses events (place, .leaf task) then [.cancelled task.info]
    else ((endAt place events).map Outcome.failures).getD []
  | (place, .group mode nested parts) =>
    if refuses events (place, .group mode nested parts) then [.cancelled "sequential task tree"]
    else []

/-- The block of a part of a group: its panic, if the group is parallel. -/
def caughtBlock (mode : Mode) (index : Nat) : Option (Outcome Unit) → List Fault
  | some (.panic text) =>
    match mode with
    | .parallel =>
      [.internal "executor"
        ("task " ++ toString index ++ " panicked: " ++ text.getD "unknown panic")]
    | .sequential => []
  | _ => []

/-- The block of a node. -/
def block (plan : Plan Task) (events : List RunEvent) (x : Place × Plan Task) : List Fault :=
  match x.1.getLast?, plan.at? x.1.dropLast with
  | some index, some (.group mode _ _) =>
    caughtBlock mode index (endAt x.1 events) ++ ownBlock events x
  | _, _ => ownBlock events x

/-! ## 2. Blocks of a part -/

theorem endAt_cons (i : Nat) (place : Place) (events : List RunEvent) :
    endAt (i :: place) events = endAt place (within i events) := by
  rw [endAt, occurrencesAt_cons, endAt]

theorem begunAt_cons (i : Nat) (place : Place) (events : List RunEvent) :
    begunAt (i :: place) events = begunAt place (within i events) := by
  rw [begunAt, occurrencesAt_cons, begunAt]

theorem refuses_cons (i : Nat) (place : Place) (node : Plan Task) (events : List RunEvent) :
    refuses events (i :: place, node) = refuses (within i events) (place, node) := by
  cases node with
  | leaf task => simp only [refuses, endAt_cons, begunAt_cons]
  | group mode nested parts =>
    cases mode with
    | sequential => simp only [refuses, endAt_cons, List.cons_append]
    | parallel => rfl

theorem ownBlock_cons (i : Nat) (place : Place) (node : Plan Task) (events : List RunEvent) :
    ownBlock events (i :: place, node) = ownBlock (within i events) (place, node) := by
  cases node with
  | leaf task => simp only [ownBlock, refuses_cons, endAt_cons]
  | group mode nested parts => simp only [ownBlock, refuses_cons]

theorem block_root (plan : Plan Task) (events : List RunEvent) (node : Plan Task) :
    block plan events ([], node) = ownBlock events ([], node) := rfl

/-- The root of a part has a block for its panic, and then its own. -/
theorem block_part {mode : Mode} {nested : Bool} {parts : List (Plan Task)} (i : Nat)
    (node : Plan Task) (events : List RunEvent) :
    block (.group mode nested parts) events ([i], node) =
      caughtBlock mode i (endAt [] (within i events)) ++ ownBlock (within i events) ([], node) := by
  rw [← endAt_cons, ← ownBlock_cons]
  rfl

/-- Within a part the blocks are those of the part. -/
theorem block_inside {mode : Mode} {nested : Bool} {parts : List (Plan Task)} {part : Plan Task}
    {i : Nat} (hpart : parts[i]? = some part) {place : Place} (hplace : place ≠ [])
    (node : Plan Task) (events : List RunEvent) :
    block (.group mode nested parts) events (i :: place, node) =
      block part (within i events) (place, node) := by
  obtain ⟨k, place, rfl⟩ := List.exists_cons_of_ne_nil hplace
  have hat : (Plan.group mode nested parts).at? (i :: (k :: place).dropLast) =
      part.at? (k :: place).dropLast := Plan.at?_inside hpart _
  simp only [block, List.getLast?_cons_cons, List.dropLast_cons_cons, endAt_cons i,
    ownBlock_cons i, hat]

/-- The blocks of all nodes of a part. -/
theorem blocks_part {mode : Mode} {nested : Bool} {parts : List (Plan Task)} {part : Plan Task}
    {i : Nat} (hpart : parts[i]? = some part) (events : List RunEvent) :
    part.nodes.flatMap (fun x => block (.group mode nested parts) events (i :: x.1, x.2)) =
      caughtBlock mode i (endAt [] (within i events)) ++
        part.nodes.flatMap (block part (within i events)) := by
  have hinner : ∀ x ∈ part.nodes.tail, x.1 ≠ [] := fun _ => Plan.place_ne_nil_of_mem_tail
  obtain ⟨rest, hrest⟩ : ∃ rest, part.nodes = ([], part) :: rest := Plan.nodes_eq_cons part
  rw [hrest] at hinner ⊢
  rw [List.flatMap_cons, List.flatMap_cons, block_part, block_root, List.append_assoc]
  refine congrArg (_ ++ ·) (congrArg (_ ++ ·) ?_)
  refine List.flatMap_congr fun x hx => ?_
  exact block_inside hpart (hinner x hx) x.2 events

/-! ## 3. Ends of nodes -/

section Traced

variable {mayRefuse : Prop} {plan : Plan Task} {run : Run} {events own : List RunEvent}

/-- What a group itself does is to end, when its run is closed. -/
theorem Stands.endAt_eq {mode : Mode} {parts : List Run} (h : Stands mayRefuse mode parts run own) :
    endAt [] own = run.outcome? := by
  cases h with
  | underWay index current rest hcurrent => rfl
  | apart => rfl
  | done | refused | stopped | settled => rw [endAt, occurrencesAt_here]; rfl

/-- What happens in the parts of a group does not happen at its own place. -/
theorem occurrencesAt_parts {count : Nat}
    (h : ∀ e ∈ events, ∃ i place, e.place = i :: place ∧ i < count) :
    occurrencesAt [] events = [] := by
  refine List.filterMap_eq_nil_iff.2 fun e he => ?_
  obtain ⟨i, place, hplace, -⟩ := h e he
  rw [if_neg (by simp [hplace])]

/-- A plan has ended exactly if its run is closed, and then with its outcome. -/
theorem Traced.endAt_eq (h : Traced mayRefuse plan run events) :
    endAt [] events = run.outcome? := by
  cases h with
  | waiting => rfl
  | refused task _ => rw [endAt, occurrencesAt_here]; rfl
  | working htrace hopen =>
    rw [endAt, occurrencesAt_here, List.filterMap_cons_none rfl, htrace.no_end]
    rfl
  | finished htrace =>
    rw [endAt, occurrencesAt_here, List.cons_append, List.filterMap_cons_none rfl,
      List.filterMap_append, htrace.no_end]
    rfl
  | group _ _ hplaces _ hstands =>
    rw [endAt, occurrencesAt_append, occurrencesAt_parts hplaces, List.nil_append]
    exact hstands.endAt_eq

/-- A task refuses exactly if its run was closed before it had begun. -/
theorem Traced.leaf_cases {task : Task} (h : Traced mayRefuse (.leaf task) run events) :
    (run.outcome? = none ∧ refuses events ([], .leaf task) = false) ∨
    (mayRefuse ∧ run = .closed (cancelledAt task.info) ∧
      refuses events ([], .leaf task) = true) ∨
    (∃ outcome, run = .closed outcome ∧ begunAt [] events = true ∧
      refuses events ([], .leaf task) = false) := by
  have hend := h.endAt_eq
  cases h with
  | waiting => exact .inl ⟨rfl, rfl⟩
  | refused _ hrefuse =>
    refine .inr (.inl ⟨hrefuse, rfl, ?_⟩)
    rw [refuses, hend, begunAt, occurrencesAt_here]
    rfl
  | working htrace hopen =>
    refine .inl ⟨rfl, ?_⟩
    rw [refuses, hend]
    rfl
  | @finished _ past outcome htrace =>
    have hbegun : begunAt [] (eventsHere (.began :: past ++ [.ended outcome])) = true := by
      rw [begunAt, occurrencesAt_here]
      rfl
    refine .inr (.inr ⟨outcome, rfl, hbegun, ?_⟩)
    rw [refuses, hbegun, Bool.not_true, Bool.and_false]

def Run.unfailed (run : Run) : Bool := (run.outcome?.map Outcome.isOk).getD true

/-- A sequential group refuses if it ends with a fault although none of its parts has failed. -/
theorem Traced.refuses_sequential {nested : Bool} {plans : List (Plan Task)} {parts : List Run}
    (hlen : parts.length = plans.length)
    (hparts : ∀ (i : Nat) (plan : Plan Task) (part : Run), plans[i]? = some plan →
      parts[i]? = some part → Traced mayRefuse plan part (within i events))
    {cause : Fault} (hend : endAt [] events = some (.fault cause)) :
    refuses events ([], .group .sequential nested plans) = parts.all Run.unfailed := by
  have hpart : ∀ i part, parts[i]? = some part →
      ((endAt ([] ++ [i]) events).map Outcome.isOk).getD true = part.unfailed := by
    intro i part hpart
    obtain ⟨plan, hplan⟩ := exists_getElem?_of_length_eq hlen hpart
    rw [List.nil_append, endAt_cons, (hparts i plan part hplan hpart).endAt_eq]
    rfl
  rw [refuses, hend, Bool.eq_iff_iff, List.all_eq_true, List.all_eq_true]
  constructor
  · intro hall part hmem
    obtain ⟨i, hi, rfl⟩ := List.getElem_of_mem hmem
    rw [← hpart i _ (List.getElem?_eq_getElem hi)]
    exact hall i (List.mem_range.2 (hlen ▸ hi))
  · intro hall i hi
    have hlt : i < parts.length := hlen ▸ List.mem_range.1 hi
    rw [hpart i _ (List.getElem?_eq_getElem hlt)]
    exact hall _ (List.getElem_mem hlt)

end Traced

/-! ## 4. The blocks of a run -/

def Run.failures (run : Run) : List Fault := (run.outcome?.map Outcome.failures).getD []

/-- What a part of a group adds to the failures of the group. -/
def Run.share (mode : Mode) (part : Run) (index : Nat) : List Fault :=
  caughtBlock mode index part.outcome? ++ part.failures

/-- A run that has ended well, or has not begun. -/
def Run.Quiet (run : Run) : Prop := run = passed ∨ ∃ plan, run = .waiting plan

theorem Run.quiet_of_mem_front {count : Nat} {part : Run}
    (h : part ∈ List.replicate count passed) : part.Quiet := .inl (List.eq_of_mem_replicate h)

theorem Run.quiet_of_mem_back {rest : List (Plan Task)} {part : Run}
    (h : part ∈ rest.map Run.waiting) : part.Quiet := by
  obtain ⟨plan, -, rfl⟩ := List.mem_map.1 h
  exact .inr ⟨plan, rfl⟩

theorem Run.Quiet.unfailed {part : Run} (h : part.Quiet) : part.unfailed = true := by
  rcases h with rfl | ⟨plan, rfl⟩ <;> rfl

theorem Run.shares_eq_nil {mode : Mode} {parts : List Run} {index : Nat}
    (h : ∀ part ∈ parts, part.Quiet) :
    (parts.zipIdx index).flatMap (fun x => share mode x.1 x.2) = [] := by
  refine List.flatMap_eq_nil_iff.2 fun x hx => ?_
  rcases h x.1 (List.fst_mem_of_mem_zipIdx hx) with hpart | ⟨plan, hpart⟩ <;> rw [hpart] <;> rfl

/-- The parts of a parallel group add the failures that the group collects. -/
theorem Run.shares_parallel (index : Nat) (outcomes : List (Outcome Unit)) :
    ((outcomes.map Run.closed).zipIdx index).flatMap (fun x => share .parallel x.1 x.2) =
      Fault.failuresOf (partFaults index outcomes) := by
  induction outcomes generalizing index with
  | nil => rfl
  | cons outcome outcomes ih =>
    rw [List.map_cons, List.zipIdx_cons, List.flatMap_cons, ih]
    cases outcome <;> rfl

/-- The outcome of a parallel group has the failures that the group collects. -/
theorem Run.failures_combine (outcomes : List (Outcome Unit)) :
    (combine outcomes).failures = Fault.failuresOf (partFaults 0 outcomes) := by
  rw [combine]
  split
  · rename_i hnil
    rw [hnil]
    rfl
  · rfl

section Blocks

variable {mayRefuse : Prop} {plan : Plan Task} {run : Run} {events own : List RunEvent}

/-- A group that is closed has its failures from its parts, unless it refused to go on. -/
theorem Stands.failures_eq {mode : Mode} {parts : List Run} {outcome : Outcome Unit}
    (h : Stands mayRefuse mode parts (.closed outcome) own) :
    (parts.zipIdx.flatMap (fun x => Run.share mode x.1 x.2) = outcome.failures ∧
      (mode = .sequential → ∀ cause, outcome = .fault cause → parts.all Run.unfailed = false)) ∨
    (mayRefuse ∧ mode = .sequential ∧ outcome = cancelledAt "sequential task tree" ∧
      parts.zipIdx.flatMap (fun x => Run.share mode x.1 x.2) = [] ∧
      parts.all Run.unfailed = true) := by
  generalize hrun : Run.closed outcome = run at h
  cases h with
  | underWay | apart => exact absurd hrun (by simp)
  | done count =>
    obtain rfl := Run.closed.inj hrun
    exact .inl ⟨Run.shares_eq_nil fun _ => Run.quiet_of_mem_front,
      fun _ cause h => absurd h (by simp)⟩
  | refused index rest hrefuse _ =>
    obtain rfl := Run.closed.inj hrun
    have hquiet : ∀ part ∈ List.replicate index passed ++ rest.map .waiting, part.Quiet :=
      fun _ hpart => (List.mem_append.1 hpart).elim Run.quiet_of_mem_front Run.quiet_of_mem_back
    exact .inr ⟨hrefuse, rfl, rfl, Run.shares_eq_nil hquiet,
      List.all_eq_true.2 fun part hpart => (hquiet part hpart).unfailed⟩
  | stopped index outcome' rest hstop =>
    obtain rfl := Run.closed.inj hrun
    refine .inl ⟨?_, fun _ cause hcause => ?_⟩
    · rw [List.zipIdx_append, List.zipIdx_cons, List.flatMap_append, List.flatMap_cons,
        Run.shares_eq_nil fun _ => Run.quiet_of_mem_front,
        Run.shares_eq_nil fun _ => Run.quiet_of_mem_back, List.nil_append, List.append_nil]
      cases outcome <;> rfl
    · subst hcause
      refine List.all_eq_false.2 ⟨.closed (.fault cause), by simp, ?_⟩
      exact Bool.eq_false_iff.1 rfl
  | settled parts outcomes houtcomes =>
    obtain rfl := Run.closed.inj hrun
    obtain rfl := Run.outcomes?_eq_some_iff.1 houtcomes
    refine .inl ⟨?_, fun h => absurd h (by simp)⟩
    rw [Run.shares_parallel, Run.failures_combine]

/-- Before anything has happened no node has failures. -/
theorem block_nil (plan : Plan Task) (x : Place × Plan Task) : block plan [] x = [] := by
  have hown : ownBlock [] x = [] := by
    obtain ⟨place, node⟩ := x
    cases node with
    | leaf task => rfl
    | group mode nested parts => cases mode <;> rfl
  rw [block]
  split
  · rename_i index mode _ _ _ _
    rw [hown]
    cases mode <;> rfl
  · exact hown

/-- The block of a leaf that is closed has the failures of its outcome. -/
theorem Traced.ownBlock_leaf {task : Task} {outcome : Outcome Unit}
    (h : Traced mayRefuse (.leaf task) (.closed outcome) events) :
    ownBlock events ([], .leaf task) = outcome.failures := by
  have hend := h.endAt_eq
  rcases h.leaf_cases with ⟨hopen, -⟩ | ⟨-, hrun, hrefuses⟩ | ⟨outcome', hrun, -, hrefuses⟩
  · exact absurd hopen (by simp [Run.outcome?])
  · obtain rfl := Run.closed.inj hrun
    rw [ownBlock, if_pos hrefuses]
    rfl
  · rw [ownBlock, hrefuses, hend]
    rfl

/-- When a group is closed, each of its parts has ended or is quiet. -/
theorem Stands.at_rest {mode : Mode} {parts : List Run} {outcome : Outcome Unit}
    (h : Stands mayRefuse mode parts (.closed outcome) own) :
    ∀ part ∈ parts, (∃ outcome', part = .closed outcome') ∨ part.Quiet := by
  generalize hrun : Run.closed outcome = run at h
  intro part hpart
  cases h with
  | underWay | apart => exact absurd hrun (by simp)
  | done count => exact .inr (Run.quiet_of_mem_front hpart)
  | refused index rest _ _ =>
    rcases List.mem_append.1 hpart with hpart | hpart
    · exact .inr (Run.quiet_of_mem_front hpart)
    · exact .inr (Run.quiet_of_mem_back hpart)
  | stopped index outcome' rest _ =>
    rcases List.mem_append.1 hpart with hpart | hpart
    · exact .inr (Run.quiet_of_mem_front hpart)
    · rcases List.mem_cons.1 hpart with hpart | hpart
      · exact .inl ⟨_, hpart⟩
      · exact .inr (Run.quiet_of_mem_back hpart)
  | settled parts outcomes houtcomes =>
    obtain rfl := Run.outcomes?_eq_some_iff.1 houtcomes
    obtain ⟨outcome', -, rfl⟩ := List.mem_map.1 hpart
    exact .inl ⟨outcome', rfl⟩

/-- A group that is closed has its failures from its parts and from its own refusal. -/
theorem Traced.ownBlock_group {mode : Mode} {nested : Bool} {plans : List (Plan Task)}
    {parts : List Run} {outcome : Outcome Unit} (hlen : parts.length = plans.length)
    (hparts : ∀ (i : Nat) (plan : Plan Task) (part : Run), plans[i]? = some plan →
      parts[i]? = some part → Traced mayRefuse plan part (within i events))
    (hend : endAt [] events = some outcome)
    (hstands : Stands mayRefuse mode parts (.closed outcome) own) :
    ownBlock events ([], .group mode nested plans) ++
        parts.zipIdx.flatMap (fun x => Run.share mode x.1 x.2) = outcome.failures ∧
      (refuses events ([], .group mode nested plans) = true →
        mayRefuse ∧ outcome = cancelledAt "sequential task tree") := by
  rcases hstands.failures_eq with ⟨hshares, hfailed⟩ | ⟨hrefuse, rfl, rfl, hshares, hunfailed⟩
  · have hrefuses : refuses events ([], .group mode nested plans) = false := by
      match mode, outcome with
      | .parallel, _ => rfl
      | .sequential, .ok _ => rw [refuses, hend]
      | .sequential, .panic _ => rw [refuses, hend]
      | .sequential, .fault cause =>
        rw [Traced.refuses_sequential hlen hparts hend]
        exact hfailed rfl cause rfl
    refine ⟨?_, fun h => absurd h (by simp [hrefuses])⟩
    rw [ownBlock, hrefuses, hshares]
    rfl
  · have hrefuses : refuses events ([], .group .sequential nested plans) = true := by
      rw [Traced.refuses_sequential hlen hparts hend, hunfailed]
    refine ⟨?_, fun _ => ⟨hrefuse, rfl⟩⟩
    rw [ownBlock, if_pos hrefuses, hshares]
    rfl

/-- **The blocks of a run that is closed are the failures of its outcome.** -/
theorem Traced.blocks (h : Traced mayRefuse plan run events) {outcome : Outcome Unit}
    (hrun : run = .closed outcome) :
    plan.nodes.flatMap (block plan events) = outcome.failures := by
  induction h generalizing outcome with
  | waiting plan => exact absurd hrun (by simp)
  | working _ hopen => exact absurd hrun (by simp)
  | refused task hrefuse =>
    have htraced := Traced.refused task hrefuse
    rw [Plan.nodes, List.flatMap_singleton, block_root, htraced.ownBlock_leaf, Run.closed.inj hrun]
  | @finished task past outcome' htrace =>
    have htraced : Traced mayRefuse (.leaf task) (.closed outcome') _ := .finished htrace
    rw [Plan.nodes, List.flatMap_singleton, block_root, htraced.ownBlock_leaf, Run.closed.inj hrun]
  | @group mode nested plans parts run events own hlen hparts hplaces horder hstands ih =>
    have htraced : Traced mayRefuse (.group mode nested plans) run (events ++ own) :=
      .group hlen hparts hplaces horder hstands
    have hend := htraced.endAt_eq
    subst hrun
    have hshares : (Plan.nodesOf 0 plans).flatMap
          (block (.group mode nested plans) (events ++ own)) =
        parts.zipIdx.flatMap fun x => Run.share mode x.1 x.2 := by
      refine Plan.flatMap_nodesOf hlen fun i plan part hplan hpart => ?_
      have htraced := hparts i plan part hplan hpart
      rw [Nat.zero_add, blocks_part hplan, hstands.within_append_own, htraced.endAt_eq]
      refine congrArg (caughtBlock mode i part.outcome? ++ ·) ?_
      rcases hstands.at_rest part (List.mem_of_getElem? hpart) with
        ⟨outcome', rfl⟩ | rfl | ⟨plan', rfl⟩
      · exact ih i plan _ hplan hpart rfl
      · exact ih i plan _ hplan hpart rfl
      · rw [htraced.of_waiting.2]
        exact List.flatMap_eq_nil_iff.2 fun x _ => block_nil plan x
    rw [Plan.nodes, List.flatMap_cons, hshares, block_root]
    exact (Traced.ownBlock_group hlen (hstands.traced_parts hparts) hend hstands).1

/-- A plan that refused to go on was allowed to. -/
theorem Traced.mayRefuse_of_refuses (h : Traced mayRefuse plan run events)
    (hrefuses : refuses events ([], plan) = true) :
    mayRefuse ∧ ∃ context, endAt [] events = some (cancelledAt context) := by
  have hend := h.endAt_eq
  cases plan with
  | leaf task =>
    rcases h.leaf_cases with ⟨-, hnot⟩ | ⟨hrefuse, rfl, -⟩ | ⟨_, -, -, hnot⟩
    · exact absurd hrefuses (by simp [hnot])
    · exact ⟨hrefuse, task.info, hend⟩
    · exact absurd hrefuses (by simp [hnot])
  | group mode nested plans =>
    cases hrun : run.outcome? with
    | none =>
      rw [hrun] at hend
      cases mode <;> exact absurd hrefuses (by simp [refuses, hend])
    | some outcome =>
      rw [hrun] at hend
      obtain rfl := Run.outcome?_eq_some_iff.1 hrun
      cases h with
      | @group _ _ _ parts _ events own hlen hparts hplaces horder hstands =>
        have hinner := hstands.traced_parts hparts
        obtain ⟨hrefuse, rfl⟩ := (Traced.ownBlock_group hlen hinner hend hstands).2 hrefuses
        exact ⟨hrefuse, _, hend⟩

end Blocks

/-! ## 5. Whole runs -/

theorem endAt_work (place : Place) (events : List RunEvent) :
    endAt place (work events) = endAt place events := by
  rw [endAt, occurrencesAt_work, ← filterMap_end?_deeds, endAt]

theorem begunAt_work (place : Place) (events : List RunEvent) :
    begunAt place (work events) = begunAt place events := by
  rw [begunAt, occurrencesAt_work, deeds, List.any_filter, begunAt]
  refine congrArg (occurrencesAt place events).any (funext fun o => ?_)
  cases o <;> rfl

theorem refuses_work (events : List RunEvent) (x : Place × Plan Task) :
    refuses (work events) x = refuses events x := by
  match x with
  | (place, .leaf task) => simp only [refuses, endAt_work, begunAt_work]
  | (place, .group .sequential nested parts) => simp only [refuses, endAt_work]
  | (place, .group .parallel nested parts) => rfl

/-- The blocks depend on the work alone. -/
theorem block_work (plan : Plan Task) (events : List RunEvent) :
    block plan (work events) = block plan events := by
  have hown : ∀ x, ownBlock (work events) x = ownBlock events x := fun (place, node) => by
    cases node with
    | leaf task => simp only [ownBlock, refuses_work, endAt_work]
    | group mode nested parts => simp only [ownBlock, refuses_work]
  refine funext fun x => ?_
  simp only [block, hown, endAt_work]

theorem endAt_under (place : Place) (events : List RunEvent) :
    endAt place events = endAt [] (under place events) := by
  rw [endAt, occurrencesAt_under, endAt]

theorem refuses_under (place : Place) (node : Plan Task) (events : List RunEvent) :
    refuses events (place, node) = refuses (under place events) ([], node) := by
  induction place generalizing events with
  | nil => rfl
  | cons i place ih => rw [refuses_cons, ih]; rfl

/-- A node that refused to go on was allowed to, and has ended with a cancellation. -/
theorem Traced.refused_at {mayRefuse : Prop} {plan node : Plan Task} {run : Run}
    {events : List RunEvent} (h : Traced mayRefuse plan run (work events)) {place : Place}
    (hnode : plan.at? place = some node) (hrefuses : refuses events (place, node) = true) :
    mayRefuse ∧ ∃ context, endAt place events = some (cancelledAt context) := by
  obtain ⟨run', htraced, -⟩ := h.at? hnode
  rw [← refuses_work, refuses_under] at hrefuses
  rw [← endAt_work, endAt_under]
  exact htraced.mayRefuse_of_refuses hrefuses

/-- **No failure is lost or duplicated.**  If a run has ended with a fault, the failures in it are
the blocks of its nodes, in their order.  At any time, a node has refused to go on only if the run
was cancelled before, and then it has ended with a cancellation; and a task that has ended well has
nothing in its block. -/
theorem failures_complete {plan : Plan Task} {now : Moment} {cancelled : Bool}
    {moves : List (Move Request Request.Answer)} {entries : List (Entry Request Request.Answer)}
    {s : Situation Run}
    (hrun : (Run.about plan now cancelled).follow Run.process moves = some (entries, s)) :
    (∀ cause, s.state.outcome? = some (.fault cause) →
      cause.failures = plan.nodes.flatMap (block plan (happened entries))) ∧
    (∀ place node, plan.at? place = some node → refuses (happened entries) (place, node) = true →
      s.cancelled = true ∧ ∃ context, endAt place (happened entries) = some (cancelledAt context)) ∧
    (∀ place task, plan.at? place = some (.leaf task) →
      endAt place (happened entries) = some (.ok ()) →
      block plan (happened entries) (place, .leaf task) = []) := by
  have htraced := traced_follow hrun
  refine ⟨fun cause hcause => ?_, fun place node hnode => htraced.refused_at hnode,
    fun place task hleaf hended => ?_⟩
  · have hblocks := htraced.blocks (outcome?_eq_some_iff.1 hcause)
    rw [block_work] at hblocks
    exact hblocks.symm
  · have hrefuses : refuses (happened entries) (place, .leaf task) = false := by
      refine Bool.eq_false_iff.2 fun hrefuses => ?_
      obtain ⟨-, context, hcancelled⟩ := htraced.refused_at hleaf hrefuses
      rw [hended] at hcancelled
      exact absurd (Option.some.inj hcancelled) (by simp [cancelledAt])
    have hown : ownBlock (happened entries) (place, .leaf task) = [] := by
      rw [ownBlock, hrefuses, hended]
      rfl
    rw [block]
    split
    · rw [hown, hended]
      rfl
    · exact hown

namespace Sample

/-- Five errands, two of them one after the other, all the others side by side. -/
def mishaps : Plan Task :=
  .group .parallel false
    [.leaf ⟨"errand", .supplied 1 none⟩, .leaf ⟨"errand", .supplied 2 none⟩,
     .group .sequential true
       [.leaf ⟨"errand", .supplied 3 none⟩, .leaf ⟨"errand", .supplied 4 none⟩],
     .leaf ⟨"last errand", .supplied 5 none⟩]

def mishap (place : Place) (outcome : Outcome Unit) : Move Request Request.Answer :=
  .resume place (.reply fun
    | .perform .. => outcome
    | _ => .panic none) 1

/-- One errand fails in two ways and one breaks off; the cancellation comes during the third, before
the last has begun. -/
def mishapMoves : List (Move Request Request.Answer) :=
  [.resume [] .start 1, .resume [2] .start 1, .resume [1] .start 1, .resume [0] .start 1,
   mishap [1] (.panic (some "lost")), .cancel, .resume [3] .start 1, mishap [2, 0] (.ok ()),
   mishap [0] (.fault (.aggregate [.precondition "closed", .precondition "locked"])),
   .resume [] .settle 1]

def mishapRun : Option (List (Entry Request Request.Answer) × Situation Run) :=
  (Run.about mishaps ⟨0⟩ false).follow Run.process mishapMoves

end Sample

/-- All kinds of failures in one run. -/
theorem failures_complete_sample :
    ∃ (entries : List (Entry Request Request.Answer)) (s : Situation Run),
      Sample.mishapRun = some (entries, s) ∧
      [.precondition "closed", .precondition "locked",
       .internal "executor" "task 1 panicked: lost", .cancelled "sequential task tree",
       .cancelled "last errand"] =
        Sample.mishaps.nodes.flatMap (block Sample.mishaps (happened entries)) := by
  have hover : Sample.mishapRun.isSome = true := rfl
  have hrun : (Run.about Sample.mishaps ⟨0⟩ false).follow Run.process Sample.mishapMoves =
      some (Sample.mishapRun.get hover) := (Option.some_get hover).symm
  exact ⟨_, _, (Option.some_get hover).symm, (failures_complete hrun).1 _ rfl⟩

end Teardown
