/-
# Regrouping a plan

The groups of a plan say in which order its tasks are begun and which failures keep others from
being begun.  Some of them say nothing: a sequential group inside a sequential group, a parallel
group inside a parallel group, and a group around a single node.  Such groups may be dissolved or
put in, anywhere in the plan (`Plan.Regroups`), and nobody notices: the tasks are the same from
left to right, and if they end in the same ways, the same ones are begun, and the plan comes to
the same failures, which are worth another attempt in the one case just as in the other
(`regrouping_unnoticed`).

The outcomes themselves need not be the same, since a parallel group puts the failures of its
parts into a collection of its own.  So what is compared is the tally of a plan (`Plan.tally`):
the numbers of the tasks that are begun, whether all is well, the failures, and whether they are
all worth another attempt.  Tallies are put together part by part, and in a row of parts it does
not matter how they are bracketed (`Tally.gather_append`).

* §1  leaves are compared across two plans by their numbers, since their places differ.
* §2  tallies, and what is begun when several things come in turn or together.
* §3  the tally of a plan.
* §4  the outcome of a plan is what its tally tells.
* §5  a run that is over has begun just the leaves of the tally.
* §6-7  regrouping keeps the tally, so two runs have the same one.
* §8  two errands side by side, with and without more groups, run in different orders.

A task that breaks off has no place in a tally, because there the groups do matter: a panic is
caught at the next parallel group around it.  Nor has a run that is cancelled.
-/
import Mathlib.Data.List.Forall2
import Mathlib.Logic.Relation
import Teardown.Proofs.Evaluation
import Teardown.Proofs.Parts

namespace Teardown

open Run

/-! ## 1. The numbers of the leaves -/

namespace Plan

variable {ℓ : Type}

/-- The number of a leaf, from left to right: how many tasks come before it. -/
def number : Place → Plan ℓ → Nat
  | i :: place, .group _ _ parts =>
    sizeOf (parts.take i) + ((parts[i]?).map (number place)).getD 0
  | _, _ => 0

variable {mode : Mode} {nested : Bool} {parts : List (Plan ℓ)} {part plan : Plan ℓ} {i : Nat}
  {place place' : Place} {task task' : ℓ}

/-- A leaf in a part comes after all the parts before it. -/
theorem number_inside (hpart : parts[i]? = some part) (place : Place) :
    (group mode nested parts).number (i :: place) = sizeOf (parts.take i) + part.number place := by
  rw [number, hpart]
  rfl

theorem sizeOf_append (front back : List (Plan ℓ)) :
    sizeOf (front ++ back) = sizeOf front + sizeOf back := by
  induction front with
  | nil => simp [sizeOf]
  | cons part front ih => rw [List.cons_append, sizeOf, sizeOf, ih, Nat.add_assoc]

theorem tasksOf_split (hpart : parts[i]? = some part) :
    tasksOf parts = tasksOf (parts.take i) ++ (part.tasks ++ tasksOf (parts.drop (i + 1))) := by
  obtain ⟨hi, rfl⟩ := List.getElem?_eq_some_iff.1 hpart
  conv_lhs => rw [← List.take_append_drop i parts, List.drop_eq_getElem_cons hi]
  rw [tasksOf_append, tasksOf]

/-- **The number of a leaf** is the place of its task among all tasks. -/
theorem getElem?_tasks_number (h : plan.at? place = some (.leaf task)) :
    plan.tasks[plan.number place]? = some task := by
  induction place generalizing plan with
  | nil =>
    obtain rfl := Option.some.inj h
    rfl
  | cons i place ih =>
    obtain ⟨mode, nested, parts, part, rfl, hpart, hinner⟩ := at?_cons h
    have htask := ih hinner
    obtain ⟨hlt, -⟩ := List.getElem?_eq_some_iff.1 htask
    rw [number_inside hpart, tasks, tasksOf_split hpart,
      List.getElem?_append_right (by rw [length_tasksOf]; omega), length_tasksOf,
      Nat.add_sub_cancel_left, List.getElem?_append_left hlt]
    exact htask

theorem number_lt (h : plan.at? place = some (.leaf task)) : plan.number place < plan.size := by
  obtain ⟨hlt, -⟩ := List.getElem?_eq_some_iff.1 (getElem?_tasks_number h)
  rwa [length_tasks] at hlt

theorem number_lt_of_lt {j : Nat} (hij : i < j)
    (h : (group mode nested parts).at? (i :: place) = some (.leaf task))
    (h' : (group mode nested parts).at? (j :: place') = some (.leaf task')) :
    (group mode nested parts).number (i :: place) <
      (group mode nested parts).number (j :: place') := by
  obtain ⟨_, _, _, part, heq, hpart, hinner⟩ := at?_cons h
  obtain ⟨-, -, rfl⟩ := group.inj heq
  obtain ⟨_, _, _, part', heq', hpart', -⟩ := at?_cons h'
  obtain ⟨-, -, rfl⟩ := group.inj heq'
  have hlt := number_lt hinner
  obtain ⟨hi, rfl⟩ := List.getElem?_eq_some_iff.1 hpart
  have htake : parts.take j = parts.take i ++ parts[i] :: (parts.take j).drop (i + 1) := by
    have hi' : i < (parts.take j).length := by
      obtain ⟨hj, -⟩ := List.getElem?_eq_some_iff.1 hpart'
      simp only [List.length_take]
      omega
    conv_lhs => rw [← List.take_append_drop i (parts.take j), List.drop_eq_getElem_cons hi']
    rw [List.take_take, Nat.min_eq_left (by omega), List.getElem_take]
  rw [number_inside hpart, number_inside hpart', htake, sizeOf_append, sizeOf]
  omega

/-- **Each leaf has a number of its own.** -/
theorem number_inj (h : plan.at? place = some (.leaf task))
    (h' : plan.at? place' = some (.leaf task')) (heq : plan.number place = plan.number place') :
    place = place' := by
  induction place generalizing plan place' with
  | nil =>
    obtain rfl := Option.some.inj h
    cases place' with
    | nil => rfl
    | cons j place' => exact absurd h' (by simp [at?])
  | cons i place ih =>
    obtain ⟨mode, nested, parts, part, rfl, hpart, hinner⟩ := at?_cons h
    obtain ⟨j, place', part', rfl, hpart', hinner'⟩ := at?_group h'
    rcases Nat.lt_trichotomy i j with hij | rfl | hij
    · exact absurd heq (Nat.ne_of_lt (number_lt_of_lt hij h h'))
    · obtain rfl := Option.some.inj (hpart.symm.trans hpart')
      rw [number_inside hpart, number_inside hpart, Nat.add_left_cancel_iff] at heq
      rw [ih hinner hinner' heq]
    · exact absurd heq.symm (Nat.ne_of_lt (number_lt_of_lt hij h' h))

end Plan

/-! ## 2. Tallies -/

/-- What comes of a plan, however it is grouped: whether all is well, the numbers of the tasks that
are begun, the failures, and whether all failures are worth another attempt. -/
structure Tally where
  isGood : Bool
  begun : List Nat
  failures : List Fault
  isRetryable : Bool

namespace Tally

/-- The tally of nothing. -/
def nothing : Tally := ⟨true, [], [], true⟩

/-- One thing and another. -/
def and (t u : Tally) : Tally :=
  ⟨t.isGood && u.isGood, t.begun ++ u.begun, t.failures ++ u.failures,
    t.isRetryable && u.isRetryable⟩

/-- One thing, and another only if all is well so far. -/
def andThen (t u : Tally) : Tally := if t.isGood then t.and u else t

/-- All of several things. -/
def together : List Tally → Tally
  | [] => nothing
  | t :: rest => t.and (together rest)

/-- One thing after the other, as long as all is well. -/
def inTurn : List Tally → Tally
  | [] => nothing
  | t :: rest => t.andThen (inTurn rest)

def gather : Mode → List Tally → Tally
  | .sequential => inTurn
  | .parallel => together

/-- The tally of a task that ends in a given way. -/
def ofOutcome (n : Nat) : Outcome Unit → Tally
  | .ok _ => ⟨true, [n], [], true⟩
  | .fault cause => ⟨false, [n], cause.failures, cause.isRetryable⟩
  | .panic _ => ⟨false, [n], [], false⟩

@[simp] theorem and_nothing (t : Tally) : t.and nothing = t := by
  simp [and, nothing]

theorem and_assoc (t u v : Tally) : (t.and u).and v = t.and (u.and v) := by
  simp [and, Bool.and_assoc]

theorem andThen_of_good {t : Tally} (h : t.isGood = true) (u : Tally) : t.andThen u = t.and u :=
  if_pos h

theorem andThen_of_bad {t : Tally} (h : ¬ t.isGood = true) (u : Tally) : t.andThen u = t :=
  if_neg h

@[simp] theorem andThen_nothing (t : Tally) : t.andThen nothing = t := by
  simp [andThen]

theorem andThen_assoc (t u v : Tally) : (t.andThen u).andThen v = t.andThen (u.andThen v) := by
  by_cases ht : t.isGood = true
  · rw [andThen_of_good ht, andThen_of_good ht]
    by_cases hu : u.isGood = true
    · have hboth : (t.and u).isGood = true := by simp [and, ht, hu]
      rw [andThen_of_good hboth, andThen_of_good hu, and_assoc]
    · have hboth : ¬ (t.and u).isGood = true := by simp [and, ht, hu]
      rw [andThen_of_bad hboth, andThen_of_bad hu]
  · rw [andThen_of_bad ht, andThen_of_bad ht, andThen_of_bad ht]

/-- **How a row of things is bracketed** makes no difference. -/
theorem gather_append (mode : Mode) (front back : List Tally) :
    gather mode (front ++ back) =
      match mode with
      | .sequential => (gather mode front).andThen (gather mode back)
      | .parallel => (gather mode front).and (gather mode back) := by
  cases mode with
  | sequential =>
    induction front with
    | nil => rfl
    | cons t front ih =>
      change t.andThen (inTurn (front ++ back)) = (t.andThen (inTurn front)).andThen (inTurn back)
      rw [andThen_assoc]
      exact congrArg _ ih
  | parallel =>
    induction front with
    | nil => rfl
    | cons t front ih =>
      change t.and (together (front ++ back)) = (t.and (together front)).and (together back)
      rw [and_assoc]
      exact congrArg _ ih

@[simp] theorem gather_singleton (mode : Mode) (t : Tally) : gather mode [t] = t := by
  cases mode with
  | sequential => exact t.andThen_nothing
  | parallel => exact t.and_nothing

/-- A row inside a row of the same mode may be dissolved. -/
theorem gather_splice (mode : Mode) (front middle back : List Tally) :
    gather mode (front ++ gather mode middle :: back) = gather mode (front ++ middle ++ back) := by
  have hmiddle : gather mode (gather mode middle :: back) = gather mode (middle ++ back) := by
    rw [← List.singleton_append, gather_append, gather_append, gather_singleton]
  rw [List.append_assoc, gather_append, gather_append, hmiddle]

/-- What is begun in turn is begun in a part before which all is well. -/
theorem mem_begun_inTurn {n : Nat} {tallies : List Tally} :
    n ∈ (inTurn tallies).begun ↔
      ∃ (i : Nat) (t : Tally), tallies[i]? = some t ∧ n ∈ t.begun ∧
        ∀ (j : Nat) (u : Tally), j < i → tallies[j]? = some u → u.isGood = true := by
  induction tallies with
  | nil => simp [inTurn, nothing]
  | cons t rest ih =>
    constructor
    · intro hmem
      by_cases ht : t.isGood = true
      · rw [inTurn, andThen_of_good ht, and, List.mem_append, ih] at hmem
        rcases hmem with hmem | ⟨i, u, hu, hmem, hgood⟩
        · exact ⟨0, t, rfl, hmem, fun j u hj => absurd hj (Nat.not_lt_zero j)⟩
        · refine ⟨i + 1, u, hu, hmem, fun j v hj hv => ?_⟩
          cases j with
          | zero =>
            obtain rfl := Option.some.inj hv
            exact ht
          | succ j => exact hgood j v (Nat.lt_of_succ_lt_succ hj) hv
      · rw [inTurn, andThen_of_bad ht] at hmem
        exact ⟨0, t, rfl, hmem, fun j u hj => absurd hj (Nat.not_lt_zero j)⟩
    · rintro ⟨i, u, hu, hmem, hgood⟩
      cases i with
      | zero =>
        obtain rfl := Option.some.inj hu
        rw [inTurn, andThen]
        split
        · exact List.mem_append_left _ hmem
        · exact hmem
      | succ i =>
        have ht : t.isGood = true := hgood 0 t (Nat.zero_lt_succ i) rfl
        rw [inTurn, andThen_of_good ht]
        refine List.mem_append_right _ (ih.2 ⟨i, u, hu, hmem, fun j v hj hv => ?_⟩)
        exact hgood (j + 1) v (Nat.succ_lt_succ hj) hv

theorem mem_begun_together {n : Nat} {tallies : List Tally} :
    n ∈ (together tallies).begun ↔ ∃ (i : Nat) (t : Tally), tallies[i]? = some t ∧ n ∈ t.begun := by
  induction tallies with
  | nil => simp [together, nothing]
  | cons t rest ih =>
    rw [together, and, List.mem_append, ih]
    constructor
    · rintro (hmem | ⟨i, u, hu, hmem⟩)
      · exact ⟨0, t, rfl, hmem⟩
      · exact ⟨i + 1, u, hu, hmem⟩
    · rintro ⟨i, u, hu, hmem⟩
      cases i with
      | zero =>
        obtain rfl := Option.some.inj hu
        exact .inl hmem
      | succ i => exact .inr ⟨i, u, hu, hmem⟩

/-- What is begun is begun in a part, and if the parts come in turn, in one before which all is
well. -/
theorem mem_begun_gather {mode : Mode} {n : Nat} {tallies : List Tally} :
    n ∈ (gather mode tallies).begun ↔
      ∃ (i : Nat) (t : Tally), tallies[i]? = some t ∧ n ∈ t.begun ∧
        (mode = .sequential → ∀ (j : Nat) (u : Tally), j < i → tallies[j]? = some u →
          u.isGood = true) := by
  cases mode with
  | sequential => simpa [gather] using mem_begun_inTurn
  | parallel => simpa [gather] using mem_begun_together

end Tally

/-! ## 3. The tally of a plan -/

namespace Plan

variable {ℓ : Type}

mutual

/-- The tally of a plan of which the leaves, numbered from `base` on, end in given ways. -/
def tally (ends : Nat → Outcome Unit) (base : Nat) : Plan ℓ → Tally
  | .leaf _ => .ofOutcome base (ends base)
  | .group mode _ parts => .gather mode (tallies ends base parts)

/-- The tallies of several plans, with their leaves numbered through. -/
def tallies (ends : Nat → Outcome Unit) (base : Nat) : List (Plan ℓ) → List Tally
  | [] => []
  | part :: parts => part.tally ends base :: tallies ends (base + part.size) parts

end

variable {ends : Nat → Outcome Unit} {base : Nat}

theorem tallies_append (base : Nat) (front back : List (Plan ℓ)) :
    tallies ends base (front ++ back) =
      tallies ends base front ++ tallies ends (base + sizeOf front) back := by
  induction front generalizing base with
  | nil => rfl
  | cons part front ih =>
    rw [List.cons_append, tallies, tallies, ih, sizeOf, Nat.add_assoc, List.cons_append]

/-- The leaves of a part are numbered from those before it on. -/
theorem getElem?_tallies (ends : Nat → Outcome Unit) (base : Nat) (parts : List (Plan ℓ))
    (i : Nat) : (tallies ends base parts)[i]? =
      parts[i]?.map fun part => part.tally ends (base + sizeOf (parts.take i)) := by
  induction parts generalizing base i with
  | nil => rfl
  | cons part parts ih =>
    cases i with
    | zero => rfl
    | succ i =>
      rw [tallies, List.getElem?_cons_succ, List.getElem?_cons_succ, ih, List.take_succ_cons,
        sizeOf, Nat.add_assoc]

end Plan

/-! ## 4. Outcomes and tallies -/

/-- An outcome is what the tally says. -/
def Tally.Tells (t : Tally) : Outcome Unit → Prop
  | .ok _ => t.isGood = true ∧ t.failures = [] ∧ t.isRetryable = true
  | .fault cause =>
    t.isGood = false ∧ t.failures = cause.failures ∧ t.isRetryable = cause.isRetryable
  | .panic _ => False

theorem Tally.Tells.isGood_iff {t : Tally} {outcome : Outcome Unit} (h : t.Tells outcome) :
    t.isGood = true ↔ outcome = .ok () := by
  cases outcome with
  | ok value => simp [h.1]
  | fault cause => simp [h.1]
  | panic text => exact h.elim

/-- **Of two outcomes of which a tally tells** both are good, or they are faults with the same
failures. -/
theorem Tally.Tells.alike {t : Tally} {cause cause' : Fault} (h : t.Tells (.fault cause))
    (h' : t.Tells (.fault cause')) :
    cause.failures = cause'.failures ∧ cause.isRetryable = cause'.isRetryable :=
  ⟨h.2.1.symm.trans h'.2.1, h.2.2.symm.trans h'.2.2⟩

namespace Tally

variable {tallies : List Tally} {values : List (Outcome Unit)}

/-- In turn, the first outcome that is not good is told, if there is one. -/
theorem tells_inTurn (h : List.Forall₂ Tells tallies values) :
    (inTurn tallies).Tells ((values.find? fun value => !value.isOk).getD (.ok ())) := by
  induction h with
  | nil => exact ⟨rfl, rfl, rfl⟩
  | @cons t value tallies values hvalue _ ih =>
    cases value with
    | ok _ =>
      obtain ⟨hgood, hfailures, hretryable⟩ := hvalue
      have hand : t.and (inTurn tallies) =
          ⟨(inTurn tallies).isGood, t.begun ++ (inTurn tallies).begun, (inTurn tallies).failures,
            (inTurn tallies).isRetryable⟩ := by
        simp [and, hgood, hfailures, hretryable]
      rw [inTurn, andThen_of_good hgood, hand]
      exact ih
    | fault cause =>
      rw [inTurn, andThen_of_bad (by simp [hvalue.1])]
      exact hvalue
    | panic text => exact hvalue.elim

/-- Together, the failures of all parts are told. -/
theorem together_eq (h : List.Forall₂ Tells tallies values) (index : Nat) :
    (together tallies).isGood = (partFaults index values).isEmpty ∧
      (together tallies).failures = Fault.failuresOf (partFaults index values) ∧
      (together tallies).isRetryable = Fault.allRetryable (partFaults index values) := by
  induction h generalizing index with
  | nil => exact ⟨rfl, rfl, rfl⟩
  | @cons t value tallies values hvalue _ ih =>
    obtain ⟨hgood, hfailures, hretryable⟩ := ih (index + 1)
    cases value with
    | ok _ =>
      obtain ⟨hgood', hfailures', hretryable'⟩ := hvalue
      simp [together, and, partFaults, partFault?, *]
    | fault cause =>
      obtain ⟨hgood', hfailures', hretryable'⟩ := hvalue
      simp [together, and, partFaults, partFault?, Fault.failuresOf, Fault.allRetryable, *]
    | panic text => exact hvalue.elim

theorem tells_together (h : List.Forall₂ Tells tallies values) :
    (together tallies).Tells (combine values) := by
  obtain ⟨hgood, hfailures, hretryable⟩ := together_eq h 0
  rw [combine]
  cases hfaults : partFaults 0 values with
  | nil =>
    rw [hfaults] at hgood hfailures hretryable
    exact ⟨hgood, hfailures, hretryable⟩
  | cons cause causes =>
    rw [hfaults] at hgood hfailures hretryable
    refine ⟨hgood, hfailures, ?_⟩
    rw [hretryable, Fault.isRetryable]
    rfl

end Tally

section Evaluation

variable {ℓ : Type} {ends : Nat → Outcome Unit}

/-- A task that does not break off has a tally. -/
theorem Tally.tells_ofOutcome (hends : ∀ n text, ends n ≠ .panic text) (n : Nat) :
    (ofOutcome n (ends n)).Tells (ends n) := by
  cases hend : ends n with
  | ok value => exact ⟨rfl, rfl, rfl⟩
  | fault cause => exact ⟨rfl, rfl, rfl⟩
  | panic text => exact absurd hend (hends n text)

mutual

/-- **The tally tells of the outcome of a plan**, if the leaves end as their numbers say. -/
theorem Plan.tells_tally (hends : ∀ n text, ends n ≠ .panic text) (plan : Plan ℓ)
    {outcomes : Place → Outcome Unit} {base : Nat}
    (h : ∀ place task, plan.at? place = some (.leaf task) →
      outcomes place = ends (base + plan.number place)) :
    (plan.tally ends base).Tells (plan.evaluate outcomes) := by
  match plan with
  | .leaf task =>
    have hhere : outcomes [] = ends base := h [] task rfl
    change (Tally.ofOutcome base (ends base)).Tells (outcomes [])
    rw [hhere]
    exact Tally.tells_ofOutcome hends base
  | .group mode nested parts =>
    have hparts : List.Forall₂ Tally.Tells (Plan.tallies ends base parts)
        (Plan.evaluateAll outcomes 0 parts) := by
      refine Plan.tells_tallies hends parts fun i part place task hpart hleaf => ?_
      have hinside := h (i :: place) task ((Plan.at?_inside hpart place).trans hleaf)
      rw [Plan.number_inside hpart, ← Nat.add_assoc] at hinside
      rwa [Nat.zero_add]
    cases mode with
    | sequential => exact Tally.tells_inTurn hparts
    | parallel =>
      change (Tally.together _).Tells (if _ then _ else _)
      rw [← combine_eq]
      exact Tally.tells_together hparts

theorem Plan.tells_tallies (hends : ∀ n text, ends n ≠ .panic text) (parts : List (Plan ℓ))
    {outcomes : Place → Outcome Unit} {base index : Nat}
    (h : ∀ i part place task, parts[i]? = some part →
      part.at? place = some (.leaf task) →
      outcomes ((index + i) :: place) = ends (base + sizeOf (parts.take i) + part.number place)) :
    List.Forall₂ Tally.Tells (Plan.tallies ends base parts)
      (Plan.evaluateAll outcomes index parts) := by
  match parts with
  | [] => exact .nil
  | part :: rest =>
    refine .cons (Plan.tells_tally hends part fun place task hleaf => ?_)
      (Plan.tells_tallies hends rest fun i part' place task hpart hleaf => ?_)
    · exact h 0 part place task rfl hleaf
    · have hlater := h (i + 1) part' place task hpart hleaf
      rwa [List.take_succ_cons, Plan.sizeOf, ← Nat.add_assoc base,
        show index + (i + 1) = index + 1 + i by omega] at hlater

end

end Evaluation

/-! ## 5. What a run has begun -/

/-- The leaf of this number has begun. -/
def HasBegun (plan : Plan Task) (events : List RunEvent) (n : Nat) : Prop :=
  ∃ place task, plan.at? place = some (.leaf task) ∧ plan.number place = n ∧
    ⟨place, .began⟩ ∈ events

section Begun

variable {plan : Plan Task} {plans : List (Plan Task)} {mode : Mode} {nested : Bool} {run : Run}
  {parts : List Run} {events own : List RunEvent} {outcome : Outcome Unit}
  {ends : Nat → Outcome Unit}

theorem hasBegun_group {n : Nat} :
    HasBegun (.group mode nested plans) events n ↔ ∃ i plan k, plans[i]? = some plan ∧
      Plan.sizeOf (plans.take i) + k = n ∧ HasBegun plan (within i events) k := by
  constructor
  · rintro ⟨place, task, hleaf, hnumber, hbegan⟩
    obtain ⟨i, place, plan, rfl, hplan, hinner⟩ := Plan.at?_group hleaf
    rw [Plan.number_inside hplan] at hnumber
    exact ⟨i, plan, _, hplan, hnumber, place, task, hinner, rfl, mem_within.2 hbegan⟩
  · rintro ⟨i, plan, k, hplan, hnumber, place, task, hleaf, rfl, hbegan⟩
    exact ⟨i :: place, task, (Plan.at?_inside hplan place).trans hleaf,
      (Plan.number_inside hplan place).trans hnumber, mem_within.1 hbegan⟩

/-- In a sequential group that is over, a part is closed exactly if all parts before it have ended
well. -/
theorem Stands.closed_iff_sequential (h : Stands False .sequential parts (.closed outcome) own)
    {i : Nat} {part : Run} (hpart : parts[i]? = some part) :
    (∃ value, part = .closed value) ↔ ∀ j, j < i → parts[j]? = some passed := by
  generalize hclosed : Run.closed outcome = run at h
  cases h with
  | underWay => exact absurd hclosed (by simp)
  | refused _ _ hrefused => exact hrefused.elim
  | done count =>
    obtain ⟨hi, -⟩ := List.getElem?_eq_some_iff.1 hpart
    rw [List.length_replicate] at hi
    refine ⟨fun _ j hj => ?_, fun _ => ⟨_, List.eq_of_mem_replicate (List.mem_of_getElem? hpart)⟩⟩
    rw [List.getElem?_replicate_of_lt (Nat.lt_trans hj hi)]
  | stopped index stopping rest hstop =>
    have hfront : ∀ j, j < index → (List.replicate index passed ++ .closed stopping ::
        rest.map .waiting)[j]? = some passed := by
      intro j hj
      rw [List.getElem?_append_left (by simpa using hj), List.getElem?_replicate_of_lt hj]
    rcases Nat.lt_trichotomy i index with hi | rfl | hi
    · obtain rfl := Option.some.inj ((hfront i hi).symm.trans hpart)
      exact ⟨fun _ j hj => hfront j (Nat.lt_trans hj hi), fun _ => ⟨_, rfl⟩⟩
    · obtain rfl : Run.closed stopping = part := by simpa using hpart
      exact ⟨fun _ => hfront, fun _ => ⟨_, rfl⟩⟩
    · constructor
      · rintro ⟨value, rfl⟩
        rw [List.getElem?_append_right (by simp; omega), List.length_replicate,
          show i - index = (i - index - 1) + 1 by omega, List.getElem?_cons_succ,
          List.getElem?_map, Option.map_eq_some_iff] at hpart
        obtain ⟨_, -, hwaiting⟩ := hpart
        exact absurd hwaiting (by simp)
      · intro hearlier
        have hindex := hearlier index hi
        obtain rfl : stopping = .ok () := by simpa using hindex
        exact absurd hstop (by simp [Outcome.isOk])

/-- In a group that is over, a part is closed if nothing kept it from being begun. -/
theorem Stands.part_closed_iff (h : Stands False mode parts (.closed outcome) own) {i : Nat}
    {part : Run} (hpart : parts[i]? = some part) :
    (∃ value, part = .closed value) ↔
      (mode = .sequential → ∀ j, j < i → parts[j]? = some passed) := by
  cases mode with
  | sequential => simpa using h.closed_iff_sequential hpart
  | parallel =>
    refine ⟨fun _ hmode => absurd hmode (by simp), fun _ => ?_⟩
    generalize hclosed : Run.closed outcome = run at h
    cases h with
    | apart => exact absurd hclosed (by simp)
    | settled parts outcomes houtcomes =>
      obtain rfl := outcomes?_eq_some_iff.1 houtcomes
      obtain ⟨value, -, rfl⟩ := List.mem_map.1 (List.mem_of_getElem? hpart)
      exact ⟨value, rfl⟩

theorem LeavesEnd.part_numbered {base : Nat}
    (h : LeavesEnd (.group mode nested plans) (events ++ own) fun place =>
      ends (base + (Plan.group mode nested plans).number place)) {i : Nat}
    (hplan : plans[i]? = some plan) :
    LeavesEnd plan (within i events) fun place =>
      ends (base + Plan.sizeOf (plans.take i) + plan.number place) := by
  have hnumber : (fun place => ends (base + Plan.sizeOf (plans.take i) + plan.number place)) =
      fun place => ends (base + (Plan.group mode nested plans).number (i :: place)) := by
    funext place
    rw [Plan.number_inside hplan, Nat.add_assoc]
  rw [hnumber]
  exact h.part hplan

theorem Traced.tells_tally (h : Traced False plan (.closed outcome) events)
    (hends : ∀ n text, ends n ≠ .panic text) {base : Nat}
    (hleaves : LeavesEnd plan events fun place => ends (base + plan.number place)) :
    (plan.tally ends base).Tells outcome := by
  rw [h.outcome_eq rfl hleaves]
  exact Plan.tells_tally hends plan fun _ _ _ => rfl

/-- **A run that is over has begun the leaves of the tally**, if nothing was cancelled. -/
theorem Traced.mem_begun_iff (h : Traced False plan run events)
    (hends : ∀ n text, ends n ≠ .panic text) (hclosed : run = .closed outcome) {base : Nat}
    (hleaves : LeavesEnd plan events fun place => ends (base + plan.number place)) {n : Nat} :
    n ∈ (plan.tally ends base).begun ↔ ∃ k, base + k = n ∧ HasBegun plan events k := by
  induction h generalizing outcome base n with
  | waiting | working => exact absurd hclosed (by simp)
  | refused _ hrefused => exact hrefused.elim
  | @finished task past outcome' htrace =>
    have hbegun : ((Plan.leaf task).tally ends base).begun = [base] := by
      change (Tally.ofOutcome base (ends base)).begun = [base]
      cases ends base <;> rfl
    rw [hbegun, List.mem_singleton]
    constructor
    · rintro rfl
      exact ⟨0, rfl, [], task, rfl, rfl, by simp [eventsHere]⟩
    · rintro ⟨k, rfl, place, task', hleaf, rfl, -⟩
      cases place with
      | nil => rfl
      | cons i place => exact absurd hleaf (by simp [Plan.at?])
  | @group mode nested plans parts run events own hlen hparts hplaces horder hstands ih =>
    subst hclosed
    have hget : ∀ {i : Nat} {plan : Plan Task}, plans[i]? = some plan →
        (Plan.tallies ends base plans)[i]? =
          some (plan.tally ends (base + Plan.sizeOf (plans.take i))) := by
      intro i plan hplan
      rw [Plan.getElem?_tallies, hplan]
      rfl
    have htells : ∀ {i : Nat} {plan : Plan Task} {value : Outcome Unit}, plans[i]? = some plan →
        parts[i]? = some (.closed value) →
        (plan.tally ends (base + Plan.sizeOf (plans.take i))).Tells value :=
      fun hplan hpart => (hparts _ _ _ hplan hpart).tells_tally hends (hleaves.part_numbered hplan)
    rw [Plan.tally, Tally.mem_begun_gather]
    constructor
    · rintro ⟨i, t, ht, hmem, hgood⟩
      rw [Plan.getElem?_tallies] at ht
      obtain ⟨plan, hplan, rfl⟩ := Option.map_eq_some_iff.1 ht
      -- Where all is well before the part, the parts before it have ended well, one by one.
      have hearlier : mode = .sequential → ∀ j, j < i → parts[j]? = some passed := by
        intro hmode j
        induction j using Nat.strongRecOn with
        | ind j hbefore =>
          intro hj
          have hi : j < plans.length := Nat.lt_trans hj (List.getElem?_eq_some_iff.1 hplan).1
          obtain ⟨part, hpart⟩ :=
            exists_getElem?_of_length_eq hlen.symm (List.getElem?_eq_getElem hi)
          obtain ⟨value, rfl⟩ := (hstands.part_closed_iff hpart).2 fun _ k hk =>
            hbefore k hk (Nat.lt_trans hk hj)
          have htell := htells (List.getElem?_eq_getElem hi) hpart
          rw [hpart, htell.isGood_iff.1
            (hgood hmode j _ hj (hget (List.getElem?_eq_getElem hi)))]
      obtain ⟨part, hpart⟩ := exists_getElem?_of_length_eq hlen.symm hplan
      obtain ⟨value, rfl⟩ := (hstands.part_closed_iff hpart).2 hearlier
      obtain ⟨k, hk, hbegun⟩ := (ih i plan _ hplan hpart rfl (hleaves.part_numbered hplan)).1 hmem
      refine ⟨_, (Nat.add_assoc ..).symm.trans hk, hasBegun_group.2 ⟨i, plan, k, hplan, rfl, ?_⟩⟩
      rwa [hstands.within_append_own]
    · rintro ⟨_, rfl, hwhole⟩
      obtain ⟨i, plan, k, hplan, rfl, hbegun⟩ := hasBegun_group.1 hwhole
      rw [hstands.within_append_own] at hbegun
      obtain ⟨part, hpart⟩ := exists_getElem?_of_length_eq hlen.symm hplan
      have hover : ∃ value, part = .closed value := by
        rcases hstands.at_rest part (List.mem_of_getElem? hpart) with hvalue | rfl | ⟨plan', rfl⟩
        · exact hvalue
        · exact ⟨_, rfl⟩
        · -- A part that is waiting has begun nothing.
          obtain ⟨-, hnone⟩ := (hparts i plan _ hplan hpart).of_waiting
          obtain ⟨place, task, -, -, hmem⟩ := hbegun
          rw [hnone] at hmem
          exact absurd hmem List.not_mem_nil
      have hearlier := (hstands.part_closed_iff hpart).1 hover
      obtain ⟨value, rfl⟩ := hover
      have hmem := (ih i plan _ hplan hpart rfl (hleaves.part_numbered hplan)).2 ⟨k, rfl, hbegun⟩
      refine ⟨i, _, hget hplan, by rwa [← Nat.add_assoc], fun hmode j u hj hu => ?_⟩
      rw [Plan.getElem?_tallies] at hu
      obtain ⟨plan', hplan', rfl⟩ := Option.map_eq_some_iff.1 hu
      exact (htells hplan' (hearlier hmode j hj)).isGood_iff.2 rfl

end Begun

/-! ## 6. Regrouping -/

/-- One plan becomes another when, anywhere in it, a group inside a group of the same mode is
dissolved, or a group is put around a node. -/
inductive Plan.Regroups {ℓ : Type} : Plan ℓ → Plan ℓ → Prop
  | splice (mode : Mode) (nested inner : Bool) (front middle back : List (Plan ℓ)) :
      Regroups (.group mode nested (front ++ .group mode inner middle :: back))
        (.group mode nested (front ++ middle ++ back))
  | wrap (mode : Mode) (nested : Bool) (plan : Plan ℓ) : Regroups plan (.group mode nested [plan])
  | inside (mode : Mode) (nested : Bool) (front back : List (Plan ℓ)) {plan plan' : Plan ℓ} :
      Regroups plan plan' → Regroups (.group mode nested (front ++ plan :: back))
        (.group mode nested (front ++ plan' :: back))

namespace Plan.Regroups

variable {ℓ : Type} {plan plan' : Plan ℓ}

/-- The tasks stay, and so does their order. -/
theorem tasks_eq (h : Regroups plan plan') : plan.tasks = plan'.tasks := by
  induction h with
  | splice => simp [tasks, tasksOf]
  | wrap => simp [tasks, tasksOf]
  | inside mode nested front back _ ih => simp [tasks, tasksOf, ih]

theorem size_eq (h : Regroups plan plan') : plan.size = plan'.size := by
  rw [← length_tasks, h.tasks_eq, length_tasks]

/-- **The tally stays.** -/
theorem tally_eq (h : Regroups plan plan') (ends : Nat → Outcome Unit) (base : Nat) :
    plan.tally ends base = plan'.tally ends base := by
  induction h generalizing base with
  | splice mode nested inner front middle back =>
    rw [tally, tally, tallies_append, tallies, tally, size, Tally.gather_splice, tallies_append,
      tallies_append, sizeOf_append, Nat.add_assoc]
  | wrap mode nested plan => rw [tally, tallies, tallies, Tally.gather_singleton]
  | inside mode nested front back h ih =>
    rw [tally, tally, tallies_append, tallies_append, tallies, tallies, ih, size_eq h]

end Plan.Regroups

/-- Plans that become each other by regrouping have the same tasks. -/
theorem Plan.tasks_eq_of_eqvGen {ℓ : Type} {plan plan' : Plan ℓ}
    (h : Relation.EqvGen Plan.Regroups plan plan') : plan.tasks = plan'.tasks := by
  induction h with
  | rel plan plan' h => exact h.tasks_eq
  | refl plan => rfl
  | symm plan plan' _ ih => exact ih.symm
  | trans plan mid plan' _ _ ih ih' => exact ih.trans ih'

/-- They have the same tally. -/
theorem Plan.tally_eq_of_eqvGen {ℓ : Type} {plan plan' : Plan ℓ}
    (h : Relation.EqvGen Plan.Regroups plan plan') (ends : Nat → Outcome Unit) (base : Nat) :
    plan.tally ends base = plan'.tally ends base := by
  induction h with
  | rel plan plan' h => exact h.tally_eq ends base
  | refl plan => rfl
  | symm plan plan' _ ih => exact ih.symm
  | trans plan mid plan' _ _ ih ih' => exact ih.trans ih'

/-! ## 7. Runs of plans that are regrouped -/

/-- A run of a plan that nobody cancels, in which the leaves end as their numbers say, comes to an
outcome with these events. -/
def ComesTo (plan : Plan Task) (ends : Nat → Outcome Unit) (events : List RunEvent)
    (outcome : Outcome Unit) : Prop :=
  ∃ (now : Moment) (moves : List (Move Request Request.Answer))
    (entries : List (Entry Request Request.Answer)) (s : Situation Run),
    (Run.about plan now false).follow Run.process moves = some (entries, s) ∧ Move.cancel ∉ moves ∧
      happened entries = events ∧ s.state.outcome? = some outcome ∧
      LeavesEnd plan events fun place => ends (plan.number place)

/-- Such a run is what the tally says. -/
theorem ComesTo.tally {plan : Plan Task} {ends : Nat → Outcome Unit} {events : List RunEvent}
    {outcome : Outcome Unit} (h : ComesTo plan ends events outcome)
    (hends : ∀ n text, ends n ≠ .panic text) :
    (plan.tally ends 0).Tells outcome ∧
      ∀ n, n ∈ (plan.tally ends 0).begun ↔ HasBegun plan events n := by
  obtain ⟨now, moves, entries, s, hrun, hmoves, rfl, hover, hleaves⟩ := h
  have hcancelled : s.cancelled = false := Situation.cancelled_of_follow hmoves hrun
  have htraced : Traced False plan s.state (work (happened entries)) :=
    (traced_follow hrun).mono (by simp [hcancelled])
  rw [outcome?_eq_some_iff.1 hover] at htraced
  have hwork : LeavesEnd plan (work (happened entries)) fun place =>
      ends (0 + plan.number place) := by
    simpa only [Nat.zero_add] using hleaves.of_happened
  refine ⟨htraced.tells_tally hends hwork, fun n => ?_⟩
  rw [htraced.mem_begun_iff hends rfl hwork]
  constructor
  · rintro ⟨k, rfl, place, task, hleaf, hnumber, hbegan⟩
    rw [Nat.zero_add]
    exact ⟨place, task, hleaf, hnumber, (mem_work.1 hbegan).1⟩
  · rintro ⟨place, task, hleaf, hnumber, hbegan⟩
    exact ⟨n, Nat.zero_add n, place, task, hleaf, hnumber, mem_work.2 ⟨hbegan, rfl⟩⟩

/-- **Regrouping is not noticed.**  Plans that become each other by dissolving groups and putting
groups in have the same tasks from left to right.  However their leaves end, as long as none of
them breaks off: if a run of the one and a run of the other are over, they have begun the same
leaves, and both have ended well or both have failed, with the same failures, which are worth
another attempt in both cases or in none. -/
theorem regrouping_unnoticed {plan plan' : Plan Task}
    (h : Relation.EqvGen Plan.Regroups plan plan') :
    plan.size = plan'.size ∧ plan.tasks = plan'.tasks ∧
      ∀ {ends : Nat → Outcome Unit} {events events' : List RunEvent}
        {outcome outcome' : Outcome Unit},
        (∀ n text, ends n ≠ .panic text) → ComesTo plan ends events outcome →
        ComesTo plan' ends events' outcome' →
        (∀ n, HasBegun plan events n ↔ HasBegun plan' events' n) ∧
          (outcome = .ok () ∧ outcome' = .ok () ∨
            ∃ cause cause', outcome = .fault cause ∧ outcome' = .fault cause' ∧
              cause.failures = cause'.failures ∧ cause.isRetryable = cause'.isRetryable) := by
  have htasks := Plan.tasks_eq_of_eqvGen h
  refine ⟨by rw [← Plan.length_tasks, htasks, Plan.length_tasks], htasks, ?_⟩
  intro ends events events' outcome outcome' hends hcomes hcomes'
  obtain ⟨htells, hbegun⟩ := hcomes.tally hends
  obtain ⟨htells', hbegun'⟩ := hcomes'.tally hends
  rw [← Plan.tally_eq_of_eqvGen h] at htells' hbegun'
  refine ⟨fun n => (hbegun n).symm.trans (hbegun' n), ?_⟩
  cases outcome with
  | ok value => exact .inl ⟨rfl, htells'.isGood_iff.1 htells.1⟩
  | panic text => exact htells.elim
  | fault cause =>
    cases outcome' with
    | ok value => exact absurd (htells.isGood_iff.1 htells'.1) (by simp)
    | panic text => exact htells'.elim
    | fault cause' => exact .inr ⟨cause, cause', rfl, rfl, htells.alike htells'⟩

/-! ## 8. A plan and a regrouping of it -/

/-- The ends among some events, each with its place. -/
def endsOf (events : List RunEvent) : List (Place × Outcome Unit) :=
  events.filterMap fun e => e.occurrence.end?.map (e.place, ·)

/-- How the leaves end, and so what a run comes to, is seen from the ends. -/
theorem comesTo_of_ends {plan : Plan Task} {now : Moment}
    {moves : List (Move Request Request.Answer)} {entries : List (Entry Request Request.Answer)}
    {s : Situation Run} {outcome : Outcome Unit}
    {ends : Nat → Outcome Unit} {ended : List (Place × Outcome Unit)}
    (hrun : (Run.about plan now false).follow Run.process moves = some (entries, s))
    (hmoves : Move.cancel ∉ moves) (hover : s.state.outcome? = some outcome)
    (hended : endsOf (happened entries) = ended)
    (hleaves : ∀ x ∈ ended, ∀ task, plan.at? x.1 = some (.leaf task) →
      x.2 = ends (plan.number x.1)) :
    ComesTo plan ends (happened entries) outcome := by
  refine ⟨now, moves, entries, s, hrun, hmoves, rfl, hover, ?_⟩
  intro place task outcome' hleaf hmem
  refine hleaves (place, outcome') ?_ task hleaf
  rw [← hended]
  exact List.mem_filterMap.2 ⟨_, hmem, rfl⟩

namespace Sample

def errand (number : Nat) : Plan Task := .leaf ⟨"errand", .supplied number none⟩

def together : Plan Task := .group .parallel false [errand 1, errand 2]

/-- The same errands, with a group around the second and another one around both. -/
def regrouped : Plan Task :=
  .group .sequential true [.group .parallel false [errand 1, .group .parallel true [errand 2]]]

/-- Both errands fail. -/
def failing : Nat → Outcome Unit
  | 0 => .fault (.precondition "locked")
  | _ => .fault (.precondition "closed")

def togetherMoves : List (Move Request Request.Answer) :=
  [.resume [] .start 1, .resume [0] .start 1, .resume [1] .start 1, mishap [1] (failing 1),
   mishap [0] (failing 0), .resume [] .settle 1]

def regroupedMoves : List (Move Request Request.Answer) :=
  [.resume [] .start 1, .resume [0, 0] .start 1, mishap [0, 0] (failing 0),
   .resume [0, 1] .start 1, .resume [0, 1, 0] .start 1, mishap [0, 1, 0] (failing 1),
   .resume [0, 1] .settle 1, .resume [0] .settle 1]

/-- What the moves of a plan lead to. -/
def reached (plan : Plan Task) (moves : List (Move Request Request.Answer)) :
    Option (List (Entry Request Request.Answer) × Situation Run) :=
  (Run.about plan ⟨0⟩ false).follow Run.process moves

/-- The second plan is a regrouping of the first. -/
theorem regroups_together : Relation.EqvGen Plan.Regroups together regrouped :=
  .trans _ _ _ (.rel _ _ (.inside .parallel false [errand 1] [] (.wrap .parallel true (errand 2))))
    (.rel _ _ (.wrap .sequential true _))

theorem together_comesTo : ∃ events, ComesTo together failing events
    (.fault (.aggregate [.precondition "locked", .precondition "closed"])) := by
  have hover : (reached together togetherMoves).isSome = true := rfl
  have hrun : (Run.about together ⟨0⟩ false).follow Run.process togetherMoves =
      some ((reached together togetherMoves).get hover) := (Option.some_get hover).symm
  have hended : endsOf (happened ((reached together togetherMoves).get hover).1) =
      [([1], failing 1), ([0], failing 0),
        ([], .fault (.aggregate [.precondition "locked", .precondition "closed"]))] := rfl
  refine ⟨_, comesTo_of_ends hrun (by simp [togetherMoves, mishap]) rfl hended ?_⟩
  intro x hx task hleaf
  simp only [List.mem_cons, List.not_mem_nil, or_false] at hx
  rcases hx with rfl | rfl | rfl
  · rfl
  · rfl
  · exact absurd (Option.some.inj hleaf) (by simp [together])

theorem regrouped_comesTo : ∃ events, ComesTo regrouped failing events
    (.fault (.aggregate [.precondition "locked", .aggregate [.precondition "closed"]])) := by
  have hover : (reached regrouped regroupedMoves).isSome = true := rfl
  have hrun : (Run.about regrouped ⟨0⟩ false).follow Run.process regroupedMoves =
      some ((reached regrouped regroupedMoves).get hover) := (Option.some_get hover).symm
  have hended : endsOf (happened ((reached regrouped regroupedMoves).get hover).1) =
      [([0, 0], failing 0), ([0, 1, 0], failing 1),
        ([0, 1], .fault (.aggregate [.precondition "closed"])),
        ([0], .fault (.aggregate [.precondition "locked", .aggregate [.precondition "closed"]])),
        ([], .fault (.aggregate [.precondition "locked", .aggregate [.precondition "closed"]]))] :=
    rfl
  refine ⟨_, comesTo_of_ends hrun (by simp [regroupedMoves, mishap]) rfl hended
    fun x hx task hleaf => ?_⟩
  simp only [List.mem_cons, List.not_mem_nil, or_false] at hx
  rcases hx with rfl | rfl | rfl | rfl | rfl
  · rfl
  · rfl
  all_goals exact absurd hleaf (by simp [regrouped, Plan.at?])

end Sample

/-- The second run has a collection in a collection, and the same failures all the same. -/
theorem regrouping_unnoticed_of_errands : ∃ events events',
    (∀ n, HasBegun Sample.together events n ↔ HasBegun Sample.regrouped events' n) ∧
      (Fault.aggregate [.precondition "locked", .precondition "closed"]).failures =
        (Fault.aggregate
          [.precondition "locked", .aggregate [.precondition "closed"]]).failures := by
  obtain ⟨events, hcomes⟩ := Sample.together_comesTo
  obtain ⟨events', hcomes'⟩ := Sample.regrouped_comesTo
  have hends : ∀ n text, Sample.failing n ≠ .panic text := by
    intro n text
    cases n <;> simp [Sample.failing]
  obtain ⟨-, -, hunnoticed⟩ := regrouping_unnoticed Sample.regroups_together
  obtain ⟨hbegun, ⟨hok, -⟩ | ⟨cause, cause', hcause, hcause', hfailures, -⟩⟩ :=
    hunnoticed hends hcomes hcomes'
  · exact absurd hok (by simp)
  · obtain rfl := Outcome.fault.inj hcause
    obtain rfl := Outcome.fault.inj hcause'
    exact ⟨events, events', hbegun, hfailures⟩

end Teardown
