/-
# Service accounts

An account of the cluster is known by its namespace and its name, written `namespace/name`.  Both
parts are non-empty and neither holds the separator; `parse` refuses every other text, with a
fault that quotes it.  Which text names an account is decided late, when the account is about to
be deleted: the plan carries texts, since a stack may have a name that is none of an account.

The reading goes through characters.  `parseChars?` cuts at the first separator and refuses a
second one, so that `parseChars?_eq_some_iff` can say in one line which parts are read: those on
both sides of the only separator.  `parse?_eq_some_iff` lifts it to texts: what is read is just
what is written of accounts with such parts (`IsWhole`).

Accounts are ordered by their parts and not by their texts.  That is another order, since a dash
stands before the separator.
-/
import Teardown.Text.Blank
import Teardown.Fault

namespace Teardown

/-- A service account of the cluster. -/
structure Account where
  namespaceName : String
  name : String
deriving DecidableEq, Inhabited

namespace Account

/-! ## 1. Writing and reading -/

def text (a : Account) : String := a.namespaceName ++ "/" ++ a.name

/-- The parts of a written form, as characters. -/
def parseChars? (s : List Char) : Option (List Char × List Char) :=
  let space := s.takeWhile (· ≠ '/')
  match s.dropWhile (· ≠ '/') with
  | _ :: name =>
    if space.isEmpty ∨ name.isEmpty ∨ '/' ∈ name then none else some (space, name)
  | [] => none

def parse? (s : String) : Option Account :=
  (parseChars? s.toList).map fun (space, name) => ⟨String.ofList space, String.ofList name⟩

def malformed (s : String) : Fault :=
  .precondition ("unexpected serviceaccount name format " ++ Text.quote s ++
    " (expected namespace/name)")

/-- The account with a written form, or the fault of there being none. -/
def parse (s : String) : Except Fault Account :=
  match parse? s with
  | some a => .ok a
  | none => .error (malformed s)

/-- Whether both parts are there and neither holds the separator. -/
def IsWhole (a : Account) : Prop :=
  (a.namespaceName ≠ "" ∧ '/' ∉ a.namespaceName.toList) ∧ a.name ≠ "" ∧ '/' ∉ a.name.toList

instance (a : Account) : Decidable a.IsWhole := by unfold IsWhole; infer_instance

theorem takeWhile_append_slash {space rest : List Char} (h : '/' ∉ space) :
    (space ++ '/' :: rest).takeWhile (· ≠ '/') = space := by
  have hall : ∀ c ∈ space, decide (c ≠ '/') = true := fun c hc =>
    decide_eq_true fun e => h (e ▸ hc)
  rw [List.takeWhile_append_of_pos hall]
  simp

theorem dropWhile_append_slash {space rest : List Char} (h : '/' ∉ space) :
    (space ++ '/' :: rest).dropWhile (· ≠ '/') = '/' :: rest := by
  have hall : ∀ c ∈ space, decide (c ≠ '/') = true := fun c hc =>
    decide_eq_true fun e => h (e ▸ hc)
  rw [List.dropWhile_append_of_pos hall]
  simp

/-- The parts that are read are those on both sides of the only separator. -/
theorem parseChars?_eq_some_iff {s space name : List Char} :
    parseChars? s = some (space, name) ↔
      s = space ++ '/' :: name ∧ (space ≠ [] ∧ '/' ∉ space) ∧ name ≠ [] ∧ '/' ∉ name := by
  constructor
  · intro h
    unfold parseChars? at h
    split at h
    · rename_i c rest hrest
      have hc : c = '/' := by
        have := List.head?_dropWhile_not (fun c => decide (c ≠ '/')) s
        rw [hrest] at this
        simpa using this
      have hs : s.takeWhile (· ≠ '/') ++ s.dropWhile (· ≠ '/') = s :=
        List.takeWhile_append_dropWhile
      have hspace : '/' ∉ s.takeWhile (· ≠ '/') := fun hm => by
        simpa using List.all_eq_true.1 List.all_takeWhile _ hm
      dsimp only at h
      split at h
      · exact absurd h (by simp)
      · rename_i hw
        simp only [Option.some.injEq, Prod.mk.injEq] at h
        simp only [not_or, List.isEmpty_iff] at hw
        obtain ⟨rfl, rfl⟩ := h
        rw [hrest, hc] at hs
        exact ⟨hs.symm, ⟨hw.1, hspace⟩, hw.2.1, hw.2.2⟩
    · exact absurd h (by simp)
  · rintro ⟨rfl, ⟨hs, hs'⟩, hn, hn'⟩
    unfold parseChars?
    rw [takeWhile_append_slash hs', dropWhile_append_slash hs']
    simp [hs, hn, hn']

/-- What is read is just what is written of accounts with such parts. -/
theorem parse?_eq_some_iff {s : String} {a : Account} :
    parse? s = some a ↔ s = a.text ∧ a.IsWhole := by
  have hempty (t : String) : t ≠ "" ↔ t.toList ≠ [] := by simp
  have htext : s = a.text ↔ s.toList = a.namespaceName.toList ++ '/' :: a.name.toList := by
    rw [← String.toList_inj]
    simp [text, String.toList_append]
  rw [htext]
  unfold parse? IsWhole
  rw [hempty, hempty, ← parseChars?_eq_some_iff]
  cases a with
  | mk space name =>
    simp only [Option.map_eq_some_iff, Prod.exists, Account.mk.injEq]
    constructor
    · rintro ⟨u, v, h, rfl, rfl⟩
      simpa using h
    · intro h
      exact ⟨_, _, h, by simp, by simp⟩

/-! ## 2. Order -/

/-- Accounts are ordered by namespace, then by name. -/
def precedes (a b : Account) : Bool :=
  if a.namespaceName = b.namespaceName then !decide (b.name < a.name)
  else decide (a.namespaceName < b.namespaceName)

/-- The accounts of a list in order, each once. -/
def sortUnique (accounts : List Account) : List Account :=
  (accounts.mergeSort precedes).eraseReps

/-! ## Worked examples -/

example : parseChars? ['a', '/', 'b'] = some (['a'], ['b']) := by decide

example : parseChars? ['a', '/', 'b', '/'] = none := by decide

example : parseChars? ['/', 'b'] = none := by decide

end Account

end Teardown
