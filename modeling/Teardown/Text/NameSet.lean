/-
# Sets of names and tables of tags

A set of names is kept as its strictly increasing list, so that equal sets are equal values and
every listing of a set comes in one order.  The order is that of the code points, which is also
the order of the UTF-8 bytes.  A tag table is kept the same way, by its keys.

The order of the list is a field of the type, so no set out of order can be made, and what is said
of a set needs no hypothesis about it.  An increasing list is determined by its members
(`eq_of_mem_iff`), and with that two sets are equal if they have the same members.

Main facts: `NameSet.mem_ofList` (a set made from a list has the members of the list),
`NameSet.mem_diff`, and `NameSet.ext_mem` (two sets with the same members are equal).

* §1  increasing lists.
* §2  sets, with one lemma for each operation that says which members it has.
* §3  tags.
-/

namespace Teardown

/-! ## 1. Inserting into an increasing list -/

/-- A name put into an increasing list, unless it is there already. -/
def insertName (name : String) : List String → List String
  | [] => [name]
  | x :: rest =>
    if name < x then name :: x :: rest
    else if name = x then x :: rest
    else x :: insertName name rest

theorem mem_insertName {a name : String} {l : List String} :
    a ∈ insertName name l ↔ a = name ∨ a ∈ l := by
  induction l with
  | nil => simp [insertName]
  | cons x rest ih =>
    simp only [insertName]
    split
    · simp
    · split
      · rename_i h; subst h; simp
      · simp only [List.mem_cons, ih]
        constructor <;> rintro (h | h | h) <;> simp [h]

theorem lt_of_not_lt_of_ne {a b : String} (h : ¬ a < b) (h' : a ≠ b) : b < a := by
  refine Decidable.byContradiction fun hba => h' ?_
  exact String.le_antisymm (String.not_lt.1 hba) (String.not_lt.1 h)

theorem pairwise_insertName {name : String} {l : List String} (h : l.Pairwise (· < ·)) :
    (insertName name l).Pairwise (· < ·) := by
  induction l with
  | nil => simp [insertName]
  | cons x rest ih =>
    obtain ⟨hx, hrest⟩ := List.pairwise_cons.1 h
    simp only [insertName]
    split
    · rename_i hlt
      refine List.pairwise_cons.2 ⟨fun a ha => ?_, h⟩
      rcases List.mem_cons.1 ha with rfl | ha
      · exact hlt
      · exact String.lt_trans hlt (hx a ha)
    · split
      · exact h
      · rename_i hlt hne
        refine List.pairwise_cons.2 ⟨fun a ha => ?_, ih hrest⟩
        rcases mem_insertName.1 ha with rfl | ha
        · exact lt_of_not_lt_of_ne hlt hne
        · exact hx a ha

/-- An increasing list is determined by its members. -/
theorem eq_of_mem_iff {l m : List String} (hl : l.Pairwise (· < ·)) (hm : m.Pairwise (· < ·))
    (h : ∀ a, a ∈ l ↔ a ∈ m) : l = m := by
  induction l generalizing m with
  | nil =>
    cases m with
    | nil => rfl
    | cons y m => exact absurd ((h y).2 List.mem_cons_self) (List.not_mem_nil)
  | cons x l ih =>
    cases m with
    | nil => exact absurd ((h x).1 List.mem_cons_self) (List.not_mem_nil)
    | cons y m =>
      obtain ⟨hx, hl⟩ := List.pairwise_cons.1 hl
      obtain ⟨hy, hm'⟩ := List.pairwise_cons.1 hm
      have hxy : x = y := by
        rcases List.mem_cons.1 ((h x).1 List.mem_cons_self) with e | hxm
        · exact e
        · rcases List.mem_cons.1 ((h y).2 List.mem_cons_self) with e | hyl
          · exact e.symm
          · exact absurd (hy x hxm) (String.lt_asymm (hx y hyl))
      subst hxy
      refine congrArg (x :: ·) (ih hl hm' fun a => ⟨fun ha => ?_, fun ha => ?_⟩)
      · rcases List.mem_cons.1 ((h a).1 (List.mem_cons_of_mem _ ha)) with e | h'
        · exact absurd (hx a ha) (e ▸ String.lt_irrefl a)
        · exact h'
      · rcases List.mem_cons.1 ((h a).2 (List.mem_cons_of_mem _ ha)) with e | h'
        · exact absurd (hy a ha) (e ▸ String.lt_irrefl a)
        · exact h'

/-! ## 2. Sets of names -/

/-- A finite set of names, as its increasing list. -/
structure NameSet where
  toList : List String
  increasing : toList.Pairwise (· < ·)
deriving DecidableEq

namespace NameSet

def empty : NameSet := ⟨[], List.Pairwise.nil⟩

instance : Inhabited NameSet := ⟨empty⟩

def insert (s : NameSet) (name : String) : NameSet :=
  ⟨insertName name s.toList, pairwise_insertName s.increasing⟩

def ofList (names : List String) : NameSet :=
  names.foldl insert empty

instance : Membership String NameSet := ⟨fun s name => name ∈ s.toList⟩

instance (name : String) (s : NameSet) : Decidable (name ∈ s) :=
  inferInstanceAs (Decidable (name ∈ s.toList))

def isEmpty (s : NameSet) : Bool := s.toList.isEmpty

def filter (s : NameSet) (keep : String → Bool) : NameSet :=
  ⟨s.toList.filter keep, s.increasing.filter _⟩

/-- The members of the first set that the second lacks. -/
def diff (s t : NameSet) : NameSet :=
  s.filter fun name => !decide (name ∈ t)

theorem mem_iff {a : String} {s : NameSet} : a ∈ s ↔ a ∈ s.toList := Iff.rfl

theorem mem_insert {a name : String} {s : NameSet} : a ∈ s.insert name ↔ a = name ∨ a ∈ s :=
  mem_insertName

theorem not_mem_empty (a : String) : ¬ a ∈ empty := by
  simp [mem_iff, empty]

theorem mem_foldl_insert {a : String} (names : List String) (s : NameSet) :
    a ∈ names.foldl insert s ↔ a ∈ names ∨ a ∈ s := by
  induction names generalizing s with
  | nil => simp
  | cons x rest ih =>
    rw [List.foldl_cons, ih, mem_insert, List.mem_cons, or_left_comm, or_assoc]

theorem mem_ofList {a : String} {names : List String} : a ∈ ofList names ↔ a ∈ names := by
  simp [ofList, mem_foldl_insert, not_mem_empty]

theorem mem_diff {a : String} {s t : NameSet} : a ∈ s.diff t ↔ a ∈ s ∧ ¬ a ∈ t := by
  rw [mem_iff, diff, filter, List.mem_filter]
  simp [mem_iff]

/-- Two sets with the same members are equal. -/
theorem ext_mem {s t : NameSet} (h : ∀ a, a ∈ s ↔ a ∈ t) : s = t := by
  obtain ⟨l, hl⟩ := s
  obtain ⟨m, hm⟩ := t
  have : l = m := eq_of_mem_iff hl hm h
  subst this
  rfl

end NameSet

/-! ## 3. Tags -/

/-- A tag put into a table that is increasing by key; an equal key takes the new value. -/
def insertTag (key value : String) : List (String × String) → List (String × String)
  | [] => [(key, value)]
  | (k, v) :: rest =>
    if key < k then (key, value) :: (k, v) :: rest
    else if key = k then (k, value) :: rest
    else (k, v) :: insertTag key value rest

theorem keys_insertTag (key value : String) (l : List (String × String)) :
    (insertTag key value l).map Prod.fst = insertName key (l.map Prod.fst) := by
  induction l with
  | nil => rfl
  | cons x rest ih =>
    obtain ⟨k, v⟩ := x
    simp only [insertTag, List.map_cons, insertName]
    split
    · simp
    · split
      · simp
      · simp [ih]

/-- The tags of a stack: a table from keys to values, increasing by key. -/
structure Tags where
  entries : List (String × String)
  increasing : (entries.map Prod.fst).Pairwise (· < ·)
deriving DecidableEq

namespace Tags

def empty : Tags := ⟨[], List.Pairwise.nil⟩

instance : Inhabited Tags := ⟨empty⟩

def insert (t : Tags) (key value : String) : Tags :=
  ⟨insertTag key value t.entries, by
    rw [keys_insertTag]; exact pairwise_insertName t.increasing⟩

/-- The table of the entries of a list; of two entries with one key the later counts. -/
def ofList (entries : List (String × String)) : Tags :=
  entries.foldl (fun t entry => t.insert entry.1 entry.2) empty

/-- The value under a key. -/
def get? (t : Tags) (key : String) : Option String :=
  t.entries.lookup key

end Tags

/-! ## Worked examples -/

example : (NameSet.ofList ["b", "a", "b"]).toList = ["a", "b"] := by decide

example : (Tags.ofList [("k", "1"), ("k", "2")]).get? "k" = some "2" := by decide

end Teardown
