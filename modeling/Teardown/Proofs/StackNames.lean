/-
# The names of stacks, and what they name

A cluster has a stack for its control plane, one for each node group and one for the role of each
service account (`Resource`), and everything is done to a stack under its name.  So the names of
different resources should be different.

The names of different kinds are: after the cluster they go on with different words
(`Resource.ending`).  Node groups have different names, too.  But the name of an account's stack
puts a dash between the namespace and the name of the account, and both may hold dashes
themselves.  What stands between two dashes of this name can be the end of the namespace, or the
beginning of the account's name (`Account.Shifted`), and nothing tells which.

* §1  resources and the names of their stacks.  The cluster is the same in front, so names are
      compared by their endings.
* §2  confused accounts: the ones that are told apart only by where the dash belongs.
* §3  inventories of stacks so named.

`stack_names_apart_iff` says that this is the only way in which two resources of a cluster come to
one name, and that an inventory of stacks so named is accepted exactly if no two of its resources
do.  Resources of different clusters are not compared; a cluster named like the beginning of
another one could well have a stack of the same name.
-/
import Teardown.Proofs.Coverage

namespace Teardown

/-! ## 1. Resources -/

/-- What a cluster has a stack for. -/
inductive Resource
  | controlPlane
  | nodeGroup (name : String)
  | account (binding : Account)
deriving DecidableEq

def Resource.stackName (cluster : String) : Resource → String
  | .controlPlane => clusterStackName cluster
  | .nodeGroup name => nodeGroupStackName cluster name
  | .account binding => accountStackName cluster binding

/-- The parts of an account with a dash between them. -/
def Account.joined (a : Account) : String := a.namespaceName ++ "-" ++ a.name

/-- What follows the cluster in the name of a stack. -/
def Resource.ending : Resource → String
  | .controlPlane => "cluster"
  | .nodeGroup name => "nodegroup-" ++ name
  | .account binding => "addon-iamserviceaccount-" ++ binding.joined

/-- The name of a stack begins with the cluster. -/
theorem Resource.stackName_eq (cluster : String) (r : Resource) :
    r.stackName cluster = "strata-" ++ cluster ++ ("-" ++ r.ending) := by
  -- In each name the dash and what follows it are written as one text.
  have hdash {word more : String} : "-" ++ (word ++ more) = "-" ++ word ++ more :=
    String.append_assoc.symm
  cases r with
  | controlPlane =>
    have hword : "-" ++ "cluster" = "-cluster" := by decide
    exact congrArg ("strata-" ++ cluster ++ ·) hword.symm
  | nodeGroup name =>
    have hword : "-" ++ "nodegroup-" = Stack.nodeGroupInfix := by decide
    unfold ending
    rw [hdash, hword, ← String.append_assoc]
    rfl
  | account binding =>
    have hword : "-" ++ "addon-iamserviceaccount-" = "-addon-iamserviceaccount-" := by decide
    unfold ending Account.joined
    rw [hdash, hword]
    simp only [← String.append_assoc]
    rfl

theorem Resource.stackName_eq_iff (cluster : String) (r r' : Resource) :
    r.stackName cluster = r'.stackName cluster ↔ r.ending = r'.ending := by
  rw [r.stackName_eq, r'.stackName_eq, String.append_right_inj, String.append_right_inj]

/-! ## 2. Confused accounts -/

/-- The second account is the first one with the dash moved: a piece of text that begins the first
name ends the second namespace. -/
def Account.Shifted (a b : Account) : Prop :=
  ∃ piece, b.namespaceName = a.namespaceName ++ "-" ++ piece ∧ a.name = piece ++ "-" ++ b.name

/-- Two accounts that are told apart only by where the namespace ends. -/
def Account.Confused (a b : Account) : Prop := a.Shifted b ∨ b.Shifted a

/-- Two resources that are confused: both are accounts. -/
def Resource.Confused (r r' : Resource) : Prop :=
  ∃ a b, r = .account a ∧ r' = .account b ∧ a.Confused b

/-- Where two texts with the same character between their parts agree, the parts do, or one of
the two ends within a part of the other. -/
theorem append_cons_eq_iff {c : Char} {first last first' last' : List Char} :
    first ++ c :: last = first' ++ c :: last' ↔ (first = first' ∧ last = last') ∨
      (∃ piece, first' = first ++ c :: piece ∧ last = piece ++ c :: last') ∨
      ∃ piece, first = first' ++ c :: piece ∧ last' = piece ++ c :: last := by
  constructor
  · intro heq
    rcases List.append_eq_append_iff.1 heq with ⟨more, hfirst, hmore⟩ | ⟨more, hfirst, hmore⟩
    · cases more with
      | nil => exact .inl ⟨by simpa using hfirst.symm, (List.cons.inj hmore).2⟩
      | cons d piece =>
        obtain ⟨rfl, hlast⟩ := List.cons.inj hmore
        exact .inr (.inl ⟨piece, hfirst, hlast⟩)
    · cases more with
      | nil => exact .inl ⟨by simpa using hfirst, (List.cons.inj hmore).2.symm⟩
      | cons d piece =>
        obtain ⟨rfl, hlast⟩ := List.cons.inj hmore
        exact .inr (.inr ⟨piece, hfirst, hlast⟩)
  · rintro (⟨rfl, rfl⟩ | ⟨piece, rfl, rfl⟩ | ⟨piece, rfl, rfl⟩)
    · rfl
    · simp
    · simp

theorem Account.shifted_iff (a b : Account) : a.Shifted b ↔
    ∃ piece, b.namespaceName.toList = a.namespaceName.toList ++ '-' :: piece ∧
      a.name.toList = piece ++ '-' :: b.name.toList := by
  constructor
  · rintro ⟨piece, hspace, hname⟩
    exact ⟨piece.toList, by simp [hspace], by simp [hname]⟩
  · rintro ⟨piece, hspace, hname⟩
    refine ⟨String.ofList piece, ?_, ?_⟩
    · rw [← String.toList_inj, hspace]
      simp
    · rw [← String.toList_inj, hname]
      simp

/-- **Two accounts are joined to one text** exactly if they are the same or confused. -/
theorem Account.joined_eq_iff (a b : Account) : a.joined = b.joined ↔ a = b ∨ a.Confused b := by
  have hchars : a.joined = b.joined ↔ a.namespaceName.toList ++ '-' :: a.name.toList =
      b.namespaceName.toList ++ '-' :: b.name.toList := by
    rw [← String.toList_inj]
    simp [joined]
  have hsame : a = b ↔ a.namespaceName.toList = b.namespaceName.toList ∧
      a.name.toList = b.name.toList := by
    rw [String.toList_inj, String.toList_inj]
    cases a
    cases b
    simp
  rw [hchars, append_cons_eq_iff, Confused, shifted_iff, shifted_iff, hsame]

/-- The first letter of an ending tells the kind of the resource. -/
theorem Resource.head?_ending (r : Resource) : r.ending.toList.head? =
    match r with
    | .controlPlane => some 'c'
    | .nodeGroup _ => some 'n'
    | .account _ => some 'a' := by
  cases r with
  | controlPlane => rfl
  | nodeGroup name =>
    unfold ending
    rw [String.toList_append]
    rfl
  | account binding =>
    unfold ending
    rw [String.toList_append]
    rfl

/-- **Two names end alike** exactly if the resources are the same or confused. -/
theorem Resource.ending_eq_iff (r r' : Resource) : r.ending = r'.ending ↔ r = r' ∨ r.Confused r' := by
  constructor
  · intro heq
    have hinitial := r.head?_ending
    rw [heq, r'.head?_ending] at hinitial
    cases r with
    | controlPlane =>
      cases r' with
      | controlPlane => exact .inl rfl
      | nodeGroup | account => exact absurd hinitial (by simp)
    | nodeGroup name =>
      cases r' with
      | nodeGroup name' => exact .inl (congrArg nodeGroup ((String.append_right_inj _).1 heq))
      | controlPlane | account => exact absurd hinitial (by simp)
    | account a =>
      cases r' with
      | account b =>
        rcases (a.joined_eq_iff b).1 ((String.append_right_inj _).1 heq) with rfl | hconfused
        · exact .inl rfl
        · exact .inr ⟨a, b, rfl, rfl, hconfused⟩
      | controlPlane | nodeGroup => exact absurd hinitial (by simp)
  · rintro (rfl | ⟨a, b, rfl, rfl, hconfused⟩)
    · rfl
    · exact congrArg ("addon-iamserviceaccount-" ++ ·) ((a.joined_eq_iff b).2 (.inr hconfused))

/-! ## 3. Inventories of stacks so named -/

theorem Resource.stackName_ne_iff (cluster : String) (r r' : Resource) :
    r.stackName cluster ≠ r'.stackName cluster ↔ r ≠ r' ∧ ¬ r.Confused r' := by
  rw [Ne, r.stackName_eq_iff, r.ending_eq_iff, not_or]

/-- **Names tell the resources of a cluster apart**, but for accounts that differ only in where the
namespace ends.  So an inventory with the stacks of some resources is accepted exactly if no
resource is there twice and no two accounts are confused. -/
theorem stack_names_apart_iff (cluster : String) :
    (∀ r r' : Resource, r.stackName cluster = r'.stackName cluster ↔ r = r' ∨ r.Confused r') ∧
    ∀ (i : Inventory) (resources : List Resource), i.cluster = cluster →
      (Text.trim cluster).isEmpty = false →
      i.listing.map Stack.name = resources.map (Resource.stackName cluster) →
      (i.contradiction? = none ↔ resources.Pairwise fun r r' => r ≠ r' ∧ ¬ r.Confused r') := by
  constructor
  · intro r r'
    rw [r.stackName_eq_iff, r.ending_eq_iff]
  · intro i resources hof hcluster hnames
    rw [Inventory.contradiction?_eq_none_iff, hof, hnames, List.nodup_iff_pairwise_ne,
      List.pairwise_map]
    simp only [hcluster, true_and, Resource.stackName_ne_iff]

/-- An account whose namespace has no dash is confused with none of this kind. -/
theorem Account.not_confused {a b : Account} (ha : '-' ∉ a.namespaceName.toList)
    (hb : '-' ∉ b.namespaceName.toList) : ¬ a.Confused b := by
  rintro (⟨piece, hspace, -⟩ | ⟨piece, hspace, -⟩)
  · exact hb (by simp [hspace])
  · exact ha (by simp [hspace])

namespace Sample

/-- A control plane, a node group and two accounts of which the names have dashes. -/
def resources : List Resource :=
  [.controlPlane, .nodeGroup "blue", .account ⟨"default", "dns-a"⟩, .account ⟨"kube", "system-dns"⟩]

def namedStacks : Inventory :=
  ⟨"demo", true, resources.map fun r => .plain (r.stackName "demo") .cluster .createComplete⟩

end Sample

/-- The sample inventory is accepted, for its namespaces have no dashes. -/
theorem stack_names_apart_sample : Sample.namedStacks.contradiction? = none := by
  have hcluster : (Text.trim "demo").isEmpty = false := by decide +kernel
  have happart : Sample.resources.Pairwise fun r r' => r ≠ r' ∧ ¬ r.Confused r' := by
    have haccounts : ¬ (Account.mk "default" "dns-a").Confused ⟨"kube", "system-dns"⟩ :=
      Account.not_confused (by decide) (by decide)
    simp [Sample.resources, Resource.Confused, haccounts]
  exact ((stack_names_apart_iff "demo").2 Sample.namedStacks Sample.resources rfl hcluster rfl).2 happart

/-- **Two accounts with one stack name**, both of them properly written: the dash may belong to the
namespace or to the name. -/
theorem accounts_confused :
    Account.parse "kube/system-dns" = .ok ⟨"kube", "system-dns"⟩ ∧
      Account.parse "kube-system/dns" = .ok ⟨"kube-system", "dns"⟩ ∧
      accountStackName "demo" ⟨"kube", "system-dns"⟩ =
        accountStackName "demo" ⟨"kube-system", "dns"⟩ ∧
      ¬ ∀ (cluster : String) (r r' : Resource), r ≠ r' →
        (∀ a, r = .account a ∨ r' = .account a → Account.parse a.text = .ok a) →
        r.stackName cluster ≠ r'.stackName cluster := by
  have hfirst : Account.parse "kube/system-dns" = .ok ⟨"kube", "system-dns"⟩ := rfl
  have hsecond : Account.parse "kube-system/dns" = .ok ⟨"kube-system", "dns"⟩ := rfl
  have hnames : accountStackName "demo" ⟨"kube", "system-dns"⟩ =
      accountStackName "demo" ⟨"kube-system", "dns"⟩ := by decide
  refine ⟨hfirst, hsecond, hnames, fun hclaim => ?_⟩
  refine hclaim "demo" (.account ⟨"kube", "system-dns"⟩) (.account ⟨"kube-system", "dns"⟩)
    (by decide) ?_ hnames
  rintro a (ha | ha)
  · obtain rfl := Resource.account.inj ha
    exact hfirst
  · obtain rfl := Resource.account.inj ha
    exact hsecond

end Teardown
