/-
# Accounts as they are written

An account is written as its namespace and its name with a separator between them.  Which texts
are written so can be said without reading them: there is one separator, and something on each
side of it (`Account.Names`).  Reading and writing are inverse to each other between these texts
and the accounts of which both parts are there and hold no separator (`Account.IsWhole`).

Every other text is refused, and so is what is written of any other account: it is never taken for
an account that is written the same way, since no whole one is (`Account.eq_of_text_eq`).

The reader works on characters from left to right and knows nothing of how often a separator
occurs.  The two notions meet in `Account.names_iff`, and `count_eq_one_iff` is all that is needed
about counting.  Which characters the parts are made of makes no difference, so the statement is
about all strings and not only about names that a cluster would accept.
-/
import Teardown.Proofs.Pieces
import Teardown.Proofs.ProperNames

namespace Teardown

namespace Account

/-! ## 1. Texts that name an account -/

/-- `Names text`: there is one separator in the text, and something on each side of it. -/
def Names (text : String) : Prop :=
  text.toList.count '/' = 1 ∧
    ∀ before after, text.toList = before ++ '/' :: after → before ≠ [] ∧ after ≠ []

variable {text : String} {a b : Account}

theorem toList_text (a : Account) :
    a.text.toList = a.namespaceName.toList ++ '/' :: a.name.toList := by
  simp [Account.text, String.toList_append]

/-- A separator is the only one if there is none before it and none after it. -/
theorem count_eq_one_iff {before after : List Char} :
    (before ++ '/' :: after).count '/' = 1 ↔ '/' ∉ before ∧ '/' ∉ after := by
  rw [List.count_append, List.count_cons_self, ← List.count_eq_zero, ← List.count_eq_zero]
  omega

/-- A whole account is the only one that is written in its way. -/
theorem eq_of_text_eq (hb : b.IsWhole) (h : a.text = b.text) : a = b := by
  obtain ⟨⟨-, hspace⟩, -, hname⟩ := hb
  have hchars : a.namespaceName.toList ++ '/' :: a.name.toList =
      b.namespaceName.toList ++ '/' :: b.name.toList := by
    rw [← toList_text, ← toList_text, h]
  -- So the other account holds no separator either, and its parts end at the same place.
  have hcount := hchars ▸ count_eq_one_iff.2 ⟨hspace, hname⟩
  obtain ⟨hspaces, hnames⟩ := Text.append_cons_inj (count_eq_one_iff.1 hcount).1 hspace hchars
  obtain ⟨space, name⟩ := a
  obtain ⟨space', name'⟩ := b
  obtain rfl : space = space' := String.toList_inj.1 hspaces
  obtain rfl : name = name' := String.toList_inj.1 hnames
  rfl

theorem IsWhole.names (h : a.IsWhole) : Names a.text := by
  obtain ⟨⟨hspace, hspace'⟩, hname, hname'⟩ := h
  have hcount : a.text.toList.count '/' = 1 := by
    rw [toList_text]
    exact count_eq_one_iff.2 ⟨hspace', hname'⟩
  refine ⟨hcount, fun before after hsplit => ?_⟩
  have hbefore : '/' ∉ before := (count_eq_one_iff.1 (hsplit ▸ hcount)).1
  rw [toList_text] at hsplit
  obtain ⟨rfl, rfl⟩ := Text.append_cons_inj hspace' hbefore hsplit
  exact ⟨mt String.toList_eq_nil_iff.1 hspace, mt String.toList_eq_nil_iff.1 hname⟩

/-- **The texts that name an account** are what is written of whole accounts. -/
theorem names_iff : Names text ↔ ∃ a : Account, text = a.text ∧ a.IsWhole := by
  constructor
  · rintro ⟨hcount, hparts⟩
    have hthere : '/' ∈ text.toList := List.count_pos_iff.1 (hcount ▸ Nat.one_pos)
    obtain ⟨before, after, hsplit⟩ := List.append_of_mem hthere
    obtain ⟨hbefore, hafter⟩ := hparts before after hsplit
    obtain ⟨hbefore', hafter'⟩ := count_eq_one_iff.1 (hsplit ▸ hcount)
    refine ⟨⟨.ofList before, .ofList after⟩, ?_, ⟨?_, ?_⟩, ?_, ?_⟩
    · rw [← String.toList_inj, toList_text, hsplit, String.toList_ofList, String.toList_ofList]
    · simpa using hbefore
    · simpa using hbefore'
    · simpa using hafter
    · simpa using hafter'
  · rintro ⟨a, rfl, ha⟩
    exact ha.names

/-- What is written of an account that is not whole names none. -/
theorem parse_text_of_not_isWhole (h : ¬ a.IsWhole) : parse a.text = .error (malformed a.text) := by
  refine parse_eq_error ?_
  rintro ⟨b, hb⟩
  obtain ⟨htext, hwhole⟩ := parse_eq_ok_iff.1 hb
  exact h (eq_of_text_eq hwhole htext ▸ hwhole)

end Account

/-! ## 2. Reading and writing -/

/-- **Accounts are read and written inversely.**  A text is read exactly if it names an account, and then the
account is written as this text; every other text is refused.  What is written of an account is read as the
account exactly if both parts are there and hold no separator, and otherwise it is refused. -/
theorem account_read_and_written :
    (∀ text, (∃ a, Account.parse text = .ok a) ↔ Account.Names text) ∧
    (∀ text a, Account.parse text = .ok a → a.text = text) ∧
    (∀ text, ¬ Account.Names text → Account.parse text = .error (Account.malformed text)) ∧
    (∀ a : Account, Account.parse a.text = .ok a ↔
      (a.namespaceName ≠ "" ∧ '/' ∉ a.namespaceName.toList) ∧ a.name ≠ "" ∧ '/' ∉ a.name.toList) ∧
    ∀ a : Account, Account.parse a.text ≠ .ok a →
      Account.parse a.text = .error (Account.malformed a.text) := by
  have hnames : ∀ text, (∃ a, Account.parse text = .ok a) ↔ Account.Names text := fun text => by
    simp only [Account.parse_eq_ok_iff, Account.names_iff]
  have hwhole : ∀ a : Account, Account.parse a.text = .ok a ↔ a.IsWhole := fun a => by
    rw [Account.parse_eq_ok_iff, eq_self, true_and]
  refine ⟨hnames, fun text a h => (Account.parse_eq_ok_iff.1 h).1.symm, fun text h => ?_, hwhole,
    fun a h => ?_⟩
  · exact Account.parse_eq_error (mt (hnames text).1 h)
  · exact Account.parse_text_of_not_isWhole (mt (hwhole a).2 h)

/-- An account is read and written; a text with two separators is refused, and so is what is written of an
account with a separator in its namespace. -/
theorem account_read_and_written_of_samples :
    (Account.parse "kube-system/aws-node" = .ok ⟨"kube-system", "aws-node"⟩ ∧
      Account.text ⟨"kube-system", "aws-node"⟩ = "kube-system/aws-node") ∧
    (¬ Account.Names "a/b/c" ∧ Account.parse "a/b/c" = .error (Account.malformed "a/b/c")) ∧
    Account.parse (Account.text ⟨"a/b", "c"⟩) ≠ .ok ⟨"a/b", "c"⟩ ∧
      Account.parse (Account.text ⟨"a/b", "c"⟩) = .error (Account.malformed "a/b/c") := by
  obtain ⟨-, hwritten, hrefused, hread, hother⟩ := account_read_and_written
  have hparsed : Account.parse "kube-system/aws-node" = .ok ⟨"kube-system", "aws-node"⟩ := rfl
  have hnot : ¬ Account.Names "a/b/c" := fun h => absurd h.1 (by decide)
  have hunlike : Account.parse (Account.text ⟨"a/b", "c"⟩) ≠ .ok ⟨"a/b", "c"⟩ := fun h =>
    absurd ((hread ⟨"a/b", "c"⟩).1 h).1.2 (by decide)
  exact ⟨⟨hparsed, hwritten _ _ hparsed⟩, ⟨hnot, hrefused _ hnot⟩, hunlike, hother _ hunlike⟩

end Teardown
