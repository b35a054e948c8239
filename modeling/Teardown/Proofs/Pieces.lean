/-
# Texts cut into pieces

To cut a text at a character, and to find the first occurrence of a word in it.  No piece of a
text holds the character (`not_mem_of_mem_splitChars`), and each piece with the character before
it gives the text again (`flatMap_splitChars`); lines without a line break are what a text of them
is cut into (`split_intercalate`).

A word that stands between two such characters is found at the first piece that is the word, and
nowhere else: it cannot lie across two pieces, since it does not hold the character itself
(`splitOnceChars?_pieces`).

The second half is for names that are joined with dashes.  The search goes character by character
and knows nothing of pieces, so the step is a whole piece: if it is not the word, the search
passes over it and comes to the next dash (`splitOnceChars?_piece`).
-/
import Teardown.Text.Blank

namespace Teardown.Text

variable {separator : Char}

/-! ## 1. Pieces -/

/-- The pieces of a text are those of the list of its characters. -/
theorem splitChars_eq_splitOn (separator : Char) (s : List Char) :
    splitChars separator s = s.splitOn separator := by
  induction s with
  | nil => rfl
  | cons c text ih =>
    rw [List.splitOn_cons_eq_if_modifyHead, splitChars, ih]
    by_cases hc : c = separator
    · rw [if_pos hc, if_pos (by simpa using hc)]
    · rw [if_neg hc, if_neg (by simpa using hc)]
      cases hpieces : text.splitOn separator with
      | nil => exact absurd hpieces (List.splitOn_ne_nil separator text)
      | cons piece pieces => rfl

/-- No piece holds the character at which the text is cut. -/
theorem not_mem_of_mem_splitChars {s piece : List Char} (h : piece ∈ splitChars separator s) :
    separator ∉ piece := by
  induction s generalizing piece with
  | nil =>
    obtain rfl := List.mem_singleton.1 h
    exact List.not_mem_nil
  | cons c text ih =>
    rw [splitChars] at h
    split at h
    · rcases List.mem_cons.1 h with rfl | h
      · exact List.not_mem_nil
      · exact ih h
    · rename_i hc
      cases hpieces : splitChars separator text with
      | nil =>
        rw [hpieces] at h
        obtain rfl := List.mem_singleton.1 h
        simpa using Ne.symm hc
      | cons first rest =>
        rw [hpieces] at h ih
        rcases List.mem_cons.1 h with rfl | h
        · simpa [Ne.symm hc] using ih List.mem_cons_self
        · exact ih (List.mem_cons_of_mem _ h)

theorem cons_intercalate {pieces : List (List Char)} (h : pieces ≠ []) :
    separator :: [separator].intercalate pieces = pieces.flatMap (separator :: ·) := by
  induction pieces with
  | nil => exact absurd rfl h
  | cons piece pieces ih =>
    cases pieces with
    | nil => simp
    | cons next pieces =>
      rw [List.flatMap_cons, ← ih (by simp)]
      simp

/-- The pieces, each with the character before it, are the text with the character before it. -/
theorem flatMap_splitChars (separator : Char) (s : List Char) :
    (splitChars separator s).flatMap (separator :: ·) = separator :: s := by
  rw [splitChars_eq_splitOn, ← cons_intercalate (List.splitOn_ne_nil separator s),
    List.intercalate_splitOn]

/-- Lines that do not hold the character are the pieces of the text that is made of them. -/
theorem split_intercalate {lines : List String} (hlines : lines ≠ [])
    (h : ∀ line ∈ lines, separator ∉ line.toList) :
    split separator ((String.singleton separator).intercalate lines) = lines := by
  rw [split, splitChars_eq_splitOn, String.toList_intercalate, String.toList_singleton,
    List.splitOn_intercalate, List.map_map]
  · simp
  · intro chars hchars
    obtain ⟨line, hline, rfl⟩ := List.mem_map.1 hchars
    exact h line hline
  · simpa using hlines

/-! ## 2. First occurrences -/

/-- What stands before the first occurrence of a character, and what follows it, are settled. -/
theorem append_cons_inj {before before' rest rest' : List Char} (h : separator ∉ before)
    (h' : separator ∉ before') (heq : before ++ separator :: rest = before' ++ separator :: rest') :
    before = before' ∧ rest = rest' := by
  induction before generalizing before' with
  | nil =>
    cases before' with
    | nil => exact ⟨rfl, (List.cons.inj heq).2⟩
    | cons c before' => exact absurd ((List.cons.inj heq).1 ▸ List.mem_cons_self) h'
  | cons c before ih =>
    cases before' with
    | nil => exact absurd ((List.cons.inj heq).1 ▸ List.mem_cons_self) h
    | cons c' before' =>
      obtain ⟨rfl, hmore⟩ := List.cons.inj heq
      obtain ⟨rfl, hrest⟩ := ih (fun hmem => h (List.mem_cons_of_mem _ hmem))
        (fun hmem => h' (List.mem_cons_of_mem _ hmem)) hmore
      exact ⟨rfl, hrest⟩

/-- A text begins with a word and a character that the word does not hold exactly if the piece
before the first such character is the word. -/
theorem dropBeginning?_piece {word piece : List Char} (hword : separator ∉ word)
    (hpiece : separator ∉ piece) (rest : List Char) :
    dropBeginning? (word ++ [separator]) (piece ++ separator :: rest) =
      if piece = word then some rest else none := by
  induction word generalizing piece with
  | nil =>
    cases piece with
    | nil => simp [dropBeginning?]
    | cons c piece =>
      have hc : separator ≠ c := fun heq => hpiece (heq ▸ List.mem_cons_self)
      simp [dropBeginning?, hc]
  | cons w word ih =>
    cases piece with
    | nil =>
      have hw : w ≠ separator := fun heq => hword (heq ▸ List.mem_cons_self)
      simp [dropBeginning?, hw]
    | cons c piece =>
      simp only [List.cons_append, dropBeginning?, List.cons.injEq]
      rw [ih (fun hmem => hword (List.mem_cons_of_mem _ hmem))
        (fun hmem => hpiece (List.mem_cons_of_mem _ hmem))]
      by_cases hc : w = c <;> simp [hc, eq_comm]

theorem splitOnceChars?_of_not_begins {beginning text : List Char} {c : Char}
    (h : dropBeginning? beginning (c :: text) = none) :
    splitOnceChars? beginning (c :: text) =
      (splitOnceChars? beginning text).map fun (before, after) => (c :: before, after) := by
  rw [splitOnceChars?, h]

/-- What begins with the character does not occur before the character does. -/
theorem splitOnceChars?_skip {word piece : List Char} (hpiece : separator ∉ piece)
    (rest : List Char) :
    splitOnceChars? (separator :: word) (piece ++ rest) =
      (splitOnceChars? (separator :: word) rest).map fun (before, after) =>
        (piece ++ before, after) := by
  induction piece with
  | nil => simp
  | cons c piece ih =>
    have hc : separator ≠ c := fun heq => hpiece (heq ▸ List.mem_cons_self)
    rw [List.cons_append, splitOnceChars?_of_not_begins (by rw [dropBeginning?, if_neg hc]),
      ih fun hmem => hpiece (List.mem_cons_of_mem _ hmem), Option.map_map]
    rfl

/-- A piece that is not the word is passed over as a whole. -/
theorem splitOnceChars?_piece {word piece : List Char} (hword : separator ∉ word)
    (hpiece : separator ∉ piece) (hne : piece ≠ word) (rest : List Char) :
    splitOnceChars? (separator :: (word ++ [separator]))
        (separator :: (piece ++ separator :: rest)) =
      (splitOnceChars? (separator :: (word ++ [separator])) (separator :: rest)).map
        fun (before, after) => (separator :: piece ++ before, after) := by
  have hnot : dropBeginning? (separator :: (word ++ [separator]))
      (separator :: (piece ++ separator :: rest)) = none := by
    rw [dropBeginning?, if_pos rfl, dropBeginning?_piece hword hpiece, if_neg hne]
  rw [splitOnceChars?_of_not_begins hnot, splitOnceChars?_skip hpiece, Option.map_map]
  rfl

/-- **A word between two characters** is found at the first piece that is the word. -/
theorem splitOnceChars?_pieces {word : List Char} {before : List (List Char)}
    (hword : separator ∉ word) (hpieces : ∀ piece ∈ before, separator ∉ piece)
    (hfirst : word ∉ before) (rest : List Char) :
    splitOnceChars? (separator :: (word ++ [separator]))
        ((before ++ [word]).flatMap (separator :: ·) ++ separator :: rest) =
      some (before.flatMap (separator :: ·), rest) := by
  induction before with
  | nil =>
    have hfound := dropBeginning?_piece hword hword rest
    rw [if_pos rfl] at hfound
    simp [splitOnceChars?, dropBeginning?, hfound]
  | cons piece before ih =>
    have hrest := ih (fun p hp => hpieces p (List.mem_cons_of_mem _ hp))
      fun hmem => hfirst (List.mem_cons_of_mem _ hmem)
    -- What follows the piece begins with the character again, whichever piece comes next.
    obtain ⟨more, hmore⟩ : ∃ more,
        (before ++ [word]).flatMap (separator :: ·) ++ separator :: rest = separator :: more := by
      cases before with
      | nil => exact ⟨_, rfl⟩
      | cons next before => exact ⟨_, rfl⟩
    rw [hmore] at hrest
    rw [List.cons_append, List.flatMap_cons, List.append_assoc, hmore, List.cons_append,
      splitOnceChars?_piece hword (hpieces piece List.mem_cons_self)
        fun heq => hfirst (heq ▸ List.mem_cons_self), hrest]
    rfl

end Teardown.Text
