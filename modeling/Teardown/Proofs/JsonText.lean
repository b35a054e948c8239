/-
# Values of JSON are read back from their texts

A value is rendered without blanks, and the reader takes blanks and several spellings of one
value.  This module says that nothing is lost on the way there and back: `asWritten?_render`, the
text of a value holds this value, with the members of every object in their order.  It is so for
all texts in it, whatever their characters, and for whole numbers of 64 bits (`IsExact`); doubles
are left out.

The reader goes on with what stands behind a value, so the step is stated with any rest
(`ReadsBack`).  The rest must not begin with a character of a numeral, or a number would go on;
inside a value it begins with a comma or a bracket.  A bound for the steps is the number of
characters, taken twice: once for the value, once for the list or the object around it.

* §1  strings.  A character is written in one of three ways (`escapeChar_cases`), and each of them
      is read as the character.
* §2  whole numbers, which go on as far as there are digits.
* §3  what is rendered, as characters.  A list is its items with a comma before each but the
      first, which is how the reader takes it apart (`listed`).
* §4, §5  a value, and the items and members of one, at the beginning of a text.
* §6  all values, by induction, and whole texts.
-/
import Teardown.Json.Reader
import Teardown.Proofs.Pieces
import Teardown.Proofs.Variables

namespace Teardown.Json

/-! ## 1. Strings -/

/-- The code of a control character is read as the character. -/
theorem unicodeEscape?_hexPadded {n : Nat} (h : n < 0x20) (rest : List Char) :
    unicodeEscape? (Text.hexPadded 4 n ++ rest) = some (.ofNat n, rest) := by
  obtain ⟨a, b, c, d, hpadded, hvalue⟩ : ∃ a b c d, Text.hexPadded 4 n = [a, b, c, d] ∧
      Numeral.digitsValue? 16 0 [a, b, c, d] = some n := by
    refine ⟨_, _, _, _, rfl, ?_⟩
    decide +revert
  have hunit : hexUnit? (Text.hexPadded 4 n ++ rest) = some (n, rest) := by
    rw [hpadded]
    simp [hexUnit?, hvalue]
  -- The code is too small for a half of a pair.
  have hfirst : ¬ (0xd800 ≤ n ∧ n < 0xdc00) := by omega
  have hsecond : ¬ (0xdc00 ≤ n ∧ n < 0xe000) := by omega
  rw [unicodeEscape?, hunit]
  simp [hfirst, hsecond]

/-- A character stands in a string as an escape with a letter of its own, as a code, or as it is. -/
theorem escapeChar_cases (c : Char) :
    (∃ letter, escapeChar c = ['\\', letter] ∧ letter ≠ 'u' ∧ simpleEscape? letter = some c) ∨
      (escapeChar c = '\\' :: 'u' :: Text.hexPadded 4 c.toNat ∧ c.toNat < 0x20) ∨
      (escapeChar c = [c] ∧ c ≠ '"' ∧ c ≠ '\\' ∧ ¬ c.toNat < 0x20) := by
  unfold escapeChar
  split
  · exact .inl ⟨'"', rfl, by decide, rfl⟩
  · exact .inl ⟨'\\', rfl, by decide, rfl⟩
  · exact .inl ⟨'b', rfl, by decide, rfl⟩
  · exact .inl ⟨'f', rfl, by decide, rfl⟩
  · exact .inl ⟨'n', rfl, by decide, rfl⟩
  · exact .inl ⟨'r', rfl, by decide, rfl⟩
  · exact .inl ⟨'t', rfl, by decide, rfl⟩
  · rename_i hquote hbackslash _ _ _ _ _
    split
    case isTrue hcontrol => exact .inr (.inl ⟨rfl, hcontrol⟩)
    case isFalse hcontrol => exact .inr (.inr ⟨rfl, hquote, hbackslash, hcontrol⟩)

/-- **A character is read back** from the way it stands in a string. -/
theorem readString_escapeChar (fuel : Nat) (read : List Char) (c : Char) (rest : List Char) :
    readString (fuel + 1) read (escapeChar c ++ rest) = readString fuel (c :: read) rest := by
  rcases escapeChar_cases c with
    ⟨letter, hescaped, hletter, hread⟩ | ⟨hescaped, hcontrol⟩ |
      ⟨hescaped, hquote, hbackslash, hcontrol⟩
  · rw [hescaped, List.cons_append, List.singleton_append, readString, hread]
    exact hletter
  · rw [hescaped, List.cons_append, List.cons_append, readString,
      unicodeEscape?_hexPadded hcontrol, Char.ofNat_toNat]
  · rw [hescaped, List.singleton_append, readString, if_neg (by simp [hcontrol, hbackslash])]
    · exact fun h => hquote h
    · exact fun _ h => absurd h hbackslash
    · exact fun _ _ h => absurd h hbackslash

/-- What stands before the closing quote is read as the characters that were escaped. -/
theorem readString_flatMap_escapeChar {s : List Char} {fuel : Nat} (hfuel : s.length < fuel)
    (read rest : List Char) :
    readString fuel read (s.flatMap escapeChar ++ '"' :: rest) =
      some (.ofList (read.reverse ++ s), rest) := by
  obtain ⟨fuel, rfl⟩ := Nat.exists_eq_succ_of_ne_zero (Nat.ne_zero_of_lt hfuel)
  induction s generalizing fuel read with
  | nil => simp [readString]
  | cons c s ih =>
    obtain ⟨fuel, rfl⟩ := Nat.exists_eq_succ_of_ne_zero
      (Nat.ne_zero_of_lt (Nat.lt_of_succ_lt_succ hfuel))
    rw [List.flatMap_cons, List.append_assoc, readString_escapeChar,
      ih _ fuel (Nat.lt_of_succ_lt_succ hfuel)]
    simp

theorem length_le_flatMap_escapeChar (s : List Char) :
    s.length ≤ (s.flatMap escapeChar).length := by
  induction s with
  | nil => exact le_rfl
  | cons c s ih =>
    have hmark : 1 ≤ (escapeChar c).length := by
      rcases escapeChar_cases c with ⟨letter, h, -⟩ | ⟨h, -⟩ | ⟨h, -⟩ <;> simp [h]
    rw [List.flatMap_cons, List.length_append, List.length_cons]
    omega

theorem toList_quote (s : String) :
    (quote s).toList = '"' :: (s.toList.flatMap escapeChar ++ ['"']) := by
  rw [quote, String.toList_ofList, List.cons_append]

/-- **A string is read back**, whatever follows it. -/
theorem readString_quote (s : String) {fuel : Nat} (hfuel : (quote s).toList.length ≤ fuel)
    (rest : List Char) :
    ∃ quoted, (quote s).toList ++ rest = '"' :: quoted ∧
      readString fuel [] quoted = some (s, rest) := by
  refine ⟨s.toList.flatMap escapeChar ++ '"' :: rest, ?_, ?_⟩
  · rw [toList_quote, List.cons_append, List.append_assoc, List.singleton_append]
  · have hlength := length_le_flatMap_escapeChar s.toList
    rw [toList_quote] at hfuel
    simp only [List.length_cons, List.length_append, List.length_nil] at hfuel
    rw [readString_flatMap_escapeChar (by omega), List.reverse_nil, List.nil_append,
      String.ofList_toList]

/-! ## 2. Whole numbers -/

theorem isDigit_eq_isDigit (c : Char) : Numeral.isDigit c = c.isDigit := by
  rw [Numeral.isDigit, Bool.eq_iff_iff, isDigit_iff, Bool.and_eq_true, decide_eq_true_eq,
    decide_eq_true_eq]
  exact Iff.rfl

/-- The numeral of a positive number does not begin with a zero. -/
theorem head?_toDigits {n : Nat} (h : 0 < n) : (Nat.toDigits 10 n).head? ≠ some '0' := by
  induction n using Nat.strongRecOn with
  | ind n ih =>
    by_cases hn : n < 10
    · have hsmall : ∀ n < 10, 0 < n → [n.digitChar].head? ≠ some '0' := by decide
      rw [Nat.toDigits_of_lt_base hn]
      exact hsmall n hn h
    · rw [Nat.toDigits_of_base_le (by decide) (Nat.not_lt.1 hn), List.head?_append,
        Option.or_of_isSome (by simp [Nat.toDigits_ne_nil])]
      exact ih (n / 10) (by omega) (by omega)

/-- The numeral of a natural is well formed, holds digits only, and stands for the natural. -/
theorem toDigits_read (n : Nat) : isWellFormed (Nat.toDigits 10 n) = true ∧
    (Nat.toDigits 10 n).all Numeral.isDigit = true ∧
    Numeral.natural? 10 (Nat.toDigits 10 n) = some n := by
  have hdigit : ∀ c ∈ Nat.toDigits 10 n, c.isDigit = true := fun c hc =>
    Nat.isDigit_of_mem_toDigits (by decide) (by decide) hc
  have hall : ∀ c ∈ Nat.toDigits 10 n, Numeral.isDigit c = true := fun c hc => by
    rw [isDigit_eq_isDigit, hdigit c hc]
  refine ⟨?_, List.all_eq_true.2 hall, ?_⟩
  · rw [isWellFormed, List.takeWhile_eq_self_iff.2 hall, List.dropWhile_eq_nil_iff.2 hall]
    rcases Nat.eq_zero_or_pos n with rfl | hn
    · rfl
    · simp [Nat.toDigits_ne_nil, head?_toDigits hn]
  · rw [Numeral.natural?, if_neg (by simp [Nat.toDigits_ne_nil]), Numeral.digitsValue?_ten_iff]
    exact ⟨hdigit, Nat.ofDigitChars_ten_toDigits⟩

/-- A whole number is written with its digits, after a minus sign if it is negative. -/
theorem toList_toString_int (n : Int) : (toString n).toList =
    if 0 ≤ n then Nat.toDigits 10 n.natAbs else '-' :: Nat.toDigits 10 n.natAbs := by
  change n.repr.toList = _
  rw [Int.repr_eq_if]
  split
  · rw [Nat.repr_eq_ofList_toDigits, String.toList_ofList]
    congr 1
    omega
  · rw [Nat.repr_eq_ofList_toDigits, String.toList_append, String.toList_ofList]
    have habs : (-n).toNat = n.natAbs := by omega
    rw [String.toList_ofList, habs]
    rfl

/-- **A whole number is read back** from its numeral if it fits 64 bits. -/
theorem number?_toString {n : Int} (hlow : -(signedWordBound : Int) ≤ n) (hhigh : n < wordBound) :
    number? (toString n).toList = some (.whole n) := by
  obtain ⟨hformed, hdigits, hvalue⟩ := toDigits_read n.natAbs
  rw [toList_toString_int]
  split
  case isTrue hn =>
    have hsign : (Nat.toDigits 10 n.natAbs).head? ≠ some '-' := fun hhead => by
      have hminus := List.all_eq_true.1 hdigits _ (List.mem_of_head? hhead)
      exact absurd hminus (by decide)
    have hfits : n.natAbs < wordBound := by omega
    simp only [number?, hsign, decide_false, Bool.false_eq_true, if_false, hformed, hdigits, hvalue,
      Bool.not_true, Bool.not_false, hfits, true_and, if_true]
    rw [Int.natAbs_of_nonneg hn]
  case isFalse hn =>
    have hfits : 0 < n.natAbs ∧ n.natAbs ≤ signedWordBound := by omega
    simp only [number?, List.head?_cons, decide_true, if_true, List.drop_one, List.tail_cons,
      hformed, hdigits, hvalue, Bool.not_true, Bool.false_eq_true, if_false, false_and, hfits,
      and_self]
    congr 2
    omega

theorem isNumeral_of_mem_toString {n : Int} {c : Char} (h : c ∈ (toString n).toList) :
    isNumeral c = true := by
  have hdigits : ∀ c ∈ Nat.toDigits 10 n.natAbs, isNumeral c = true := fun c hc => by
    rw [isNumeral, List.all_eq_true.1 (toDigits_read n.natAbs).2.1 c hc]
    rfl
  rw [toList_toString_int] at h
  split at h
  · exact hdigits c h
  · rcases List.mem_cons.1 h with rfl | h
    · rfl
    · exact hdigits c h

/-! ## 3. Values as characters -/

/-- A value without doubles in which every whole number fits 64 bits, of which one is a sign if it is
negative. -/
inductive IsExact : Json → Prop
  | null : IsExact .null
  | bool {value : Bool} : IsExact (.bool value)
  | whole {value : Int} : -(signedWordBound : Int) ≤ value → value < wordBound →
      IsExact (.whole value)
  | text {value : String} : IsExact (.text value)
  | list {items : List Json} : (∀ item ∈ items, IsExact item) → IsExact (.list items)
  | object {members : List (String × Json)} : (∀ member ∈ members, IsExact member.2) →
      IsExact (.object members)

/-- The characters of a value that is rendered. -/
def chars (value : Json) : List Char := value.render.toList

def memberChars (member : String × Json) : List Char :=
  (quote member.1).toList ++ ':' :: chars member.2

/-- Several pieces, each but the first after a comma. -/
def listed (first : List Char) (more : List (List Char)) : List Char :=
  first ++ more.flatMap (',' :: ·)

theorem listed_nil (first : List Char) : listed first [] = first := List.append_nil first

theorem listed_cons (first next : List Char) (more : List (List Char)) :
    listed first (next :: more) = first ++ ',' :: listed next more := by
  rw [listed, List.flatMap_cons, List.cons_append, listed]

theorem intercalate_eq_listed (first : List Char) (more : List (List Char)) :
    [','].intercalate (first :: more) = listed first more := by
  have h : ',' :: [','].intercalate (first :: more) = (first :: more).flatMap (',' :: ·) :=
    Text.cons_intercalate (List.cons_ne_nil first more)
  rw [List.flatMap_cons, List.cons_append] at h
  exact (List.cons.inj h).2

theorem renderAll_eq_map (items : List Json) : renderAll items = items.map render := by
  induction items with
  | nil => rfl
  | cons item items ih => rw [renderAll, ih, List.map_cons]

theorem renderMembers_eq_map (members : List (String × Json)) :
    renderMembers members = members.map fun member => quote member.1 ++ ":" ++ member.2.render := by
  induction members with
  | nil => rfl
  | cons member members ih => rw [renderMembers, ih, List.map_cons]

theorem chars_list (items : List Json) :
    chars (.list items) = '[' :: ([','].intercalate (items.map chars) ++ [']']) := by
  have hitems : (renderAll items).map String.toList = items.map chars := by
    rw [renderAll_eq_map, List.map_map]
    rfl
  simp [chars, render, String.toList_intercalate, hitems]

theorem chars_object (members : List (String × Json)) :
    chars (.object members) =
      '\x7b' :: ([','].intercalate (members.map memberChars) ++ ['\x7d']) := by
  have hmembers : (renderMembers members).map String.toList = members.map memberChars := by
    rw [renderMembers_eq_map, List.map_map]
    refine List.map_congr_left fun member _ => ?_
    simp [memberChars, chars]
  simp [chars, render, String.toList_intercalate, hmembers]

/-! ## 4. Values at the beginning of a text -/

/-- No value begins with a blank or a closing bracket. -/
theorem readValue_eq_none {c : Char} (h : isBlank c = true ∨ c = ']') (fuel : Nat)
    (rest : List Char) : readValue fuel (c :: rest) = none := by
  cases fuel with
  | zero => rw [readValue]
  | succ fuel =>
    simp only [isBlank, Bool.or_eq_true, decide_eq_true_eq] at h
    rcases h with (((rfl | rfl) | rfl) | rfl) | rfl <;> rfl

/-- `EndsNumeral rest`: a numeral does not go on with the rest. -/
def EndsNumeral (rest : List Char) : Prop := ∀ c ∈ rest.head?, isNumeral c = false

theorem endsNumeral_nil : EndsNumeral [] := by simp [EndsNumeral]

theorem endsNumeral_cons {c : Char} (h : isNumeral c = false) (rest : List Char) :
    EndsNumeral (c :: rest) := by
  simpa [EndsNumeral] using h

theorem EndsNumeral.takeWhile_dropWhile {rest : List Char} (h : EndsNumeral rest) :
    rest.takeWhile isNumeral = [] ∧ rest.dropWhile isNumeral = rest := by
  cases rest with
  | nil => exact ⟨rfl, rfl⟩
  | cons c rest =>
    have hc : ¬ isNumeral c = true := by simp [h c rfl]
    exact ⟨List.takeWhile_cons_of_neg hc, List.dropWhile_cons_of_neg hc⟩

/-- What consists of characters of a numeral is read as one. -/
theorem readValue_numeral {s : List Char} (hne : s ≠ []) (hs : ∀ c ∈ s, isNumeral c = true)
    {rest : List Char} (hrest : EndsNumeral rest) (fuel : Nat) :
    readValue (fuel + 1) (s ++ rest) = (number? s).map fun value => (value, rest) := by
  obtain ⟨hnone, hall⟩ := hrest.takeWhile_dropWhile
  have htake : (s ++ rest).takeWhile isNumeral = s := by
    rw [List.takeWhile_append_of_pos hs, hnone, List.append_nil]
  have hdrop : (s ++ rest).dropWhile isNumeral = rest := by
    rw [List.dropWhile_append_of_pos hs, hall]
  obtain ⟨c, s, rfl⟩ := List.exists_cons_of_ne_nil hne
  have hc := hs c List.mem_cons_self
  rw [readValue, htake, hdrop]
  -- With none of its characters a value of another kind begins.
  all_goals
    intro _ h
    obtain rfl := (List.cons.inj h).1
    exact absurd hc (by decide)

/-- `ReadsBack value`: with enough fuel, the value is read from the beginning of every text that begins with
it and with which no numeral goes on. -/
def ReadsBack (value : Json) : Prop :=
  ∀ (fuel : Nat) (rest : List Char), 2 * (chars value).length ≤ fuel → EndsNumeral rest →
    readValue fuel (chars value ++ rest) = some (value, rest)

theorem ReadsBack.head {value : Json} (h : ReadsBack value) :
    ∃ c rest, chars value = c :: rest ∧ isBlank c = false ∧ c ≠ ']' := by
  have hread := h (2 * (chars value).length) [] le_rfl endsNumeral_nil
  rw [List.append_nil] at hread
  cases hchars : chars value with
  | nil =>
    rw [hchars] at hread
    exact absurd hread (by simp [readValue])
  | cons c rest =>
    have hnot : ¬ (isBlank c = true ∨ c = ']') := fun hbad => by
      rw [hchars, readValue_eq_none hbad] at hread
      exact absurd hread (by simp)
    rw [not_or, Bool.not_eq_true] at hnot
    exact ⟨c, rest, rfl, hnot⟩

theorem skipBlanks_cons {c : Char} (h : isBlank c = false) (rest : List Char) :
    skipBlanks (c :: rest) = c :: rest :=
  List.dropWhile_cons_of_neg (by simp [h])

theorem ReadsBack.skipBlanks {value : Json} (h : ReadsBack value) (rest : List Char) :
    skipBlanks (chars value ++ rest) = chars value ++ rest := by
  obtain ⟨c, more, hchars, hc, -⟩ := h.head
  rw [hchars, List.cons_append, skipBlanks_cons hc]

/-! ## 5. Items and members -/

section Items

variable {item : Json} {fuel : Nat}

/-- What comes after an item: the list is closed or goes on. -/
def afterItem (fuel : Nat) (item : Json) (rest : List Char) : Option (List Json × List Char) :=
  match skipBlanks rest with
  | ']' :: rest => some ([item], rest)
  | ',' :: rest => (readItems fuel rest).map fun read => (item :: read.1, read.2)
  | _ => none

theorem readItems_item (hitem : ReadsBack item) (hfuel : 2 * (chars item).length ≤ fuel)
    {rest : List Char} (hrest : EndsNumeral rest) :
    readItems (fuel + 1) (chars item ++ rest) = afterItem fuel item rest := by
  rw [readItems, hitem.skipBlanks, hitem fuel rest hfuel hrest]
  rfl

/-- **The items of a list** are read up to the closing bracket. -/
theorem readItems_listed {items : List Json} (hitem : ReadsBack item)
    (hitems : ∀ other ∈ items, ReadsBack other)
    (hfuel : 2 * (listed (chars item) (items.map chars)).length < fuel) (rest : List Char) :
    readItems fuel (listed (chars item) (items.map chars) ++ ']' :: rest) =
      some (item :: items, rest) := by
  obtain ⟨fuel, rfl⟩ := Nat.exists_eq_succ_of_ne_zero (Nat.ne_zero_of_lt hfuel)
  induction items generalizing item fuel with
  | nil =>
    rw [List.map_nil, listed_nil] at hfuel ⊢
    rw [readItems_item hitem (Nat.le_of_lt_succ hfuel) (endsNumeral_cons (c := ']') rfl rest)]
    rfl
  | cons next items ih =>
    rw [List.map_cons, listed_cons] at hfuel ⊢
    simp only [List.length_append, List.length_cons] at hfuel
    obtain ⟨fuel, rfl⟩ := Nat.exists_eq_succ_of_ne_zero (n := fuel) (by omega)
    have hmore := ih (hitems next List.mem_cons_self)
      (fun other hother => hitems other (.tail _ hother)) fuel (by omega)
    rw [List.append_assoc, List.cons_append,
      readItems_item hitem (by omega) (endsNumeral_cons (c := ',') rfl _),
      afterItem, skipBlanks_cons (c := ',') rfl]
    simp only [hmore, Option.map_some]

end Items

section Members

variable {member : String × Json} {fuel : Nat}

/-- What comes after a member: the object is closed or goes on. -/
def afterMember (fuel : Nat) (member : String × Json) (rest : List Char) :
    Option (List (String × Json) × List Char) :=
  match skipBlanks rest with
  | '\x7d' :: rest => some ([member], rest)
  | ',' :: rest => (readMembers fuel rest).map fun read => (member :: read.1, read.2)
  | _ => none

theorem readMembers_member (hmember : ReadsBack member.2)
    (hfuel : 2 * (memberChars member).length ≤ fuel) {rest : List Char} (hrest : EndsNumeral rest) :
    readMembers (fuel + 1) (memberChars member ++ rest) = afterMember fuel member rest := by
  rw [memberChars, List.length_append, List.length_cons] at hfuel
  have hread := hmember fuel rest (by omega) hrest
  have hlength : (quote member.1).toList.length ≤ fuel := by omega
  obtain ⟨quoted, hquoted, hname⟩ := readString_quote member.1 hlength
    (':' :: (chars member.2 ++ rest))
  have hopen : skipBlanks ('"' :: quoted) = '"' :: quoted := rfl
  have hcolon (s : List Char) : skipBlanks (':' :: s) = ':' :: s := rfl
  rw [memberChars, List.append_assoc, List.cons_append, hquoted]
  simp only [readMembers, hopen, hname, hcolon, hmember.skipBlanks, hread]
  rfl

/-- **The members of an object** are read up to the closing brace. -/
theorem readMembers_listed {members : List (String × Json)} (hmember : ReadsBack member.2)
    (hmembers : ∀ other ∈ members, ReadsBack other.2)
    (hfuel : 2 * (listed (memberChars member) (members.map memberChars)).length < fuel)
    (rest : List Char) :
    readMembers fuel (listed (memberChars member) (members.map memberChars) ++ '\x7d' :: rest) =
      some (member :: members, rest) := by
  obtain ⟨fuel, rfl⟩ := Nat.exists_eq_succ_of_ne_zero (Nat.ne_zero_of_lt hfuel)
  induction members generalizing member fuel with
  | nil =>
    rw [List.map_nil, listed_nil] at hfuel ⊢
    rw [readMembers_member hmember (Nat.le_of_lt_succ hfuel)
      (endsNumeral_cons (c := '\x7d') rfl rest)]
    rfl
  | cons next members ih =>
    rw [List.map_cons, listed_cons] at hfuel ⊢
    simp only [List.length_append, List.length_cons] at hfuel
    obtain ⟨fuel, rfl⟩ := Nat.exists_eq_succ_of_ne_zero (n := fuel) (by omega)
    have hmore := ih (hmembers next List.mem_cons_self)
      (fun other hother => hmembers other (.tail _ hother)) fuel (by omega)
    rw [List.append_assoc, List.cons_append,
      readMembers_member hmember (by omega) (endsNumeral_cons (c := ',') rfl _),
      afterMember, skipBlanks_cons (c := ',') rfl]
    simp only [hmore, Option.map_some]

end Members

/-! ## 6. Whole texts -/

/-- There is fuel for the first step, since no value is without characters. -/
theorem readsBack_of_succ {value : Json} (hne : chars value ≠ [])
    (h : ∀ (fuel : Nat) (rest : List Char), 2 * (chars value).length ≤ fuel + 1 →
      EndsNumeral rest → readValue (fuel + 1) (chars value ++ rest) = some (value, rest)) :
    ReadsBack value := by
  intro fuel rest hfuel hrest
  have hlength := List.length_pos_iff.2 hne
  obtain ⟨fuel, rfl⟩ := Nat.exists_eq_succ_of_ne_zero (n := fuel) (by omega)
  exact h fuel rest hfuel hrest

theorem readsBack_whole {n : Int} (hlow : -(signedWordBound : Int) ≤ n) (hhigh : n < wordBound) :
    ReadsBack (.whole n) := by
  have hchars : chars (.whole n) = (toString n).toList := rfl
  have hne : (toString n).toList ≠ [] := by
    rw [toList_toString_int]
    split <;> simp [Nat.toDigits_ne_nil]
  refine readsBack_of_succ hne fun fuel rest _ hrest => ?_
  rw [hchars, readValue_numeral hne (fun _ => isNumeral_of_mem_toString) hrest,
    number?_toString hlow hhigh, Option.map_some]

theorem readsBack_text (s : String) : ReadsBack (.text s) := by
  have hchars : chars (.text s) = (quote s).toList := rfl
  refine readsBack_of_succ (by simp [hchars, toList_quote]) fun fuel rest hfuel _ => ?_
  rw [hchars] at hfuel
  have hquotes : 2 ≤ (quote s).toList.length := by simp [toList_quote]
  have hlength : (quote s).toList.length ≤ fuel := by omega
  obtain ⟨quoted, hquoted, hread⟩ := readString_quote s hlength rest
  rw [hchars, hquoted, readValue, hread, Option.map_some]

theorem readsBack_list {items : List Json} (hitems : ∀ item ∈ items, ReadsBack item) :
    ReadsBack (.list items) := by
  refine readsBack_of_succ (by simp [chars_list]) fun fuel rest hfuel _ => ?_
  cases items with
  | nil => rfl
  | cons item items =>
    have hitem := hitems item List.mem_cons_self
    rw [chars_list, List.map_cons, intercalate_eq_listed] at hfuel ⊢
    simp only [List.length_cons, List.length_append, List.length_nil] at hfuel
    rw [List.cons_append, List.append_assoc, List.singleton_append, readValue]
    have hlength : 2 * (listed (chars item) (items.map chars)).length < fuel := by omega
    have hread := readItems_listed hitem (fun other hother => hitems other (.tail _ hother))
      hlength rest
    -- The list is not closed before its first item, which does not begin with a bracket.
    obtain ⟨c, more, hfirst, hblank, hclose⟩ := hitem.head
    rw [listed, hfirst, List.cons_append, List.cons_append] at hread ⊢
    rw [skipBlanks_cons hblank]
    split
    case h_1 heq => exact absurd (List.cons.inj heq).1 hclose
    case h_2 => rw [hread, Option.map_some]

theorem readsBack_object {members : List (String × Json)}
    (hmembers : ∀ member ∈ members, ReadsBack member.2) : ReadsBack (.object members) := by
  refine readsBack_of_succ (by simp [chars_object]) fun fuel rest hfuel _ => ?_
  cases members with
  | nil => rfl
  | cons member members =>
    rw [chars_object, List.map_cons, intercalate_eq_listed] at hfuel ⊢
    simp only [List.length_cons, List.length_append, List.length_nil] at hfuel
    rw [List.cons_append, List.append_assoc, List.singleton_append, readValue]
    have hlength : 2 * (listed (memberChars member) (members.map memberChars)).length < fuel := by
      omega
    have hread := readMembers_listed (hmembers member List.mem_cons_self)
      (fun other hother => hmembers other (.tail _ hother)) hlength rest
    rw [listed, memberChars, toList_quote] at hread ⊢
    simp only [List.cons_append] at hread ⊢
    rw [skipBlanks_cons (c := '"') rfl]
    exact congrArg (Option.map fun read => (Json.object read.1, read.2)) hread

/-- **A value is read back** at the beginning of a text, if it is exact. -/
theorem IsExact.readsBack {value : Json} (h : value.IsExact) : ReadsBack value := by
  induction h with
  | null => exact readsBack_of_succ (by decide) fun fuel rest _ _ => rfl
  | @bool value => cases value <;> exact readsBack_of_succ (by decide) fun fuel rest _ _ => rfl
  | whole hlow hhigh => exact readsBack_whole hlow hhigh
  | text => exact readsBack_text _
  | list _ ih => exact readsBack_list ih
  | object _ ih => exact readsBack_object ih

/-- **What is rendered is read back**: the text of an exact value holds this value. -/
theorem asWritten?_render {value : Json} (h : value.IsExact) :
    asWritten? value.render = some value := by
  have hreads : ReadsBack value := h.readsBack
  have hread := hreads (2 * (chars value).length + 2) [] (Nat.le_add_right _ _) endsNumeral_nil
  have hblanks := hreads.skipBlanks []
  rw [List.append_nil] at hread hblanks
  have hchars : value.render.toList = chars value := rfl
  simp only [asWritten?, hchars, hblanks, hread]
  rfl

end Teardown.Json
