/-
# What variables say

A run looks at two variables: one for the timeout of waits, one for the format of the log.  This
module says which values they may have, and what the values mean, without the functions that read
them.  `WritesSeconds text n` holds if the text is a decimal numeral of `n` between blanks, with a
plus sign or none, and the numeral needs no more than 64 bits.  A word for a format may be written
with letters of either case (`LogFormat.Named`).

The main facts are `Settings.wholeSeconds?_eq_some_iff` and `LogFormat.parse_ok_iff`: what is read
is what is written.  A system holds bytes, and a value that is no text counts as not set
(`SystemVariables.seen`).

* §1-2  blanks around a text, and numerals of digits.
* §3-4  the timeout and the format.
* §5  what a system holds, and what a run sees of it.
* §6  overriding: settings in which the variables have had their say, and the errors for values
      that say nothing.

Which of the two variables is looked at first, and what happens to the settings before that, is
told in `Teardown.Proofs.Layers`.
-/
import Mathlib.Data.List.TakeWhile
import Teardown.Settings

namespace Teardown

/-! ## 1. Texts between blanks -/

theorem isDigit_iff {c : Char} : c.isDigit = true ↔ 48 ≤ c.toNat ∧ c.toNat ≤ 57 := by
  rw [Char.isDigit, Bool.and_eq_true, decide_eq_true_eq, decide_eq_true_eq]
  exact Iff.rfl

theorem isBlank_of_isDigit {c : Char} (h : c.isDigit = true) : Text.isBlank c = false := by
  obtain ⟨hlow, hhigh⟩ := isDigit_iff.1 h
  refine List.any_eq_false.2 fun range hrange => ?_
  rw [Bool.and_eq_true, decide_eq_true_eq, decide_eq_true_eq]
  simp only [Text.blankRanges, List.mem_cons, List.not_mem_nil, or_false] at hrange
  rcases hrange with rfl | rfl | rfl | rfl | rfl | rfl | rfl | rfl | rfl | rfl <;> omega

/-- What is left without the blanks around it, if nothing inside is blank. -/
theorem trimChars_append {before inner after : List Char} (hbefore : ∀ c ∈ before, Text.isBlank c = true)
    (hinner : ∀ c ∈ inner, Text.isBlank c = false) (hafter : ∀ c ∈ after, Text.isBlank c = true) :
    Text.trimChars (before ++ inner ++ after) = inner := by
  have hkept : ∀ {rest : List Char}, (∀ c ∈ rest, Text.isBlank c = false) →
      rest.dropWhile Text.isBlank = rest := by
    intro rest hrest
    rw [List.dropWhile_eq_self_iff]
    exact fun hlength => by simp [hrest _ (List.getElem_mem hlength)]
  rw [Text.trimChars, List.append_assoc, List.dropWhile_append_of_pos hbefore]
  cases inner with
  | nil =>
    have hnothing : after.dropWhile Text.isBlank = [] := List.dropWhile_eq_nil_iff.2 hafter
    simp [hnothing]
  | cons c rest =>
    have hfirst : (c :: rest ++ after).dropWhile Text.isBlank = c :: rest ++ after := by
      rw [List.cons_append, List.dropWhile_cons_of_neg (by simp [hinner c List.mem_cons_self])]
    have hreverse : ∀ c' ∈ (c :: rest).reverse, Text.isBlank c' = false := fun c' hc' =>
      hinner c' (List.mem_reverse.1 hc')
    rw [hfirst, List.reverse_append, List.dropWhile_append_of_pos fun c' hc' =>
      hafter c' (List.mem_reverse.1 hc'), hkept hreverse, List.reverse_reverse]

/-- A text consists of blanks, what is left without them, and blanks. -/
theorem exists_trimChars (text : List Char) : ∃ before after : List Char,
    text = before ++ Text.trimChars text ++ after ∧
    (∀ c ∈ before, Text.isBlank c = true) ∧ ∀ c ∈ after, Text.isBlank c = true := by
  let rest := text.dropWhile Text.isBlank
  refine ⟨text.takeWhile Text.isBlank, (rest.reverse.takeWhile Text.isBlank).reverse, ?_, ?_, ?_⟩
  · have hrest : rest = Text.trimChars text ++ (rest.reverse.takeWhile Text.isBlank).reverse := by
      rw [Text.trimChars, ← List.reverse_append, List.takeWhile_append_dropWhile,
        List.reverse_reverse]
    rw [List.append_assoc, ← hrest, List.takeWhile_append_dropWhile]
  · exact fun c hc => List.mem_takeWhile_imp hc
  · exact fun c hc => List.mem_takeWhile_imp (List.mem_reverse.1 hc)

/-! ## 2. Numerals -/

namespace Numeral

theorem digitValue?_ten (c : Char) :
    digitValue? 10 c = if c.isDigit then some (c.toNat - '0'.toNat) else none := by
  have hle : ∀ a b : Char, a ≤ b ↔ a.toNat ≤ b.toNat := fun _ _ => Iff.rfl
  have hdigit : c.isDigit = true ↔ '0' ≤ c ∧ c ≤ '9' := isDigit_iff
  rw [digitValue?]
  by_cases hc : '0' ≤ c ∧ c ≤ '9'
  · have hsmall : c.toNat - '0'.toNat < 10 := by
      have hhigh := (hle _ _).1 hc.2
      have hnine : '9'.toNat = 57 := rfl
      have hzero : '0'.toNat = 48 := rfl
      omega
    simp only [if_pos hc, if_pos (hdigit.2 hc)]
    rw [Option.filter_some, if_pos (by simpa using hsmall)]
  · -- A letter has a value of ten or more.
    simp only [if_neg hc, if_neg (mt hdigit.1 hc)]
    split
    · simp
    · split <;> simp

/-- What digits mean, continued from the value of those before them. -/
theorem digitsValue?_ten_iff : ∀ {digits : List Char} {value n : Nat},
    digitsValue? 10 value digits = some n ↔
      (∀ c ∈ digits, c.isDigit = true) ∧ Nat.ofDigitChars 10 digits value = n
  | [], value, n => by simp [digitsValue?, Nat.ofDigitChars]
  | c :: digits, value, n => by
    rw [digitsValue?, digitValue?_ten, Nat.ofDigitChars_cons, List.forall_mem_cons]
    by_cases hc : c.isDigit = true
    · simp only [hc, if_true, true_and, Nat.mul_comm value]
      exact digitsValue?_ten_iff
    · simp [hc]

/-- A numeral is a plus sign or none, and digits. -/
theorem unsigned?_ten_iff {text : List Char} {n : Nat} : unsigned? 10 text = some n ↔
    ∃ sign digits, text = sign ++ digits ∧ (sign = [] ∨ sign = ['+']) ∧ digits ≠ [] ∧
      (∀ c ∈ digits, c.isDigit = true) ∧ Nat.ofDigitChars 10 digits 0 = n := by
  have hnatural : ∀ digits : List Char, natural? 10 digits = some n ↔ digits ≠ [] ∧
      (∀ c ∈ digits, c.isDigit = true) ∧ Nat.ofDigitChars 10 digits 0 = n := by
    intro digits
    cases digits with
    | nil => simp [natural?]
    | cons c digits => simp [natural?, digitsValue?_ten_iff]
  constructor
  · intro h
    rw [unsigned?.eq_def] at h
    split at h
    case h_1 rest => exact ⟨['+'], rest, rfl, .inr rfl, (hnatural rest).1 h⟩
    case h_2 => exact ⟨[], text, rfl, .inl rfl, (hnatural text).1 h⟩
  · rintro ⟨sign, digits, rfl, rfl | rfl, hdigits⟩
    · rw [unsigned?.eq_def]
      split
      case h_1 rest heq =>
        -- Digits do not begin with a sign.
        rw [List.nil_append] at heq
        subst heq
        exact absurd (hdigits.2.1 '+' List.mem_cons_self) (by decide)
      case h_2 => exact (hnatural digits).2 hdigits
    · exact (hnatural digits).2 hdigits

end Numeral

/-! ## 3. The timeout -/

def WritesSeconds (text : String) (n : Nat) : Prop :=
  n < wordBound ∧ ∃ before sign digits after : List Char,
    text.toList = before ++ (sign ++ digits) ++ after ∧
    (∀ c ∈ before, Text.isBlank c = true) ∧ (∀ c ∈ after, Text.isBlank c = true) ∧
    (sign = [] ∨ sign = ['+']) ∧ digits ≠ [] ∧ (∀ c ∈ digits, c.isDigit = true) ∧
    Nat.ofDigitChars 10 digits 0 = n

/-- **Whole seconds** are read exactly where they are written. -/
theorem Settings.wholeSeconds?_eq_some_iff {text : String} {timeout : Duration} :
    wholeSeconds? text = some timeout ↔ ∃ n, WritesSeconds text n ∧ timeout = .ofWhole n := by
  have hread : wholeSeconds? text = some timeout ↔ ∃ n, n < wordBound ∧
      Numeral.unsigned? 10 (Text.trimChars text.toList) = some n ∧ timeout = .ofWhole n := by
    simp only [wholeSeconds?, Option.map_eq_some_iff, Option.filter_eq_some_iff, decide_eq_true_eq]
    exact exists_congr fun n => ⟨fun ⟨⟨h, hbound⟩, htimeout⟩ => ⟨hbound, h, htimeout.symm⟩,
      fun ⟨hbound, h, htimeout⟩ => ⟨⟨h, hbound⟩, htimeout.symm⟩⟩
  rw [hread]
  refine exists_congr fun n => ⟨fun ⟨hbound, hnumeral, htimeout⟩ => ⟨⟨hbound, ?_⟩, htimeout⟩,
    fun ⟨⟨hbound, hwritten⟩, htimeout⟩ => ⟨hbound, ?_, htimeout⟩⟩
  · obtain ⟨sign, digits, htrim, hnumeral⟩ := Numeral.unsigned?_ten_iff.1 hnumeral
    obtain ⟨before, after, htext, hbefore, hafter⟩ := exists_trimChars text.toList
    rw [htrim] at htext
    exact ⟨before, sign, digits, after, htext, hbefore, hafter, hnumeral⟩
  · obtain ⟨before, sign, digits, after, htext, hbefore, hafter, hsign, hdigits⟩ := hwritten
    have hinner : ∀ c ∈ sign ++ digits, Text.isBlank c = false := by
      intro c hc
      rcases List.mem_append.1 hc with hc | hc
      · rcases hsign with rfl | rfl
        · exact absurd hc (by simp)
        · rw [List.mem_singleton.1 hc]
          decide
      · exact isBlank_of_isDigit (hdigits.2.1 c hc)
    rw [htext, trimChars_append hbefore hinner hafter]
    exact Numeral.unsigned?_ten_iff.2 ⟨sign, digits, rfl, hsign, hdigits⟩

/-! ## 4. The format -/

namespace LogFormat

/-- `format.Named text`: the text is the word for the format, its ASCII letters of either case. -/
def Named (format : LogFormat) (text : String) : Prop := Text.asciiLower text = format.word

def unknown (text : String) : Fault :=
  .settings ("unknown log format " ++ Text.quote (Text.asciiLower text) ++ " (expected text or json)")

/-- **Formats** are read exactly where they are named. -/
theorem parse_ok_iff {text : String} {format : LogFormat} :
    parse text = .ok format ↔ format.Named text := by
  by_cases htext : Text.asciiLower text = "text"
  · cases format <;> simp [parse, Named, word, htext]
  by_cases hjson : Text.asciiLower text = "json"
  · cases format <;> simp [parse, Named, word, hjson]
  · cases format <;> simp [parse, Named, word, htext, hjson]

theorem parse_error {text : String} (h : ∀ format : LogFormat, ¬ format.Named text) :
    parse text = .error (unknown text) := by
  have htext : ¬ Text.asciiLower text = "text" := h .text
  have hjson : ¬ Text.asciiLower text = "json" := h .json
  simp only [parse, if_neg htext, if_neg hjson, unknown]

end LogFormat

/-! ## 5. What a system holds -/

/-- The variables of a system: their values are bytes. -/
abbrev SystemVariables := List (String × ByteArray)

namespace SystemVariables

/-- `system.Holds name text`: the variable is set, and its value is a text. -/
def Holds (system : SystemVariables) (name text : String) : Prop :=
  ∃ bytes, system.lookup name = some bytes ∧ String.fromUTF8? bytes = some text

/-- What a run sees of the variables.  A value that is no text counts as not set; of variables with one name
the first counts. -/
def seen (system : SystemVariables) : Environment where
  entries := system.filterMap fun entry =>
    ((system.lookup entry.1).bind String.fromUTF8?).map (entry.1, ·)

/-- Entries whose values are given anew by their names. -/
theorem lookup_filterMap {β γ : Type} (value? : String → Option γ) (name : String) :
    ∀ entries : List (String × β),
      (entries.filterMap fun entry => (value? entry.1).map (entry.1, ·)).lookup name =
        (entries.lookup name).bind fun _ => value? name
  | [] => rfl
  | (key, value) :: entries => by
    have hrest := lookup_filterMap value? name entries
    rw [List.filterMap_cons, List.lookup_cons]
    by_cases hname : name = key
    · subst hname
      rw [beq_self_eq_true]
      cases hvalue : value? name with
      | none =>
        rw [hvalue] at hrest
        simp only [Option.map_none, hrest, Option.bind_fun_none]
      | some value' => simp only [Option.map_some, List.lookup_cons_self, Option.bind_some]
    · have hother : (name == key) = false := beq_eq_false_iff_ne.2 hname
      rw [hother]
      cases value? key with
      | none => exact hrest
      | some value' =>
        simp only [Option.map_some, List.lookup_cons, hother]
        exact hrest

/-- A run sees the texts that the variables hold. -/
theorem get?_seen {system : SystemVariables} {name text : String} :
    system.seen.get? name = some text ↔ system.Holds name text := by
  have hget : system.seen.get? name = (system.lookup name).bind String.fromUTF8? := by
    rw [Environment.get?, seen,
      lookup_filterMap fun name => (system.lookup name).bind String.fromUTF8?]
    cases system.lookup name <;> rfl
  rw [hget, Option.bind_eq_some_iff]
  rfl

/-- `system.TimeoutSaid said`: what the variables say of the timeout is nothing, or the seconds that are
written. -/
inductive TimeoutSaid (system : SystemVariables) : Option Duration → Prop
  | unset : (∀ text, ¬ system.Holds Settings.timeoutVariable text) → TimeoutSaid system none
  | seconds {text : String} {n : Nat} : system.Holds Settings.timeoutVariable text →
      WritesSeconds text n → TimeoutSaid system (some (.ofWhole n))

/-- `system.FormatSaid said`: what the variables say of the format is nothing, or the format that is
named. -/
inductive FormatSaid (system : SystemVariables) : Option LogFormat → Prop
  | unset : (∀ text, ¬ system.Holds Settings.formatVariable text) → FormatSaid system none
  | named {text : String} {format : LogFormat} : system.Holds Settings.formatVariable text →
      format.Named text → FormatSaid system (some format)

variable {system : SystemVariables}

/-- The variables say something of the timeout, or it is set to what is no number of seconds. -/
theorem timeoutSaid_or (system : SystemVariables) : (∃ said, system.TimeoutSaid said) ∨
    ∃ text, system.Holds Settings.timeoutVariable text ∧ ∀ n, ¬ WritesSeconds text n := by
  by_cases hset : ∃ text, system.Holds Settings.timeoutVariable text
  · obtain ⟨text, htext⟩ := hset
    by_cases hwritten : ∃ n, WritesSeconds text n
    · obtain ⟨n, hn⟩ := hwritten
      exact .inl ⟨_, .seconds htext hn⟩
    · exact .inr ⟨text, htext, not_exists.1 hwritten⟩
  · exact .inl ⟨_, .unset (not_exists.1 hset)⟩

/-- The variables say something of the format, or it is set to what names none. -/
theorem formatSaid_or (system : SystemVariables) : (∃ said, system.FormatSaid said) ∨
    ∃ text, system.Holds Settings.formatVariable text ∧ ∀ format : LogFormat, ¬ format.Named text := by
  by_cases hset : ∃ text, system.Holds Settings.formatVariable text
  · obtain ⟨text, htext⟩ := hset
    by_cases hnamed : ∃ format : LogFormat, format.Named text
    · obtain ⟨format, hformat⟩ := hnamed
      exact .inl ⟨_, .named htext hformat⟩
    · exact .inr ⟨text, htext, not_exists.1 hnamed⟩
  · exact .inl ⟨_, .unset (not_exists.1 hset)⟩

theorem get?_seen_eq_none {name : String} (h : ∀ text, ¬ system.Holds name text) :
    system.seen.get? name = none := by
  cases hget : system.seen.get? name with
  | none => rfl
  | some text => exact absurd (get?_seen.1 hget) (h text)

end SystemVariables

/-! ## 6. Overriding -/

namespace Settings

variable {system : SystemVariables} (settings : Settings)

/-- The settings with the timeout that is said. -/
def withTimeout (settings : Settings) : Option Duration → Settings
  | none => settings
  | some timeout => { settings with wait := { settings.wait with timeout } }

theorem overrideTimeout_said {said : Option Duration} (h : system.TimeoutSaid said) :
    settings.overrideTimeout (system.seen.get? timeoutVariable) = .ok (settings.withTimeout said) := by
  cases h with
  | unset hunset =>
    rw [SystemVariables.get?_seen_eq_none hunset]
    rfl
  | seconds htext hn =>
    rw [SystemVariables.get?_seen.2 htext, overrideTimeout,
      wholeSeconds?_eq_some_iff.2 ⟨_, hn, rfl⟩]
    rfl

/-- What is no number of seconds is refused. -/
theorem overrideTimeout_error {text : String} (htext : system.Holds timeoutVariable text)
    (h : ∀ n, ¬ WritesSeconds text n) :
    settings.overrideTimeout (system.seen.get? timeoutVariable) =
      .error (.settings (timeoutVariable ++ " must be a number of seconds")) := by
  have hnone : wholeSeconds? text = none := by
    cases hseconds : wholeSeconds? text with
    | none => rfl
    | some timeout =>
      obtain ⟨n, hn, -⟩ := wholeSeconds?_eq_some_iff.1 hseconds
      exact absurd hn (h n)
  rw [SystemVariables.get?_seen.2 htext, overrideTimeout, hnone]

theorem overrideFormat_said {said : Option LogFormat} (h : system.FormatSaid said) :
    settings.overrideFormat (system.seen.get? formatVariable) = .ok (settings.withFormat said) := by
  cases h with
  | unset hunset =>
    rw [SystemVariables.get?_seen_eq_none hunset]
    rfl
  | named htext hnamed =>
    rw [SystemVariables.get?_seen.2 htext, overrideFormat, LogFormat.parse_ok_iff.2 hnamed]
    rfl

/-- What names no format is refused. -/
theorem overrideFormat_error {text : String} (htext : system.Holds formatVariable text)
    (h : ∀ format : LogFormat, ¬ format.Named text) :
    settings.overrideFormat (system.seen.get? formatVariable) = .error (LogFormat.unknown text) := by
  rw [SystemVariables.get?_seen.2 htext, overrideFormat, LogFormat.parse_error h]
  rfl

end Settings

end Teardown
