/-
# Quoted texts can be read back

Every character leaves a mark of its own between quotes.  An escape begins with a backslash, and a
backslash stands nowhere for itself; a code in hexadecimal digits ends with a brace.  `readChar?`
reads the mark of one character and gives what follows it (`readChar?_quoteChar`).  So two quoted
texts that are the same are quoted from the same text, whatever follows them (`quote_append_inj`).

A line break is escaped in any case, so what is quoted stays in its line (`quote_in_line`).

The reader is only there for the proof.  Injectivity could be shown by comparing the marks of two
characters, but there are as many cases as pairs of marks; with a reader there are as many as
marks.  Which characters are written as codes is of no importance, so the table of hidden
characters never comes in.
-/
import Teardown.Text.Quoted

namespace Teardown.Text

/-! ## 1. Hexadecimal codes -/

/-- The value of a hexadecimal digit. -/
def hexValue (c : Char) : Nat :=
  if c.toNat < 'a'.toNat then c.toNat - '0'.toNat else c.toNat - 'a'.toNat + 10

theorem hexValue_hexDigit {n : Nat} (h : n < 16) : hexValue (hexDigit n) = n := by
  decide +revert

theorem hexDigit_ne {n : Nat} (h : n < 16) : hexDigit n ≠ '\x7d' ∧ hexDigit n ≠ '\n' := by
  decide +revert

/-- The character with the code that is written here, up to a closing brace, and what follows. -/
def readCode? (value : Nat) : List Char → Option (Char × List Char)
  | [] => none
  | c :: rest =>
    if c = '\x7d' then some (.ofNat value, rest) else readCode? (value * 16 + hexValue c) rest

/-- One more digit of a code is read. -/
theorem readCode?_hexDigit {n : Nat} (h : n < 16) (value : Nat) (rest : List Char) :
    readCode? value (hexDigit n :: rest) = readCode? (value * 16 + n) rest := by
  rw [readCode?, if_neg (hexDigit_ne h).1, hexValue_hexDigit h]

/-- The digits of a number are read as the number. -/
theorem readCode?_hexDigits (n : Nat) (rest : List Char) :
    readCode? 0 (hexDigits n ++ rest) = readCode? n rest := by
  induction n using hexDigits.induct generalizing rest with
  | case1 n hn =>
    rw [hexDigits, if_pos hn, List.singleton_append, readCode?_hexDigit hn, Nat.zero_mul,
      Nat.zero_add]
  | case2 n hn ih =>
    rw [hexDigits, if_neg hn, List.append_assoc, ih, List.singleton_append,
      readCode?_hexDigit (Nat.mod_lt n (by decide)), Nat.div_add_mod']

theorem newline_not_mem_hexDigits (n : Nat) : '\n' ∉ hexDigits n := by
  induction n using hexDigits.induct with
  | case1 n hn =>
    rw [hexDigits, if_pos hn, List.mem_singleton]
    exact (hexDigit_ne hn).2.symm
  | case2 n hn ih =>
    rw [hexDigits, if_neg hn, List.mem_append, List.mem_singleton, not_or]
    exact ⟨ih, (hexDigit_ne (Nat.mod_lt n (by decide))).2.symm⟩

/-! ## 2. Characters -/

/-- The character of an escape, after the backslash, and what follows. -/
def readEscape? : List Char → Option (Char × List Char)
  | '0' :: rest => some ('\x00', rest)
  | 't' :: rest => some ('\t', rest)
  | 'r' :: rest => some ('\r', rest)
  | 'n' :: rest => some ('\n', rest)
  | '"' :: rest => some ('"', rest)
  | '\\' :: rest => some ('\\', rest)
  | 'u' :: '\x7b' :: rest => readCode? 0 rest
  | _ => none

/-- The next character of a quoted text and what follows, if the text is not over. -/
def readChar? : List Char → Option (Char × List Char)
  | [] => none
  | c :: rest => if c = '"' then none else if c = '\\' then readEscape? rest else some (c, rest)

/-- A character stands inside quotes as an escape with its own letter, as a code, or as it is. -/
theorem quoteChar_cases (c : Char) :
    (∃ letter, quoteChar c = ['\\', letter] ∧ letter ≠ '\n' ∧
        ∀ rest, readEscape? (letter :: rest) = some (c, rest)) ∨
      quoteChar c = '\\' :: 'u' :: '\x7b' :: (hexDigits c.toNat ++ ['\x7d']) ∨
      (quoteChar c = [c] ∧ c ≠ '"' ∧ c ≠ '\\' ∧ c ≠ '\n') := by
  unfold quoteChar
  split
  · exact .inl ⟨'0', rfl, by decide, fun _ => rfl⟩
  · exact .inl ⟨'t', rfl, by decide, fun _ => rfl⟩
  · exact .inl ⟨'r', rfl, by decide, fun _ => rfl⟩
  · exact .inl ⟨'n', rfl, by decide, fun _ => rfl⟩
  · exact .inl ⟨'"', rfl, by decide, fun _ => rfl⟩
  · exact .inl ⟨'\\', rfl, by decide, fun _ => rfl⟩
  · rename_i hnewline hquote hbackslash
    split
    · exact .inr (.inl rfl)
    · exact .inr (.inr ⟨rfl, hquote, hbackslash, hnewline⟩)

/-- **A character is read back** from the way it stands inside quotes. -/
theorem readChar?_quoteChar (c : Char) (rest : List Char) :
    readChar? (quoteChar c ++ rest) = some (c, rest) := by
  rcases quoteChar_cases c with
    ⟨letter, hquoted, -, hread⟩ | hquoted | ⟨hquoted, hquote, hbackslash, -⟩
  · rw [hquoted]
    exact hread rest
  · rw [hquoted]
    change readCode? 0 (hexDigits c.toNat ++ ['\x7d'] ++ rest) = _
    rw [List.append_assoc, readCode?_hexDigits, List.singleton_append, readCode?, if_pos rfl,
      Char.ofNat_toNat]
  · rw [hquoted, List.singleton_append, readChar?, if_neg hquote, if_neg hbackslash]

theorem newline_not_mem_quoteChar (c : Char) : '\n' ∉ quoteChar c := by
  rcases quoteChar_cases c with ⟨letter, hquoted, hletter, -⟩ | hquoted | ⟨hquoted, -, -, hc⟩
  · simp [hquoted, hletter.symm]
  · simp [hquoted, newline_not_mem_hexDigits]
  · simp [hquoted, hc.symm]

/-! ## 3. Texts -/

/-- What stands before the closing quote belongs to one text only. -/
theorem flatMap_quoteChar_inj {s s' rest rest' : List Char}
    (h : s.flatMap quoteChar ++ '"' :: rest = s'.flatMap quoteChar ++ '"' :: rest') :
    s = s' ∧ rest = rest' := by
  have hread := congrArg readChar? h
  induction s generalizing s' with
  | nil =>
    cases s' with
    | nil => exact ⟨rfl, (List.cons.inj h).2⟩
    | cons c' s' =>
      rw [List.flatMap_cons, List.append_assoc, readChar?_quoteChar] at hread
      exact absurd hread (by simp [readChar?])
  | cons c s ih =>
    rw [List.flatMap_cons, List.append_assoc, readChar?_quoteChar] at hread
    cases s' with
    | nil => exact absurd hread (by simp [readChar?])
    | cons c' s' =>
      rw [List.flatMap_cons, List.append_assoc, readChar?_quoteChar] at hread
      obtain ⟨rfl, hmore⟩ := Prod.mk.inj (Option.some.inj hread)
      obtain ⟨rfl, hrest⟩ := ih hmore (congrArg readChar? hmore)
      exact ⟨rfl, hrest⟩

/-- **Two quoted texts that are the same** are quoted from the same text, whatever follows them. -/
theorem quote_append_inj {s s' rest rest' : String} (h : quote s ++ rest = quote s' ++ rest') :
    s = s' ∧ rest = rest' := by
  have hchars := congrArg String.toList h
  simp only [quote, quoteChars, String.toList_append, String.toList_ofList, List.cons_append,
    List.append_assoc, List.nil_append, List.cons.injEq, true_and] at hchars
  obtain ⟨htext, hrest⟩ := flatMap_quoteChar_inj hchars
  exact ⟨String.toList_inj.1 htext, String.toList_inj.1 hrest⟩

/-- **What is quoted stays in its line.** -/
theorem quote_in_line (s : String) : '\n' ∉ (quote s).toList := by
  simp [quote, quoteChars, newline_not_mem_quoteChar]

end Teardown.Text
