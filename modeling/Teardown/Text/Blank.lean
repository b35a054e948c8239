/-
# Blank characters and words

Which characters count as blank when a value is trimmed (the property `White_Space`), and how a
text is cut at the first occurrence of a separator.  The functions work on lists of characters;
`trim`, `splitOnce?` and `split` are their forms on texts.

The functions on characters recur through the list, one character at a time, which is the form
that the proofs about cut texts need.
-/

namespace Teardown.Text

/-! ## 1. Blank characters -/

/-- The closed ranges of the property `White_Space`, in increasing order. -/
def blankRanges : List (Nat × Nat) :=
  [(0x9, 0xd), (0x20, 0x20), (0x85, 0x85), (0xa0, 0xa0), (0x1680, 0x1680), (0x2000, 0x200a),
   (0x2028, 0x2029), (0x202f, 0x202f), (0x205f, 0x205f), (0x3000, 0x3000)]

def isBlank (c : Char) : Bool :=
  blankRanges.any fun range => range.1 ≤ c.toNat && c.toNat ≤ range.2

/-- The characters between the first and the last that are not blank. -/
def trimChars (s : List Char) : List Char :=
  ((s.dropWhile isBlank).reverse.dropWhile isBlank).reverse

def trim (s : String) : String :=
  String.ofList (trimChars s.toList)

/-! ## 2. Cutting at a separator -/

/-- What stands after a given beginning, if the text begins so. -/
def dropBeginning? : (beginning text : List Char) → Option (List Char)
  | [], text => some text
  | _ :: _, [] => none
  | b :: beginning, c :: text => if b = c then dropBeginning? beginning text else none

/-- What stands before and after the first occurrence of a separator. -/
def splitOnceChars? (separator : List Char) : List Char → Option (List Char × List Char)
  | [] => (dropBeginning? separator []).map fun rest => ([], rest)
  | c :: text =>
    match dropBeginning? separator (c :: text) with
    | some rest => some ([], rest)
    | none => (splitOnceChars? separator text).map fun (before, after) => (c :: before, after)

def splitOnce? (separator s : String) : Option (String × String) :=
  (splitOnceChars? separator.toList s.toList).map fun (before, after) =>
    (String.ofList before, String.ofList after)

/-- The pieces between the occurrences of a character: always at least one. -/
def splitChars (separator : Char) : List Char → List (List Char)
  | [] => [[]]
  | c :: text =>
    if c = separator then [] :: splitChars separator text
    else
      match splitChars separator text with
      | [] => [[c]]
      | piece :: pieces => (c :: piece) :: pieces

def split (separator : Char) (s : String) : List String :=
  (splitChars separator s.toList).map String.ofList

/-! ## 3. ASCII letters -/

/-- A text with its ASCII capitals made small and everything else kept. -/
def asciiLower (s : String) : String :=
  String.ofList (s.toList.map Char.toLower)

/-! ## Worked examples -/

example : trimChars [' ', 'a', ' ', 'b', '\t'] = ['a', ' ', 'b'] := by decide

example : splitOnceChars? ['-', '-'] ['a', '-', '-', '-', 'b'] = some (['a'], ['-', 'b']) := by
  decide

example : splitChars ',' ['a', ',', ',', 'b'] = [['a'], [], ['b']] := by decide

end Teardown.Text
