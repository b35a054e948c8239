/-
# Lexemes of YAML

How the longer lexemes are read: anchors, tags, directives, and the scalars in their three styles.
Each reader begins at the first character of the lexeme and gives its value and the cursor after
it, or `none` where the text is malformed.

The line breaks inside a scalar are folded: the first break of a group is kept back, and becomes a
blank if no other follows.

The readers of scalars go from word to word.  Between two words there is white space (`Gap`), of
which it is known only after it whether it belongs to the scalar; so it is kept beside the value
and comes into it with the next word.

* §1-3  anchors, tags and directives.
* §4  folding, with the white space between words.
* §5-7  scalars: plain, quoted and in blocks.
-/
import Teardown.Yaml.Cursor
import Teardown.Number.Numeral

namespace Teardown.Yaml

/-! ## 1. Anchors -/

/-- Whether a lexeme may end before what comes next. -/
def endsWord (c : Cursor) : Bool :=
  c.isOpenAt 0 || c.nextIs fun char => "?:,]\x7d%@`".toList.contains char

/-- The name of an anchor or alias. -/
def readAnchor (c : Cursor) : Option (String × Cursor) :=
  let c := c.skip 1
  let name := c.run isWordChar
  let c := c.skip name.length
  if name.isEmpty ∨ !endsWord c then none else some (String.ofList name, c)

/-! ## 2. Tags -/

/-- Whether a character may occur in a tag; some may only where the tag is written in full. -/
def isTagChar (full : Bool) (char : Char) : Bool :=
  isWordChar char || ";/?:@&=+$.%!~*'()".toList.contains char ||
    (full && ",[]".toList.contains char)

/-- A percent sign and two hexadecimal digits, for each byte of one character. -/
def readEncoded (c : Cursor) : Option (Char × Cursor) := do
  let byte (c : Cursor) : Option Nat :=
    match c.rest with
    | '%' :: a :: b :: _ => Numeral.digitsValue? 16 0 [a, b]
    | _ => none
  let first ← byte c
  let more (count value : Nat) : Option (Char × Cursor) := do
    let (value, c) ← (List.range count).foldlM (fun (value, c) _ => do
      let next ← byte c
      if 0x80 ≤ next ∧ next < 0xc0 then some (value * 64 + (next - 0x80), c.skip 3) else none)
      (value, c.skip 3)
    some (Char.ofNat value, c)
  if first < 0x80 then more 0 first
  else if 0xc0 ≤ first ∧ first < 0xe0 then more 1 (first - 0xc0)
  else if 0xe0 ≤ first ∧ first < 0xf0 then more 2 (first - 0xe0)
  else if 0xf0 ≤ first ∧ first < 0xf8 then more 3 (first - 0xf0)
  else none

/-- The characters of a tag that come next, in order. -/
def readTagChars (full : Bool) (fuel : Nat) (read : List Char) (c : Cursor) :
    Option (List Char × Cursor) :=
  match fuel with
  | 0 => none
  | fuel + 1 =>
    match c.rest with
    | '%' :: _ =>
      match readEncoded c with
      | some (char, c) => readTagChars full fuel (char :: read) c
      | none => none
    | char :: _ =>
      if isTagChar full char then readTagChars full fuel (char :: read) (c.skip 1)
      else some (read.reverse, c)
    | [] => some (read.reverse, c)

def readTagText (full : Bool) (before : List Char) (c : Cursor) : Option (List Char × Cursor) := do
  let (chars, c) ← readTagChars full (c.rest.length + 1) (before.drop 1).reverse c
  if chars.isEmpty ∧ before.isEmpty then none else some (chars, c)

/-- A handle: an exclamation mark, and perhaps a word and another one. -/
def readHandle (c : Cursor) : List Char × Cursor :=
  let word := (c.skip 1).run isWordChar
  let c := c.skip (1 + word.length)
  if c.has '!' then ('!' :: word ++ ['!'], c.skip 1) else ('!' :: word, c)

/-- Whether a tag may end here. -/
def endsTag (inFlow : Bool) (c : Cursor) : Bool := c.isOpenAt 0 || (inFlow && c.has ',')

/-- A tag, as its handle and what follows it. -/
def readTag (inFlow : Bool) (c : Cursor) : Option ((String × String) × Cursor) := do
  let ((handle, suffix), c) ←
    if c.hasAt 1 '<' then do
      let (text, c) ← readTagText true [] (c.skip 2)
      if c.has '>' then some (([], text), c.skip 1) else none
    else
      let (handle, after) := readHandle c
      if 1 < handle.length ∧ handle.getLast? = some '!' then do
        let (text, c) ← readTagText false [] after
        some ((handle, text), c)
      else do
        let (text, c) ← readTagText false handle after
        some (if text.isEmpty then (([], ['!']), c) else ((['!'], text), c))
  if endsTag inFlow c then some ((String.ofList handle, String.ofList suffix), c) else none

/-! ## 3. Directives -/

/-- A directive: the version of the language, or the meaning of a handle. -/
inductive Directive
  | version (major minor : Nat)
  | tag (handle beginning : String)
deriving DecidableEq

/-- A number of at most nine digits. -/
def readVersionNumber (c : Cursor) : Option (Nat × Cursor) :=
  let digits := c.run Numeral.isDigit
  if 9 < digits.length then none
  else (Numeral.natural? 10 digits).map fun n => (n, c.skip digits.length)

/-- The version after its directive's name. -/
def readVersion (c : Cursor) : Option (Directive × Cursor) := do
  let (major, c) ← readVersionNumber c.skipBlanks
  if !c.has '.' then none
  else
    let (minor, c) ← readVersionNumber (c.skip 1)
    some (.version major minor, c)

def readTagDirective (c : Cursor) : Option (Directive × Cursor) := do
  let c := c.skipBlanks
  if !c.has '!' then none
  else
    let (handle, c) := readHandle c
    if handle ≠ ['!'] ∧ handle.getLast? ≠ some '!' then none
    else if !c.nextIs isBlank then none
    else
      let (text, c) ← readTagText true [] c.skipBlanks
      if c.isOpenAt 0 then some (.tag (String.ofList handle) (String.ofList text), c) else none

/-- Past the end of a line that holds nothing but blanks and a comment. -/
def finishLine (c : Cursor) : Option Cursor :=
  let c := c.skipBlanks
  let c := if c.has '#' then c.skipLine else c
  if c.atLineEnd then some c.skipBreak else none

/-- A directive, with the line that it stands on. -/
def readDirective (c : Cursor) : Option (Directive × Cursor) := do
  let c := c.skip 1
  let name := c.run isWordChar
  let c := c.skip name.length
  if name.isEmpty ∨ !c.isOpenAt 0 then none
  else
    let (directive, c) ←
      if name = ['Y', 'A', 'M', 'L'] then readVersion c
      else if name = ['T', 'A', 'G'] then readTagDirective c
      else none
    some (directive, ← finishLine c)

/-! ## 4. Folding -/

/-- The white space that was read since the last other character: blanks on one line, or the first
break and those after it. -/
inductive Gap
  | blanks (chars : List Char)
  | broken (first : List Char) (more : List Char)

namespace Gap

def none : Gap := .blanks []

/-- Whether a break was read. -/
def isBroken : Gap → Bool
  | .broken .. => true
  | .blanks _ => false

/-- The characters that the white space is read as. -/
def text : Gap → List Char
  | .blanks chars => chars
  | .broken ('\n' :: _) [] => [' ']
  | .broken ('\n' :: _) more => more
  | .broken first more => first ++ more

/-- The white space with one more break. -/
def withBreak (gap : Gap) (chars : List Char) : Gap :=
  match gap with
  | .blanks _ => .broken chars []
  | .broken first more => .broken first (more ++ chars)

/-- The white space with one more blank; after a break blanks do not count. -/
def withBlank (gap : Gap) (char : Char) : Gap :=
  match gap with
  | .blanks chars => .blanks (chars ++ [char])
  | .broken first more => .broken first more

end Gap

/-- The white space that comes next, read in addition to some.  Where tabs may not indent, one that
stands before a given column makes the text malformed. -/
def readGap (tabFrom : Nat) (fuel : Nat) (gap : Gap) (c : Cursor) : Option (Gap × Cursor) :=
  match fuel with
  | 0 => some (gap, c)
  | fuel + 1 =>
    match c.rest with
    | char :: _ =>
      if isBlank char then
        if gap.isBroken ∧ char = '\t' ∧ c.column < tabFrom then none
        else readGap tabFrom fuel (gap.withBlank char) (c.skip 1)
      else if isBreak char then
        let (chars, next) := c.readBreak
        readGap tabFrom fuel (gap.withBreak chars) next
      else some (gap, c)
    | [] => some (gap, c)

/-! ## 5. Plain scalars -/

/-- Whether a plain scalar ends before what comes next. -/
def endsPlain (inFlow : Bool) (c : Cursor) : Bool :=
  (c.has ':' && c.isOpenAt 1) ||
    (inFlow && c.nextIs fun char => ",[]\x7b\x7d".toList.contains char)

/-- Whether a colon comes next that makes a plain scalar malformed. -/
def hasStrayColon (inFlow : Bool) (c : Cursor) : Bool :=
  inFlow && c.has ':' && (c.ahead 1).any fun char => ",?[]\x7b\x7d".toList.contains char

/-- The characters of a plain scalar up to white space or its end. -/
def readPlainWord (inFlow : Bool) (fuel : Nat) (read : List Char) (c : Cursor) :
    Option (List Char × Cursor) :=
  match fuel with
  | 0 => some (read, c)
  | fuel + 1 =>
    match c.rest with
    | char :: _ =>
      if c.isOpenAt 0 then some (read, c)
      else if hasStrayColon inFlow c then none
      else if endsPlain inFlow c then some (read, c)
      else readPlainWord inFlow fuel (char :: read) (c.skip 1)
    | [] => some (read, c)

/-- A plain scalar from a word on: its value, whether a break follows it, and the cursor after it and
the white space behind it. -/
def readPlainWords (inFlow : Bool) (indent : Nat) (fuel : Nat) (gap : Gap) (read : List Char)
    (c : Cursor) : Option (String × Bool × Cursor) :=
  match fuel with
  | 0 => none
  | fuel + 1 =>
    let finish : Option (String × Bool × Cursor) :=
      some (String.ofList read.reverse, gap.isBroken, c)
    if c.atDocumentMark ∨ c.has '#' then finish
    else
      match readPlainWord inFlow (c.rest.length + 1) [] c with
      | none => none
      | some ([], _) => finish
      | some (word, c) =>
        let read := word ++ gap.text.reverse ++ read
        if !c.nextIs (fun char => isBlank char || isBreak char) then
          some (String.ofList read.reverse, false, c)
        else
          match readGap indent (c.rest.length + 1) Gap.none c with
          | none => none
          | some (gap, c) =>
            if !inFlow ∧ c.column < indent then
              some (String.ofList read.reverse, gap.isBroken, c)
            else readPlainWords inFlow indent fuel gap read c

def readPlain (inFlow : Bool) (indent : Nat) (c : Cursor) : Option (String × Bool × Cursor) :=
  readPlainWords inFlow indent (c.rest.length + 1) Gap.none [] c

/-! ## 6. Quoted scalars -/

def simpleEscape? : Char → Option Char
  | '0' => some (Char.ofNat 0)
  | 'a' => some (Char.ofNat 0x7)
  | 'b' => some (Char.ofNat 0x8)
  | 't' => some '\t'
  | '\t' => some '\t'
  | 'n' => some '\n'
  | 'v' => some (Char.ofNat 0xb)
  | 'f' => some (Char.ofNat 0xc)
  | 'r' => some '\r'
  | 'e' => some (Char.ofNat 0x1b)
  | ' ' => some ' '
  | '"' => some '"'
  | '/' => some '/'
  | '\\' => some '\\'
  | 'N' => some (Char.ofNat 0x85)
  | '_' => some (Char.ofNat 0xa0)
  | 'L' => some (Char.ofNat 0x2028)
  | 'P' => some (Char.ofNat 0x2029)
  | _ => none

/-- How many hexadecimal digits an escape has. -/
def escapeWidth? : Char → Option Nat
  | 'x' => some 2
  | 'u' => some 4
  | 'U' => some 8
  | _ => none

/-- An escape, from its backslash on. -/
def readEscape (c : Cursor) : Option (Char × Cursor) := do
  let letter ← c.ahead 1
  match escapeWidth? letter with
  | none => (simpleEscape? letter).map fun char => (char, c.skip 2)
  | some width =>
    let digits := (c.skip 2).rest.take width
    if digits.length < width then none
    else
      let value ← Numeral.digitsValue? 16 0 digits
      if (0xd800 ≤ value ∧ value ≤ 0xdfff) ∨ 0x10ffff < value then none
      else some (Char.ofNat value, c.skip (2 + width))

/-- The characters of a quoted scalar up to white space or the closing quote, backwards, and whether
an escaped break ended them. -/
def readQuotedWord (single : Bool) (fuel : Nat) (read : List Char) (c : Cursor) :
    Option (List Char × Bool × Cursor) :=
  match fuel with
  | 0 => none
  | fuel + 1 =>
    match c.rest with
    | [] => some (read, false, c)
    | char :: _ =>
      if isBlank char ∨ isBreak char then some (read, false, c)
      else if single then
        if char = '\'' then
          if c.hasAt 1 '\'' then readQuotedWord single fuel ('\'' :: read) (c.skip 2)
          else some (read, false, c)
        else readQuotedWord single fuel (char :: read) (c.skip 1)
      else if char = '"' then some (read, false, c)
      else if char = '\\' then
        if (c.ahead 1).any isBreak then some (read, true, (c.skip 1).skipBreak)
        else
          match readEscape c with
          | some (char, c) => readQuotedWord single fuel (char :: read) c
          | none => none
      else readQuotedWord single fuel (char :: read) (c.skip 1)

/-- A quoted scalar after its opening quote. -/
def readQuotedWords (single : Bool) (fuel : Nat) (read : List Char) (c : Cursor) :
    Option (String × Cursor) :=
  match fuel with
  | 0 => none
  | fuel + 1 =>
    if c.atDocumentMark ∨ c.atEnd then none
    else
      match readQuotedWord single (c.rest.length + 1) read c with
      | none => none
      | some (read, escaped, c) =>
        if c.has (if single then '\'' else '"') then
          some (String.ofList read.reverse, c.skip 1)
        else
          let before := if escaped then Gap.broken [] [] else Gap.none
          match readGap 0 (c.rest.length + 1) before c with
          | none => none
          | some (gap, c) => readQuotedWords single fuel (gap.text.reverse ++ read) c

def readQuoted (single : Bool) (c : Cursor) : Option (String × Cursor) :=
  readQuotedWords single (c.rest.length + 1) [] (c.skip 1)

/-! ## 7. Block scalars -/

/-- What becomes of the line breaks at the end of a block scalar. -/
inductive Chomping
  | strip
  | clip
  | keep
deriving DecidableEq

def readChomping (c : Cursor) : Option (Chomping × Cursor) :=
  if c.has '+' then some (.keep, c.skip 1)
  else if c.has '-' then some (.strip, c.skip 1)
  else none

/-- The digit for the indentation, if one comes next; it may not be zero. -/
def readIncrement (c : Cursor) : Option (Nat × Cursor) :=
  match c.rest with
  | char :: _ =>
    if char = '0' then none
    else if Numeral.isDigit char then some (char.toNat - '0'.toNat, c.skip 1)
    else some (0, c)
  | [] => some (0, c)

/-- The header of a block scalar: what becomes of the last breaks, and the indentation or zero. -/
def readHeader (c : Cursor) : Option ((Chomping × Nat) × Cursor) :=
  match readChomping c with
  | some (chomping, c) => (readIncrement c).map fun (increment, c) => ((chomping, increment), c)
  | none => do
    let (increment, c) ← readIncrement c
    if increment = 0 then some ((.clip, 0), c)
    else
      match readChomping c with
      | some (chomping, c) => some ((chomping, increment), c)
      | none => some ((.clip, increment), c)

/-- The empty lines before a line of a block scalar: their breaks, and the largest column that was
reached.  An indentation of zero is not known yet. -/
def readEmptyLines (indent : Nat) (fuel : Nat) (breaks : List Char) (largest : Nat) (c : Cursor) :
    Option ((List Char × Nat) × Cursor) :=
  match fuel with
  | 0 => none
  | fuel + 1 =>
    let spaces := (c.run (· = ' ')).length
    let c := c.skip (if indent = 0 then spaces else min spaces (indent - c.column))
    let largest := max largest c.column
    if (indent = 0 ∨ c.column < indent) ∧ c.has '\t' then none
    else if c.nextIs isBreak then
      let (chars, c) := c.readBreak
      readEmptyLines indent fuel (breaks ++ chars) largest c
    else some ((breaks, largest), c)

/-- The indentation of a block scalar: the given one, or else that of its first line, and at least one
more than around it. -/
def blockIndent (around : Int) (given largest : Nat) : Nat :=
  if given ≠ 0 then given else max (max largest (around + 1).toNat) 1

/-- The lines of a block scalar.  `kept` is the break of the line before, `breaks` are those of the
empty lines after it, and `wasBlank` says whether that line began with a blank. -/
def readBlockLines (literal : Bool) (chomping : Chomping) (indent : Nat) (fuel : Nat)
    (read kept breaks : List Char) (wasBlank : Bool) (c : Cursor) : Option (String × Cursor) :=
  match fuel with
  | 0 => none
  | fuel + 1 =>
    if c.column = indent ∧ !c.atEnd then
      let isBlankLine := c.nextIs isBlank
      let joint :=
        if !literal ∧ kept.head? = some '\n' ∧ !wasBlank ∧ !isBlankLine then
          if breaks.isEmpty then [' '] else []
        else kept
      let line := c.run fun char => !isBreak char
      let (kept, c) := c.skipLine.readBreak
      match readEmptyLines indent (c.rest.length + 1) [] 0 c with
      | none => none
      | some ((more, _), c) =>
        readBlockLines literal chomping indent fuel
          (line.reverse ++ breaks.reverse ++ joint.reverse ++ read) kept more isBlankLine c
    else
      let last := if chomping = .strip then [] else kept
      let more := if chomping = .keep then breaks else []
      some (String.ofList (read.reverse ++ last ++ more), c)

/-- A block scalar inside a given indentation. -/
def readBlock (literal : Bool) (around : Int) (c : Cursor) : Option (String × Cursor) := do
  let ((chomping, increment), c) ← readHeader (c.skip 1)
  let c ← finishLine c
  let given := if increment = 0 then 0 else (max around 0).toNat + increment
  let ((breaks, largest), c) ← readEmptyLines given (c.rest.length + 1) [] 0 c
  readBlockLines literal chomping (blockIndent around given largest) (c.rest.length + 1) [] []
    breaks false c

/-! ## Worked examples -/

example : (readPlain false 0 (.ofText "a b: c".toList)).map (·.1) = some "a b" := by cbv

example : (readQuoted true (.ofText "'it''s'".toList)).map (·.1) = some "it's" := by cbv

example : (readBlock false (-1) (.ofText ">\n a\n b\n\n c\n".toList)).map (·.1) =
    some "a b\nc\n" := by cbv

end Teardown.Yaml
