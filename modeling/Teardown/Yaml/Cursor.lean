/-
# Reading positions in a YAML text

A cursor is what is left of a text, with its place: how many characters were read, the line, and
the column.  Blanks and line breaks are the ones of YAML 1.1, where five kinds of break end a
line; all but the two Unicode separators are read as a line feed.

The questions about a cursor never go past its end: where nothing is left there is no character,
and a line ends there as well.

* §1  classes of characters.
* §2  cursors: questions about what comes next, and ways past it.
-/

namespace Teardown.Yaml

/-! ## 1. Classes of characters -/

/-- The five characters that break a line. -/
def isBreak (c : Char) : Bool :=
  c = '\n' || c = '\r' || c.toNat = 0x85 || c.toNat = 0x2028 || c.toNat = 0x2029

/-- Space and tab. -/
def isBlank (c : Char) : Bool := c = ' ' || c = '\t'

/-- The letters, digits and signs of anchors, tag handles and directives. -/
def isWordChar (c : Char) : Bool := c.isAlphanum || c = '_' || c = '-'

/-- Whether a character may occur in a text at all. -/
def isAllowed (c : Char) : Bool :=
  let n := c.toNat
  n = 0x9 || n = 0xa || n = 0xd || (0x20 ≤ n && n ≤ 0x7e) || n = 0x85 ||
    (0xa0 ≤ n && n ≤ 0xd7ff) || (0xe000 ≤ n && n ≤ 0xfffd) || (0x10000 ≤ n && n ≤ 0x10ffff)

/-- The mark that may stand before a text. -/
def byteOrderMark : Char := Char.ofNat 0xfeff

/-! ## 2. Cursors -/

/-- What is left of a text, and where it begins. -/
structure Cursor where
  rest : List Char
  index : Nat
  line : Nat
  column : Nat
deriving Inhabited

namespace Cursor

def ofText (text : List Char) : Cursor := ⟨text, 0, 0, 0⟩

def atEnd (c : Cursor) : Bool := c.rest.isEmpty

/-- The character that comes after so many others, if there is one. -/
def ahead (c : Cursor) (count : Nat) : Option Char := c.rest[count]?

/-- Whether a given character comes after so many others. -/
def hasAt (c : Cursor) (count : Nat) (char : Char) : Bool := c.ahead count == some char

def has (c : Cursor) (char : Char) : Bool := c.rest.head? == some char

def nextIs (c : Cursor) (p : Char → Bool) : Bool := c.rest.head?.any p

/-- Whether a blank, a break or the end comes after so many characters. -/
def isOpenAt (c : Cursor) (count : Nat) : Bool :=
  match c.ahead count with
  | some char => isBlank char || isBreak char
  | none => true

/-- Whether a break or the end comes next. -/
def atLineEnd (c : Cursor) : Bool :=
  match c.rest with
  | char :: _ => isBreak char
  | [] => true

/-- Past so many characters of one line. -/
def skip (c : Cursor) (count : Nat) : Cursor :=
  { c with
    rest := c.rest.drop count
    index := c.index + count
    column := c.column + count }

/-- The characters of a class that come next. -/
def run (c : Cursor) (p : Char → Bool) : List Char := c.rest.takeWhile p

/-- Past the characters of a class that come next. -/
def skipRun (c : Cursor) (p : Char → Bool) : Cursor := c.skip (c.run p).length

def skipBlanks (c : Cursor) : Cursor := c.skipRun isBlank

/-- Past all that comes before the end of the line. -/
def skipLine (c : Cursor) : Cursor := c.skipRun fun char => !isBreak char

/-- Past a line break, if one comes next, with what it is read as. -/
def readBreak (c : Cursor) : List Char × Cursor :=
  let next (rest : List Char) (count : Nat) : Cursor := ⟨rest, c.index + count, c.line + 1, 0⟩
  match c.rest with
  | '\r' :: '\n' :: rest => (['\n'], next rest 2)
  | char :: rest =>
    if char.toNat = 0x2028 ∨ char.toNat = 0x2029 then ([char], next rest 1)
    else if isBreak char then (['\n'], next rest 1)
    else ([], c)
  | [] => ([], c)

def skipBreak (c : Cursor) : Cursor := c.readBreak.2

/-- Whether a line begins here with three equal characters and nothing close behind them. -/
def hasIndicator (c : Cursor) (char : Char) : Bool :=
  c.column = 0 && c.hasAt 0 char && c.hasAt 1 char && c.hasAt 2 char && c.isOpenAt 3

/-- Whether a line begins here that separates documents. -/
def atDocumentMark (c : Cursor) : Bool := c.hasIndicator '-' || c.hasIndicator '.'

end Cursor

/-! ## Worked examples -/

example : (Cursor.ofText ['\r', '\n', 'a']).readBreak.1 = ['\n'] := by decide

example : (Cursor.ofText ['-', '-', '-']).atDocumentMark = true := by decide

end Teardown.Yaml
