/-
# Tokens of YAML

A text is cut into tokens.  What makes this more than cutting is that a mapping key is recognised
only when the colon after it is seen: a place where a key may begin is remembered, and the tokens
that announce a key and the mapping around it are put in there later.  Indentation is turned into
tokens, too: the columns of the open block collections are kept on a stack.

Where the text is malformed, the tokens before the place are kept, as far as it is settled that no
key token comes before them.  Only the tokens of a well-formed text end with `Token.textEnd`.

* §1  tokens.
* §2  the state of a scan.
* §3  possible keys: there is at most one for each open flow collection and one for the block
      around them, and it goes stale at the end of its line.
* §4  indentation, as blocks that open and close.
* §5  one reader for each kind of token.
* §6  whole texts.
-/
import Teardown.Yaml.Lexeme

namespace Teardown.Yaml

/-! ## 1. Tokens -/

/-- How a scalar is written, as far as it matters for what it means. -/
inductive Style
  | plain
  | literal
  | other
deriving DecidableEq, Inhabited

/-- A token. -/
inductive Token
  | directive (directive : Directive)
  | documentStart
  | documentEnd
  | blockSequence
  | blockMapping
  | blockEnd
  | flowSequence
  | flowSequenceEnd
  | flowMapping
  | flowMappingEnd
  | blockEntry
  | flowEntry
  | key
  | value
  | alias (name : String)
  | anchor (name : String)
  | tag (handle suffix : String)
  | scalar (value : String) (style : Style)
  | textEnd
deriving DecidableEq

/-! ## 2. Scanning state -/

/-- A place where a mapping key may have begun: its token's number, and whether a key is the only
thing that can stand there. -/
structure PossibleKey where
  number : Nat
  required : Bool
  index : Nat
  line : Nat
  column : Nat

/-- Whether a key can no longer end here: it has to fit one line and 1024 characters. -/
def PossibleKey.isStale (key : PossibleKey) (c : Cursor) : Bool :=
  key.line < c.line || key.index + 1024 < c.index

/-- A scan under way.  The tokens come latest first; `keys` has a place for every open flow collection
and one for the block around them, the innermost first. -/
structure Scan where
  cursor : Cursor
  tokens : List Token
  count : Nat
  indent : Int
  indents : List Int
  keyAllowed : Bool
  keys : List (Option PossibleKey)

namespace Scan

/-- The scan of a text that has not begun. -/
def ofText (text : List Char) : Scan := ⟨.ofText text, [], 0, -1, [], true, [none]⟩

def inFlow (s : Scan) : Bool := 1 < s.keys.length

def add (s : Scan) (token : Token) : Scan :=
  { s with tokens := token :: s.tokens, count := s.count + 1 }

/-- The scan with a token put in before the token of a number. -/
def insert (s : Scan) (number : Nat) (token : Token) : Scan :=
  let later := s.count - number
  { s with
    tokens := s.tokens.take later ++ token :: s.tokens.drop later
    count := s.count + 1 }

def skip (s : Scan) (count : Nat) : Scan := { s with cursor := s.cursor.skip count }

/-! ## 3. Possible keys -/

/-- A possible key, unless it is stale; one that is required must not be. -/
def refreshKey (c : Cursor) : Option PossibleKey → Option (Option PossibleKey)
  | none => some none
  | some key =>
    if !key.isStale c then some (some key) else if key.required then none else some none

/-- The scan without stale keys. -/
def refreshKeys (s : Scan) : Option Scan :=
  (s.keys.mapM (refreshKey s.cursor)).map fun keys => { s with keys }

/-- The scan with the innermost possible key given up. -/
def dropKey (s : Scan) : Option Scan :=
  match s.keys with
  | some key :: keys => if key.required then none else some { s with keys := none :: keys }
  | _ => some s

/-- The scan with a possible key that begins here, if one may begin here. -/
def saveKey (s : Scan) : Option Scan :=
  if !s.keyAllowed then some s
  else do
    let s ← s.dropKey
    let key : PossibleKey :=
      { number := s.count
        required := !s.inFlow && decide (s.indent = s.cursor.column)
        index := s.cursor.index
        line := s.cursor.line
        column := s.cursor.column }
    some { s with keys := some key :: s.keys.drop 1 }

/-- How many tokens are settled: those before every possible key. -/
def settled (s : Scan) : Nat :=
  s.keys.foldl (fun count key =>
    match key with
    | some key => min count key.number
    | none => count) s.count

/-! ## 4. Indentation -/

/-- The scan with a block collection opened at a column, if that is further in: its token comes at the
end, or before the token of a number. -/
def openBlock (s : Scan) (column : Nat) (number : Option Nat) (token : Token) : Scan :=
  if s.inFlow ∨ (column : Int) ≤ s.indent then s
  else
    let s := { s with indents := s.indent :: s.indents, indent := column }
    match number with
    | some number => s.insert number token
    | none => s.add token

/-- The scan with all block collections closed that are further in than a column. -/
def closeBlocks (s : Scan) (column : Int) : Scan :=
  if s.inFlow then s
  else
    let closed := (s.indent :: s.indents).takeWhile fun indent => decide (column < indent)
    let left := (s.indent :: s.indents).drop closed.length
    let s := closed.foldl (fun s _ => s.add .blockEnd) s
    { s with indent := left.headD (-1), indents := left.drop 1 }

/-! ## 5. Single tokens -/

/-- The scan past blanks, comments and line breaks. -/
def toNext (fuel : Nat) (s : Scan) : Scan :=
  match fuel with
  | 0 => s
  | fuel + 1 =>
    let c := s.cursor
    let c := if c.index = 0 ∧ c.has byteOrderMark then c.skip 1 else c
    let tabs := s.inFlow || !s.keyAllowed
    let c := c.skipRun fun char => char = ' ' || (tabs && char = '\t')
    let c := if c.has '#' then c.skipLine else c
    if c.nextIs isBreak then
      toNext fuel { s with cursor := c.skipBreak, keyAllowed := s.keyAllowed || !s.inFlow }
    else { s with cursor := c }

/-- The scan outside of all blocks, before a mark that ends them. -/
def outside (s : Scan) : Option Scan :=
  (s.closeBlocks (-1)).dropKey.map fun s => { s with keyAllowed := false }

def fetchDirective (s : Scan) : Option Scan := do
  let s ← s.outside
  let (directive, cursor) ← readDirective s.cursor
  some ({ s with cursor }.add (.directive directive))

def fetchDocumentMark (s : Scan) (token : Token) : Option Scan :=
  s.outside.map fun s => (s.skip 3).add token

def fetchFlowStart (s : Scan) (token : Token) : Option Scan :=
  s.saveKey.map fun s =>
    ({ s with keys := none :: s.keys, keyAllowed := true }.skip 1).add token

def fetchFlowEnd (s : Scan) (token : Token) : Option Scan :=
  s.dropKey.map fun s =>
    let keys := if s.inFlow then s.keys.drop 1 else s.keys
    ({ s with keys, keyAllowed := false }.skip 1).add token

def fetchFlowEntry (s : Scan) : Option Scan :=
  s.dropKey.map fun s => ({ s with keyAllowed := true }.skip 1).add .flowEntry

def fetchBlockEntry (s : Scan) : Option Scan :=
  if !s.inFlow ∧ !s.keyAllowed then none
  else
    (s.openBlock s.cursor.column none .blockSequence).dropKey.map fun s =>
      ({ s with keyAllowed := true }.skip 1).add .blockEntry

def fetchKey (s : Scan) : Option Scan :=
  if !s.inFlow ∧ !s.keyAllowed then none
  else
    (s.openBlock s.cursor.column none .blockMapping).dropKey.map fun s =>
      ({ s with keyAllowed := !s.inFlow }.skip 1).add .key

/-- The sign of a value, which settles that the possible key is one. -/
def fetchValue (s : Scan) : Option Scan :=
  match s.keys with
  | some key :: keys =>
    let s := (s.insert key.number .key).openBlock key.column (some key.number) .blockMapping
    some (({ s with keys := none :: keys, keyAllowed := false }.skip 1).add .value)
  | _ =>
    if !s.inFlow ∧ !s.keyAllowed then none
    else
      let s := s.openBlock s.cursor.column none .blockMapping
      some (({ s with keyAllowed := !s.inFlow }.skip 1).add .value)

/-- A word that may begin a key: an anchor, an alias, a tag or a quoted scalar. -/
def fetchWord {α : Type} (s : Scan) (read : Cursor → Option (α × Cursor)) (token : α → Token) :
    Option Scan := do
  let s ← s.saveKey
  let (value, cursor) ← read s.cursor
  some ({ s with cursor, keyAllowed := false }.add (token value))

def fetchBlockScalar (s : Scan) (isLiteral : Bool) : Option Scan := do
  let s ← s.dropKey
  let (value, cursor) ← readBlock isLiteral s.indent s.cursor
  some ({ s with cursor, keyAllowed := true }.add
    (.scalar value (if isLiteral then .literal else .other)))

def fetchPlain (s : Scan) : Option Scan := do
  let s ← s.saveKey
  let (value, isBroken, cursor) ← readPlain s.inFlow (s.indent + 1).toNat s.cursor
  some ({ s with cursor, keyAllowed := isBroken }.add (.scalar value .plain))

/-- Whether a plain scalar may begin here. -/
def beginsPlain (s : Scan) : Bool :=
  let c := s.cursor
  c.nextIs fun char =>
    (!c.isOpenAt 0 && !("-?:,[]\x7b\x7d#&*!|>'\"%@`".toList.contains char)) ||
      (char = '-' && !(c.ahead 1).any isBlank) ||
      (!s.inFlow && (char = '?' || char = ':') && !c.isOpenAt 1)

/-- The next token, given its first character. -/
def fetchAt (s : Scan) (char : Char) : Option Scan :=
  let c := s.cursor
  if c.column = 0 ∧ char = '%' then s.fetchDirective
  else if c.hasIndicator '-' then s.fetchDocumentMark .documentStart
  else if c.hasIndicator '.' then s.fetchDocumentMark .documentEnd
  else if char = '[' then s.fetchFlowStart .flowSequence
  else if char = '\x7b' then s.fetchFlowStart .flowMapping
  else if char = ']' then s.fetchFlowEnd .flowSequenceEnd
  else if char = '\x7d' then s.fetchFlowEnd .flowMappingEnd
  else if char = ',' then s.fetchFlowEntry
  else if char = '-' ∧ c.isOpenAt 1 then s.fetchBlockEntry
  else if char = '?' ∧ (s.inFlow ∨ c.isOpenAt 1) then s.fetchKey
  else if char = ':' ∧ (s.inFlow ∨ c.isOpenAt 1) then s.fetchValue
  else if char = '*' then s.fetchWord readAnchor .alias
  else if char = '&' then s.fetchWord readAnchor .anchor
  else if char = '!' then s.fetchWord (readTag s.inFlow) fun (handle, suffix) => .tag handle suffix
  else if char = '|' ∧ !s.inFlow then s.fetchBlockScalar true
  else if char = '>' ∧ !s.inFlow then s.fetchBlockScalar false
  else if char = '\'' then s.fetchWord (readQuoted true) fun value => .scalar value .other
  else if char = '"' then s.fetchWord (readQuoted false) fun value => .scalar value .other
  else if s.beginsPlain then s.fetchPlain
  else none

/-- The scan with its next tokens, and whether the text is at its end. -/
def fetch (s : Scan) : Option (Scan × Bool) := do
  let s ← (s.toNext (s.cursor.rest.length + 1)).refreshKeys
  let s := s.closeBlocks s.cursor.column
  match s.cursor.rest with
  | [] => s.outside.map fun s => (s, true)
  | char :: _ => (s.fetchAt char).map fun s => (s, false)

/-! ## 6. Whole texts -/

def firstTokens (s : Scan) (count : Nat) : List Token := s.tokens.reverse.take count

/-- The tokens of a text from a scan on. -/
def tokensFrom (fuel : Nat) (settledBefore : Nat) (s : Scan) : List Token :=
  match fuel with
  | 0 => s.firstTokens settledBefore
  | fuel + 1 =>
    match s.refreshKeys with
    | none => s.firstTokens settledBefore
    | some s =>
      match s.fetch with
      | none => s.firstTokens s.settled
      | some (s', true) => s'.tokens.reverse ++ [.textEnd]
      | some (s', false) => tokensFrom fuel s.settled s'

end Scan

/-- The tokens of a text.  A text with characters that may not occur at all has none. -/
def tokens (text : List Char) : List Token :=
  let text := if text.head? = some byteOrderMark then text.drop 1 else text
  if text.all isAllowed then Scan.tokensFrom (text.length + 2) 0 (Scan.ofText text) else []

/-! ## Worked examples -/

example : tokens ['[', ']'] = [.flowSequence, .flowSequenceEnd, .textEnd] := by cbv

end Teardown.Yaml
