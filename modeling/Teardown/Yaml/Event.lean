/-
# Events of a YAML document

The tokens of a text are read as the events of its first document: scalars, aliases, and the
beginnings and ends of collections.  What is still to come is kept as a list of goals, the next
one first, and each goal looks at the next token only.

A goal is met by a step (`stride`), which may give one event and puts other goals in the place of
its own.  So nesting needs no recursion: the end of a collection is a goal that waits behind those
of its parts.

A document that breaks off keeps its events so far.

* §1-2  events and goals.
* §3-4  the steps, for a node and for the parts of collections.
* §5  documents.  A text may hold several; whoever wants one of them has to know whether another
      one follows.
-/
import Teardown.Yaml.Token

namespace Teardown.Yaml

/-! ## 1. Events -/

/-- The name and the tag that may stand before a node. -/
structure Properties where
  anchor : Option String
  tag : Option String
deriving DecidableEq, Inhabited

/-- An event of a document. -/
inductive Event
  | alias (name : String)
  | scalar (properties : Properties) (value : String) (style : Style)
  | sequence (properties : Properties)
  | mapping (properties : Properties)
  | close
deriving DecidableEq

/-- A scalar of which nothing is written. -/
def Event.empty (properties : Properties) : Event := .scalar properties "" .plain

/-! ## 2. Goals -/

/-- What has to come next. -/
inductive Goal
  | content
  | finish
  | blockNode
  | blockNodeOrItems
  | flowNode
  | blockItem
  | looseItem
  | blockKey
  | blockValue
  | flowItem (isFirst : Bool)
  | pairKey
  | pairValue
  | pairEnd
  | flowKey (isFirst : Bool)
  | flowValue
  | flowNoValue
deriving DecidableEq

/-- The meanings of the tag handles. -/
abbrev Handles := List (String × String)

/-- What a step brings: an event perhaps, the tokens left, and the goals that take its place. -/
structure Stride where
  event : Option Event
  tokens : List Token
  goals : List Goal

namespace Stride

/-- An empty scalar, with goals after it. -/
def empty (tokens : List Token) (goals : List Goal) : Stride := ⟨some (.empty default), tokens, goals⟩

def on (tokens : List Token) (goals : List Goal) : Stride := ⟨none, tokens, goals⟩

def close (tokens : List Token) : Stride := ⟨some .close, tokens, []⟩

end Stride

/-! ## 3. Nodes -/

/-- The meaning of a tag, if its handle has one. -/
def resolveTag (handles : Handles) (handle suffix : String) : Option String :=
  if handle.isEmpty then some suffix else (handles.lookup handle).map (· ++ suffix)

/-- The properties at the beginning of a node, in either order, and the tokens after them. -/
def readProperties (handles : Handles) (tokens : List Token) :
    Option (Properties × List Token) :=
  match tokens with
  | .anchor name :: .tag handle suffix :: rest =>
    (resolveTag handles handle suffix).map fun tag => (⟨some name, some tag⟩, rest)
  | .anchor name :: rest => some (⟨some name, none⟩, rest)
  | .tag handle suffix :: .anchor name :: rest =>
    (resolveTag handles handle suffix).map fun tag => (⟨some name, some tag⟩, rest)
  | .tag handle suffix :: rest =>
    (resolveTag handles handle suffix).map fun tag => (⟨none, some tag⟩, rest)
  | rest => some (default, rest)

/-- A scalar without the tag that only says that it is one. -/
def scalarEvent (properties : Properties) (value : String) (style : Style) : Event :=
  let tag := if properties.tag = some "!" then none else properties.tag
  .scalar { properties with tag } value style

/-- A node.  Block collections may begin only where `block` says so, and items without a token for
their beginning only where `items` does. -/
def strideNode (handles : Handles) (block items : Bool) (tokens : List Token) : Option Stride :=
  match tokens with
  | .alias name :: rest => some ⟨some (.alias name), rest, []⟩
  | _ => do
    let (properties, tokens) ← readProperties handles tokens
    match tokens with
    | [] => none
    | .scalar value style :: rest => some ⟨some (scalarEvent properties value style), rest, []⟩
    | .flowSequence :: rest => some ⟨some (.sequence properties), rest, [.flowItem true]⟩
    | .flowMapping :: rest => some ⟨some (.mapping properties), rest, [.flowKey true]⟩
    | token :: rest =>
      if items ∧ token = .blockEntry then
        some ⟨some (.sequence properties), tokens, [.looseItem]⟩
      else if block ∧ token = .blockSequence then
        some ⟨some (.sequence properties), rest, [.blockItem]⟩
      else if block ∧ token = .blockMapping then
        some ⟨some (.mapping properties), rest, [.blockKey]⟩
      else if properties.anchor.isSome ∨ properties.tag.isSome then
        some ⟨some (.empty properties), tokens, []⟩
      else none

/-! ## 4. Parts of collections -/

/-- A node unless one of some tokens comes next, which leaves it empty; then more goals. -/
def nodeUnless (ends : List Token) (node : Goal) (tokens : List Token) (goals : List Goal) :
    Option Stride :=
  match tokens with
  | [] => none
  | token :: _ =>
    if ends.contains token then some (.empty tokens goals) else some (.on tokens (node :: goals))

/-- An item of a flow sequence, of which a comma was read if one is needed. -/
def strideItem (tokens : List Token) : Option Stride :=
  match tokens with
  | [] => none
  | .key :: rest => some ⟨some (.mapping default), rest, [.pairKey, .flowItem false]⟩
  | .flowSequenceEnd :: rest => some (.close rest)
  | tokens => some (.on tokens [.flowNode, .flowItem false])

/-- A key of a flow mapping, of which a comma was read if one is needed. -/
def strideKey (tokens : List Token) : Option Stride :=
  match tokens with
  | [] => none
  | .key :: rest =>
    nodeUnless [.value, .flowEntry, .flowMappingEnd] .flowNode rest [.flowValue]
  | .flowMappingEnd :: rest => some (.close rest)
  | tokens => some (.on tokens [.flowNode, .flowNoValue])

def stride (handles : Handles) (goal : Goal) (tokens : List Token) : Option Stride :=
  match goal, tokens with
  | _, [] => none
  | .content, token :: _ =>
    match token with
    | .directive _ | .documentStart | .documentEnd | .textEnd => some (.empty tokens [])
    | _ => some (.on tokens [.blockNode])
  | .finish, .documentEnd :: rest => some (.on rest [])
  | .finish, tokens => some (.on tokens [])
  | .blockNode, tokens => strideNode handles true false tokens
  | .blockNodeOrItems, tokens => strideNode handles true true tokens
  | .flowNode, tokens => strideNode handles false false tokens
  | .blockItem, .blockEntry :: rest =>
    nodeUnless [.blockEntry, .blockEnd] .blockNode rest [.blockItem]
  | .blockItem, .blockEnd :: rest => some (.close rest)
  | .blockItem, _ => none
  | .looseItem, .blockEntry :: rest =>
    nodeUnless [.blockEntry, .key, .value, .blockEnd] .blockNode rest [.looseItem]
  | .looseItem, tokens => some (.close tokens)
  | .blockKey, .key :: rest =>
    nodeUnless [.key, .value, .blockEnd] .blockNodeOrItems rest [.blockValue]
  | .blockKey, .blockEnd :: rest => some (.close rest)
  | .blockKey, _ => none
  | .blockValue, .value :: rest =>
    nodeUnless [.key, .value, .blockEnd] .blockNodeOrItems rest [.blockKey]
  | .blockValue, tokens => some (.empty tokens [.blockKey])
  | .flowItem true, tokens => strideItem tokens
  | .flowItem false, .flowEntry :: rest => strideItem rest
  | .flowItem false, .flowSequenceEnd :: rest => some (.close rest)
  | .flowItem false, _ => none
  | .pairKey, token :: rest =>
    if [Token.value, .flowEntry, .flowSequenceEnd].contains token then
      some (.empty rest [.pairValue])
    else some (.on tokens [.flowNode, .pairValue])
  | .pairValue, .value :: rest =>
    nodeUnless [.flowEntry, .flowSequenceEnd] .flowNode rest [.pairEnd]
  | .pairValue, tokens => some (.empty tokens [.pairEnd])
  | .pairEnd, tokens => some (.close tokens)
  | .flowKey true, tokens => strideKey tokens
  | .flowKey false, .flowEntry :: rest => strideKey rest
  | .flowKey false, .flowMappingEnd :: rest => some (.close rest)
  | .flowKey false, _ => none
  | .flowValue, .value :: rest =>
    nodeUnless [.flowEntry, .flowMappingEnd] .flowNode rest [.flowKey false]
  | .flowValue, tokens => some (.empty tokens [.flowKey false])
  | .flowNoValue, tokens => some (.empty tokens [.flowKey false])

/-! ## 5. Documents -/

/-- The events of a document, whether it is whole, and the tokens after it. -/
structure Document where
  events : List Event
  isWhole : Bool
  rest : List Token
deriving DecidableEq

/-- The handles that have a meaning without being given one. -/
def standardHandles : Handles := [("!", "!"), ("!!", "tag:yaml.org,2002:")]

/-- The handles after the directives of a document, each of which may be given once; the version has to
be one that is known. -/
def readDirectives (handles : Handles) (hasVersion : Bool) :
    List Token → Option (Handles × List Token)
  | .directive (.version major minor) :: rest =>
    if hasVersion ∨ major ≠ 1 ∨ (minor ≠ 1 ∧ minor ≠ 2) then none
    else readDirectives handles true rest
  | .directive (.tag handle beginning) :: rest =>
    if (handles.lookup handle).isSome then none
    else readDirectives ((handle, beginning) :: handles) hasVersion rest
  | rest => some (handles ++ standardHandles, rest)

/-- The tokens of what comes after a document, if anything does; what is malformed counts as
something. -/
def beyond? : List Token → Option (List Token)
  | .documentEnd :: rest => beyond? rest
  | [.textEnd] => none
  | tokens => some tokens

/-- Whether anything comes after a document. -/
def Document.hasMore (d : Document) : Bool := (beyond? d.rest).isSome

def eventsFrom (handles : Handles) (fuel : Nat) (goals : List Goal) (tokens : List Token)
    (read : List Event) : Document :=
  match fuel, goals with
  | 0, _ => ⟨read.reverse, false, []⟩
  | _, [] => ⟨read.reverse, true, tokens⟩
  | fuel + 1, goal :: goals =>
    match stride handles goal tokens with
    | none => ⟨read.reverse, false, []⟩
    | some s => eventsFrom handles fuel (s.goals ++ goals) s.tokens (s.event.toList ++ read)

/-- The first document of a text. -/
def Document.ofTokens (tokens : List Token) : Document :=
  let fuel := 8 * tokens.length + 8
  match tokens with
  | [] => ⟨[], false, []⟩
  | [.textEnd] => ⟨[], true, tokens⟩
  | .directive _ :: _ | .documentStart :: _ =>
    match readDirectives [] false tokens with
    | some (handles, .documentStart :: rest) =>
      eventsFrom handles fuel [.content, .finish] rest []
    | _ => ⟨[], false, []⟩
  | tokens => eventsFrom standardHandles fuel [.blockNode, .finish] tokens []

/-- Whether a document begins with a directive or a mark. -/
def isMarked : List Token → Bool
  | .directive _ :: _ | .documentStart :: _ => true
  | _ => false

/-- The documents of some tokens, so many at most.  Only the first may begin without a mark. -/
def documentsFrom (limit : Nat) (tokens : List Token) : List Document :=
  match limit with
  | 0 => []
  | limit + 1 =>
    let document := Document.ofTokens tokens
    match document.isWhole, beyond? document.rest with
    | true, some rest =>
      document :: if isMarked rest then documentsFrom limit rest else [⟨[], false, []⟩]
    | _, _ => [document]

/-- The documents of some tokens; after one that is not whole no other can be found. -/
def documents (tokens : List Token) : List Document := documentsFrom (tokens.length + 1) tokens

/-! ## Worked examples -/

example : (Document.ofTokens [.flowSequence, .scalar "a" .plain, .flowSequenceEnd, .textEnd]).events =
    [.sequence default, .scalar default "a" .plain, .close] := by decide +kernel

example : (Document.ofTokens [.flowSequence, .scalar "a" .plain]).isWhole = false := by
  decide +kernel

end Teardown.Yaml
