/-
# Nodes of a YAML document

The events of a document are put together to a tree.  An alias stays in the tree as the number of
its anchor, and a table gives the node of each number; so the tree is finite even where a node has
an alias to itself.

A document may break off: a collection then lacks its end, and a value that did not come is
`missing`.  An alias to a name that no anchor before it has breaks the document off, too.

The tree grows from its first event to its last (`Growth`), with the collections that are still
open on a stack.  An event either adds a node to the innermost of them, or opens one, or closes
it.

* §1  nodes.
* §2  growth, by one event at a time.
* §3  trees, and what an alias stands for in them.
-/
import Teardown.Yaml.Event

namespace Teardown.Yaml

/-! ## 1. Nodes -/

/-- A node.  A document in which nothing is written is `void`. -/
inductive Node
  | alias (number : Nat)
  | scalar (tag : Option String) (value : String) (style : Style)
  | sequence (tag : Option String) (items : List Node) (isWhole : Bool)
  | mapping (tag : Option String) (entries : List (Node × Node)) (isWhole : Bool)
  | void
  | missing
deriving Inhabited

namespace Node

/-- Whether all of a node was read. -/
def isWhole : Node → Bool
  | .sequence _ _ isWhole => isWhole
  | .mapping _ _ isWhole => isWhole
  | .missing => false
  | _ => true

end Node

/-- A collection that is open.  What it holds comes latest first. -/
inductive Frame
  | sequence (place : Nat) (tag : Option String) (items : List Node)
  | mapping (place : Nat) (tag : Option String) (entries : List (Node × Node)) (key : Option Node)

namespace Frame

def place : Frame → Nat
  | .sequence place .. => place
  | .mapping place .. => place

def add (node : Node) : Frame → Frame
  | .sequence place tag items => .sequence place tag (node :: items)
  | .mapping place tag entries (some key) => .mapping place tag ((key, node) :: entries) none
  | .mapping place tag entries none => .mapping place tag entries (some node)

/-- The node of a collection; the value of a last key may be missing. -/
def node (isWhole : Bool) : Frame → Node
  | .sequence _ tag items => .sequence tag items.reverse isWhole
  | .mapping _ tag entries key =>
    let last := key.toList.map fun key => (key, Node.missing)
    .mapping tag (entries.reverse ++ last) isWhole

end Frame

/-! ## 2. Growth -/

/-- A tree under way: the open collections, the innermost first; the root, once it is closed; the
number of each name; the place of each number's node, the latest first; and the node of each place that
has an anchor. -/
structure Growth where
  frames : List Frame
  root : Option Node
  numbers : List (String × Nat)
  places : List (Nat × Nat)
  nodes : List (Nat × Node)

namespace Growth

def seed : Growth := ⟨[], none, [], [], []⟩

/-- A node comes to its collection, or is the root. -/
def add (g : Growth) (place : Nat) (node : Node) : Growth :=
  let isMarked := g.places.any fun mark => mark.2 = place
  let g := if isMarked then { g with nodes := (place, node) :: g.nodes } else g
  match g.frames with
  | [] => { g with root := some node }
  | frame :: frames => { g with frames := frame.add node :: frames }

def close (g : Growth) (isWhole : Bool) : Growth :=
  match g.frames with
  | [] => g
  | frame :: frames => { g with frames }.add frame.place (frame.node isWhole)

/-- A name is given to the node at a place.  Its number is how many names there are; a name that is
given again does not count twice. -/
def mark (g : Growth) (place : Nat) : Option String → Growth
  | none => g
  | some name =>
    let number := g.numbers.length
    { g with
      numbers := (name, number) :: g.numbers.filter fun entry => entry.1 ≠ name
      places := (number, place) :: g.places }

/-- What an event brings; nothing follows an alias to a name that was not given. -/
def grow (g : Growth) (place : Nat) : Event → Option Growth
  | .alias name => (g.numbers.lookup name).map fun number => g.add place (.alias number)
  | .scalar properties value style =>
    some ((g.mark place properties.anchor).add place (.scalar properties.tag value style))
  | .sequence properties =>
    let g := g.mark place properties.anchor
    some { g with frames := .sequence place properties.tag [] :: g.frames }
  | .mapping properties =>
    let g := g.mark place properties.anchor
    some { g with frames := .mapping place properties.tag [] none :: g.frames }
  | .close => some (g.close true)

/-- What the events from a place on bring, and whether none of them was refused. -/
def growAll (g : Growth) (place : Nat) : List Event → Growth × Bool
  | [] => (g, true)
  | event :: events =>
    match g.grow place event with
    | some g => g.growAll (place + 1) events
    | none => (g, false)

/-- All collections are closed where the document breaks off. -/
def closeAll (g : Growth) : Growth := g.frames.foldl (fun g _ => g.close false) g

end Growth

/-! ## 3. Trees -/

/-- A document: its root, the nodes of the aliases' numbers, whether it is whole, and whether anything
comes after it. -/
structure Tree where
  root : Node
  named : List (Nat × Node)
  isWhole : Bool
  hasMore : Bool
deriving Inhabited

namespace Tree

/-- The tree of a document's events. -/
def ofDocument (d : Document) : Tree :=
  let (g, isKnown) := Growth.seed.growAll 0 d.events
  let g := g.closeAll
  let isWhole := isKnown && d.isWhole
  { root := g.root.getD (if isWhole then .void else .missing)
    named := g.places.map fun mark => (mark.1, (g.nodes.lookup mark.2).getD .missing)
    isWhole
    hasMore := d.hasMore }

/-- The tree of a text. -/
def ofText (text : List Char) : Tree := ofDocument (.ofTokens (tokens text))

/-- The node that an alias stands for; any other node stands for itself. -/
def resolve (t : Tree) : Node → Node
  | .alias number => (t.named.lookup number).getD .missing
  | node => node

end Tree

end Teardown.Yaml
