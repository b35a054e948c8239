/-
# Addresses

Which texts are addresses of a server or of something on a server, by the usual rules with a few
liberties: letters beyond ASCII may stand in a path, and so may quotes and braces.

A path may have a query, and it ends before a number sign.  What stands behind that sign is for
the reader of the answer and is not sent.

The name of a server is read in one pass.  A colon or a percent sign may turn out to belong to
something that stands before the name, a user or a password, so what has been seen so far is kept
(`Seen`) and forgotten at the sign that ends such a part.

* §1  paths, by the characters that may stand in them.
* §2  servers, and whole addresses: a path, a server, or a server with a scheme and perhaps a
      path.
-/

namespace Teardown.Address

/-! ## 1. Paths -/

/-- Whether a character may stand in a path. -/
def isPathChar (c : Char) : Bool :=
  let n := c.toNat
  n = 0x21 || (0x24 ≤ n && n ≤ 0x3b) || n = 0x3d || (0x40 ≤ n && n ≤ 0x5f) ||
    (0x61 ≤ n && n ≤ 0x7a) || n = 0x7c || 0x7e ≤ n || c = '"' || c = '\x7b' || c = '\x7d'

def isQueryChar (c : Char) : Bool :=
  let n := c.toNat
  n = 0x21 || (0x24 ≤ n && n ≤ 0x3b) || n = 0x3d || 0x3f ≤ n

/-- A path with its query, without what stands behind a number sign; nothing if a character in it may
not stand there. -/
def path? (text : List Char) : Option (List Char) :=
  let kept := text.takeWhile (· ≠ '#')
  let path := kept.takeWhile (· ≠ '?')
  let query := (kept.dropWhile (· ≠ '?')).drop 1
  if path.all isPathChar && query.all isQueryChar then some kept else none

/-! ## 2. Servers -/

def isSchemeChar (c : Char) : Bool := c.isAlphanum || c = '+' || c = '-' || c = '.'

/-- The scheme of an address and what stands behind it, if it has one. -/
def splitScheme? (text : List Char) : Option (List Char × List Char) :=
  match text.dropWhile isSchemeChar with
  | ':' :: '/' :: '/' :: rest => some (text.takeWhile isSchemeChar, rest)
  | _ => none

/-- Whether a character ends the name of a server. -/
def endsServer (c : Char) : Bool := c = '/' || c = '?' || c = '#'

def isServerChar (c : Char) : Bool := c.isAlphanum || "-._~:[]@!$&'()*+,;=%".toList.contains c

/-- What has been seen of the name of a server: colons and percent signs since the last sign that makes
what was before it something else than the name, and the brackets. -/
structure Seen where
  colons : Nat
  hasPercent : Bool
  isOpened : Bool
  isClosed : Bool
  endsWithAt : Bool

/-- What has been seen after one more character. -/
def Seen.next (seen : Seen) (c : Char) : Option Seen :=
  let seen := { seen with endsWithAt := c = '@' }
  if c = ':' then if 8 ≤ seen.colons then none else some { seen with colons := seen.colons + 1 }
  else if c = '[' then
    if seen.hasPercent || seen.isOpened then none else some { seen with isOpened := true }
  else if c = ']' then
    if !seen.isOpened || seen.isClosed then none
    else some { seen with isClosed := true, colons := 0, hasPercent := false }
  else if c = '@' then some { seen with colons := 0, hasPercent := false }
  else if c = '%' then some { seen with hasPercent := true }
  else if isServerChar c then some seen
  else none

/-- Whether a text is the name of a server, with what may stand around it. -/
def isServer (text : List Char) : Bool :=
  match text.foldlM Seen.next ⟨0, false, false, false, false⟩ with
  | some seen => seen.isOpened == seen.isClosed && seen.colons ≤ 1 && !seen.endsWithAt &&
      !seen.hasPercent
  | none => false

/-- Whether a text is an address: a path, a server, or a server with a scheme and perhaps a path. -/
def isAddress (text : List Char) : Bool :=
  match text with
  | [] => false
  | ['*'] => true
  | '/' :: _ => (path? text).isSome
  | _ =>
    match splitScheme? text with
    | none => !text.any endsServer && isServer text
    | some (_, rest) =>
      let server := rest.takeWhile fun c => !endsServer c
      !server.isEmpty && isServer server && (path? (rest.dropWhile fun c => !endsServer c)).isSome

/-! ## Worked examples -/

example : isAddress ['a', ':', '8', '0'] = true := by decide +kernel

example : isAddress ['a', ' ', 'b'] = false := by decide +kernel

example : path? ['/', 'a', '?', 'b', '#', 'c'] = some ['/', 'a', '?', 'b'] := by decide +kernel

end Teardown.Address
