import Chip8.Text.Numeral
import Chip8.Yaml.Scalar
import Chip8.Yaml.Token

/-!
# Anchors, tags and directives as they are written

The readers of what may stand before a node, and of the lines that may stand before a
document.  Each takes the place of the mark and gives a token and the place after it, or
nothing if the text is not well formed.  A version can be refused for its length as well, so
the reader of directives says why it fails.
-/

namespace Chip8.Yaml

set_option autoImplicit false

/-- Whether a character may follow a name directly. -/
def endsName (c : Char) : Bool :=
  isGap c || ['?', ':', ',', ']', '\x7d', '%', '@', '\x60'].contains c

/-- A name after a mark of one character. -/
def nameAfterMark (c : Cursor) : Option (String × Cursor) :=
  let (name, c) := c.next.span isNameChar
  if name.isEmpty || !endsName c.peek then none else some (String.ofList name, c)

/-! ## Tags -/

/-- Whether a character may stand in a tag as itself. -/
def isTagChar (c : Char) : Bool :=
  isNameChar c ||
    [';', '/', '?', ':', '@', '&', '=', '+', '$', ',', '.', '!', '~', '*', '\x27', '(', ')', '[',
      ']'].contains c

/-- Bytes written as percent signs with two digits each, one or more. -/
def percentBytes : Nat → Cursor → Option (List UInt8 × Cursor)
  | 0, c => some ([], c)
  | fuel + 1, c =>
    if c.peek = '%' then
      let c := c.next
      match (if 2 ≤ c.rest.length then hexNumber? (c.rest.take 2) else none) with
      | some code =>
        (percentBytes fuel (c.forward 2)).map fun (more, c) => (UInt8.ofNat code :: more, c)
      | none => none
    else some ([], c)

/-- The text of a tag up to the first character that cannot belong to it. -/
def tagText : Nat → Cursor → Option (List Char × Cursor)
  | 0, c => some ([], c)
  | fuel + 1, c =>
    if c.peek = '%' then
      match percentBytes (c.rest.length + 1) c with
      | some (bytes, c) =>
        match String.fromUTF8? ⟨bytes.toArray⟩ with
        | some piece => (tagText fuel c).map fun (more, c) => (piece.toList ++ more, c)
        | none => none
      | none => none
    else if isTagChar c.peek then
      (tagText fuel c.next).map fun (more, after) => (c.peek :: more, after)
    else some ([], c)

/-- The text of a tag, which is not empty. -/
def tagSuffix (c : Cursor) : Option (String × Cursor) :=
  match tagText (c.rest.length + 1) c with
  | some (text, c') => if c'.index = c.index then none else some (String.ofList text, c')
  | none => none

/-- A tag handle: an exclamation mark, or a name between two. -/
def tagHandle (c : Cursor) : Option (String × Cursor) :=
  if c.peek ≠ '!' then none
  else if c.peekAt 1 = ' ' then some ("!", c.next)
  else
    let (name, after) := c.next.span isNameChar
    if after.peek = '!' then some (String.ofList ('!' :: name ++ ['!']), after.next) else none

/-- Whether a tag here starts with a handle of two exclamation marks. -/
def hasHandle (c : Cursor) : Bool :=
  ((c.next.span (!isSpaceOrEnd ·)).1).contains '!'

/-- A tag, from its mark on. -/
def tagToken (c : Cursor) : Option (Token × Cursor) :=
  let read : Option (Token × Cursor) :=
    if c.peekAt 1 = '<' then
      match tagSuffix (c.forward 2) with
      | some (suffix, c) => if c.peek = '>' then some (.tag none suffix, c.next) else none
      | none => none
    else if isGap (c.peekAt 1) then some (.tag none "!", c.next)
    else
      match (if hasHandle c then tagHandle c else some ("!", c.next)) with
      | some (handle, c) =>
        (tagSuffix c).map fun (suffix, c) => (.tag (some handle) suffix, c)
      | none => none
  match read with
  | some (token, c) => if isSpaceOrEnd c.peek then some (token, c) else none
  | none => none

/-! ## Directives -/

/-- What is there, or the fault of a text that is not well formed. -/
def wellFormed {α : Type} : Option α → Except Fault α
  | some a => .ok a
  | none => .error .malformedDocument

/-- A number of a version, which has no more digits than a number may have. -/
def versionNumber (c : Cursor) : Except Fault (Nat × Cursor) :=
  let (digits, c) := c.span Char.isDigit
  if digits.isEmpty then .error .malformedDocument
  else if Text.digitLimit < digits.length then
    .error (.integerTooLong Text.digitLimit digits.length)
  else .ok (digits.foldl (fun n d => n * 10 + (d.toNat - '0'.toNat)) 0, c)

/-- The two numbers of a version. -/
def versionValue (c : Cursor) : Except Fault (Directive × Cursor) := do
  let (major, c) ← versionNumber c.skipSpaces
  let c ← wellFormed (if c.peek = '.' then some c.next else none)
  let (minor, c) ← versionNumber c
  wellFormed (if isSpaceOrEnd c.peek then some (.version major minor, c) else none)

/-- A tag handle and what it stands for. -/
def tagHandleValue (c : Cursor) : Option (Directive × Cursor) :=
  match tagHandle c.skipSpaces with
  | some (handle, c) =>
    if c.peek = ' ' then
      match tagSuffix c.skipSpaces with
      | some (lead, c) => if isSpaceOrEnd c.peek then some (.tagHandle handle lead, c) else none
      | none => none
    else none
  | none => none

/-- A directive, from its mark to the end of its line. -/
def directiveToken (c : Cursor) : Except Fault (Token × Cursor) := do
  let (name, c) := c.next.span isNameChar
  if name.isEmpty || !isSpaceOrEnd c.peek then .error .malformedDocument
  else
    let (directive, c) ←
      if name = "YAML".toList then versionValue c
      else if name = "TAG".toList then wellFormed (tagHandleValue c)
      else .ok (.other, c.skipLine)
    let c := c.skipComment
    wellFormed (if isLineEnd c.peek then some (.directive directive, c.lineBreak.2) else none)

end Chip8.Yaml
