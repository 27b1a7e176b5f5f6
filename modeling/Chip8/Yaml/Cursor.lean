import Chip8.Fault

/-!
# A place in a text

The characters that are still to come, with the place of the first of them: how many
characters, and how many lines, came before it, and its column in the line.  The mark of
byte order takes no column.

Past the end the text is read as null characters, which no text contains.  A text can be cut:
then a fault stands at its end, and what comes after it cannot be known.
-/

namespace Chip8.Yaml

set_option autoImplicit false

/-- The rest of a text and its place. -/
structure Cursor where
  rest : List Char
  index : Nat
  line : Nat
  column : Nat
  /-- The fault at the end of a text that is cut. -/
  cut : Option Fault
  deriving DecidableEq, Repr

/-- Whether a character ends a line.  A carriage return before a line feed ends it
together with that. -/
def isBreak (c : Char) : Bool :=
  c = '\n' || c = '\r' || c = '\x85' || c = '\u2028' || c = '\u2029'

/-- Whether a character ends a line or the text. -/
def isLineEnd (c : Char) : Bool := c = '\x00' || isBreak c

/-- Whether a character is a space or ends a line or the text. -/
def isSpaceOrEnd (c : Char) : Bool := c = ' ' || isLineEnd c

/-- Whether a character is a space or tabulator or ends a line or the text. -/
def isGap (c : Char) : Bool := c = '\t' || isSpaceOrEnd c

/-- Whether a character may stand in the name of an anchor, tag handle or directive. -/
def isNameChar (c : Char) : Bool := c.isAlphanum || c = '-' || c = '_'

namespace Cursor

/-- The start of a text. -/
def ofText (text : List Char) (cut : Option Fault) : Cursor := ⟨text, 0, 0, 0, cut⟩

/-- What is wrong if the text ends where it must not end. -/
def endFault (c : Cursor) : Fault := c.cut.getD .malformedDocument

/-- The character `k` places on. -/
def peekAt (c : Cursor) (k : Nat) : Char := c.rest[k]?.getD '\x00'

/-- The next character. -/
def peek (c : Cursor) : Char := c.peekAt 0

/-- The place one character on. -/
def next (c : Cursor) : Cursor :=
  match c.rest with
  | [] => c
  | ch :: rest =>
    if isBreak ch && !(ch = '\r' && rest.head? == some '\n') then
      { c with rest := rest, index := c.index + 1, line := c.line + 1, column := 0 }
    else
      { c with
        rest := rest
        index := c.index + 1
        column := if ch = '\uFEFF' then c.column else c.column + 1 }

/-- The place a number of characters on. -/
def forward (c : Cursor) : Nat → Cursor
  | 0 => c
  | n + 1 => c.next.forward n

/-- The characters from here on that have a property, and the place after them. -/
def span (c : Cursor) (property : Char → Bool) : List Char × Cursor :=
  let taken := c.rest.takeWhile property
  (taken, c.forward taken.length)

/-- The place after the characters that have a property. -/
def skip (c : Cursor) (property : Char → Bool) : Cursor := (c.span property).2

/-- The place after the spaces. -/
def skipSpaces (c : Cursor) : Cursor := c.skip (· = ' ')

/-- The place at the end of the line. -/
def skipLine (c : Cursor) : Cursor := c.skip (!isLineEnd ·)

/-- The place after spaces and a comment. -/
def skipComment (c : Cursor) : Cursor :=
  let c := c.skipSpaces
  if c.peek = '#' then c.skipLine else c

/-- The line end here, if there is one, and the place after it.  The usual line ends all
read as a line feed. -/
def lineBreak (c : Cursor) : List Char × Cursor :=
  if c.peek = '\r' ∧ c.peekAt 1 = '\n' then (['\n'], c.forward 2)
  else if c.peek = '\n' ∨ c.peek = '\r' ∨ c.peek = '\x85' then (['\n'], c.forward 1)
  else if c.peek = '\u2028' ∨ c.peek = '\u2029' then ([c.peek], c.forward 1)
  else ([], c)

/-- Whether a document marker made of three equal characters stands here. -/
def atMarker (c : Cursor) (mark : Char) : Bool :=
  c.rest.take 3 == [mark, mark, mark] && isGap (c.peekAt 3)

/-- Whether a document marker stands here. -/
def atSeparator (c : Cursor) : Bool := c.atMarker '-' || c.atMarker '.'

end Cursor

end Chip8.Yaml
