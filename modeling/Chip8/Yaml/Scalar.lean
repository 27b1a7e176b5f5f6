import Chip8.Fault
import Chip8.Text.Digit
import Chip8.Yaml.Cursor

/-!
# Scalars as they are written

A scalar is written plain, between single or double quotes, or as a block of lines.
Here are the readers of these forms: each takes the place where the scalar starts and
gives its text and the place after it, or the fault of a text that is not well formed.

Line ends inside a scalar are folded, except in literal blocks: a single one becomes a
space, of several the first is dropped.

Only escapes between double quotes can ask for code points that are no characters.
-/

namespace Chip8.Yaml

set_option autoImplicit false

/-! ## Plain scalars -/

/-- The length of the run of characters from here on that a plain scalar takes in one go.
A colon ends it before a gap, and within flow collections also before their marks, which
end it themselves. -/
def plainRun (flow : Bool) : List Char → Nat
  | [] => 0
  | c :: rest =>
    let after := rest.head?.getD '\x00'
    if isGap c then 0
    else if c = ':' && (isGap after || (flow && [',', '[', ']', '\x7b', '\x7d'].contains after))
    then 0
    else if flow && [',', '?', '[', ']', '\x7b', '\x7d'].contains c then 0
    else plainRun flow rest + 1

/-- The blank lines after a line end, up to the first character of the next line that has
any; nothing if a document marker comes first. -/
def plainBreaks : Nat → Cursor → Option (List Char) × Cursor
  | 0, c => (some [], c)
  | fuel + 1, c =>
    if c.atSeparator then (none, c)
    else
      let c := c.skipSpaces
      if isBreak c.peek then
        let (lineEnd, c) := c.lineBreak
        let (more, c) := plainBreaks fuel c
        (more.map (lineEnd ++ ·), c)
      else (some [], c)

/-- The gap between two runs of a plain scalar: what it contributes to the text, the place
after it, and whether it contains a line end. -/
def plainGap (c : Cursor) : List Char × Cursor × Bool :=
  let (spaces, c) := c.span (· = ' ')
  if isBreak c.peek then
    let (lineEnd, c) := c.lineBreak
    match plainBreaks (c.rest.length + 1) c with
    | (none, c) => ([], c, true)
    | (some breaks, c) =>
      let fold :=
        if lineEnd ≠ ['\n'] then lineEnd else if breaks.isEmpty then [' '] else []
      (fold ++ breaks, c, true)
  else (spaces, c, false)

/-- Reads a plain scalar that lines have to be indented by `indent` to belong to.  `gap` is
what came between the text so far and this place.  The answer also says whether a new line
was begun after the last run. -/
def plainFrom (flow : Bool) (indent : Int) : Nat → List Char → Bool → Cursor →
    List Char × Bool × Cursor
  | 0, _, broken, c => ([], broken, c)
  | fuel + 1, gap, broken, c =>
    let length := if c.peek = '#' then 0 else plainRun flow c.rest
    if length = 0 then ([], broken, c)
    else
      let run := c.rest.take length
      let (next, c, lineBegun) := plainGap (c.forward length)
      if next.isEmpty || c.peek = '#' || (!flow && (c.column : Int) < indent) then
        (gap ++ run, lineBegun, c)
      else
        let (more, broken, c) := plainFrom flow indent fuel next lineBegun c
        (gap ++ run ++ more, broken, c)

/-! ## Quoted scalars -/

/-- The character that a single letter after a backslash stands for. -/
def escape? : Char → Option Char
  | '0' => some '\x00'
  | 'a' => some '\x07'
  | 'b' => some '\x08'
  | 't' => some '\t'
  | '\t' => some '\t'
  | 'n' => some '\n'
  | 'v' => some '\x0b'
  | 'f' => some '\x0c'
  | 'r' => some '\r'
  | 'e' => some '\x1b'
  | ' ' => some ' '
  | '\x22' => some '\x22'
  | '\\' => some '\\'
  | '/' => some '/'
  | 'N' => some '\x85'
  | '_' => some '\u00a0'
  | 'L' => some '\u2028'
  | 'P' => some '\u2029'
  | _ => none

/-- The number of digits after a letter that announces a code point. -/
def escapeLength? : Char → Option Nat
  | 'x' => some 2
  | 'u' => some 4
  | 'U' => some 8
  | _ => none

/-- The number written by hexadecimal digits of ASCII. -/
def hexNumber? (digits : List Char) : Option Nat :=
  digits.foldl
    (fun (n : Option Nat) c =>
      match n, (if c.toNat < 128 then Text.digit? 16 c else none) with
      | some n, some d => some (n * 16 + d)
      | _, _ => none)
    (some 0)

/-- The symbol of an escaped code point. -/
def escapedCode (code : Nat) : Except Fault Text.Symbol :=
  if code < 0x110000 then .ok (.ofCode code)
  else if code < 0x80000000 then .error .escapeBeyondCodes
  else .error .escapeBeyondWords

/-- The blank lines after a line end inside quotes; a document marker must not come. -/
def quotedBreaks : Nat → Cursor → Except Fault (List Char × Cursor)
  | 0, c => .ok ([], c)
  | fuel + 1, c =>
    if c.atSeparator then .error .malformedDocument
    else
      let c := c.skip fun ch => ch = ' ' || ch = '\t'
      if isBreak c.peek then
        let (lineEnd, c) := c.lineBreak
        (quotedBreaks fuel c).map fun (more, c) => (lineEnd ++ more, c)
      else .ok ([], c)

/-- One escape, from the backslash on. -/
def escaped (c : Cursor) : Except Fault (List Text.Symbol × Cursor) :=
  let c := c.next
  match escape? c.peek, escapeLength? c.peek with
  | some ch, _ => .ok ([.char ch], c.next)
  | none, some length =>
    let c := c.next
    let digits := c.rest.take length
    match (if digits.length < length then none else hexNumber? digits) with
    | some code => (escapedCode code).map fun symbol => ([symbol], c.forward length)
    | none => .error .malformedDocument
  | none, none =>
    if isBreak c.peek then
      (quotedBreaks (c.rest.length + 1) c.lineBreak.2).map fun (breaks, c) =>
        (Text.Symbol.ofChars breaks, c)
    else .error .malformedDocument

/-- Reads the rest of a quoted scalar, up to and with the closing quote. -/
def quotedFrom (double : Bool) : Nat → Cursor → Except Fault (List Text.Symbol × Cursor)
  | 0, _ => .error .malformedDocument
  | fuel + 1, c =>
    let quote := if double then '\x22' else '\x27'
    let continued (piece : List Text.Symbol) (c : Cursor) :
        Except Fault (List Text.Symbol × Cursor) :=
      (quotedFrom double fuel c).map fun (more, c) => (piece ++ more, c)
    match c.rest with
    | [] => .error c.endFault
    | ch :: _ =>
      if !double && ch = '\x27' && c.peekAt 1 = '\x27' then
        continued [.char '\x27'] (c.forward 2)
      else if ch = quote then .ok ([], c.next)
      else if double && ch = '\\' then
        match escaped c with
        | .ok (piece, c) => continued piece c
        | .error fault => .error fault
      else if ch = ' ' || ch = '\t' || isBreak ch then
        let (spaces, c) := c.span fun ch => ch = ' ' || ch = '\t'
        if c.rest.isEmpty then .error c.endFault
        else if isBreak c.peek then
          let (lineEnd, c) := c.lineBreak
          match quotedBreaks (c.rest.length + 1) c with
          | .error fault => .error fault
          | .ok (breaks, c) =>
            let fold :=
              if lineEnd ≠ ['\n'] then lineEnd else if breaks.isEmpty then [' '] else []
            continued (Text.Symbol.ofChars (fold ++ breaks)) c
        else continued (Text.Symbol.ofChars spaces) c
      else continued [.char ch] c.next

/-! ## Blocks of lines -/

/-- What becomes of the line ends at the end of a block. -/
inductive Chomping where
  | strip
  | clip
  | keep
  deriving DecidableEq, Repr

/-- The chomping that a character asks for. -/
def chomping? (c : Char) : Option Chomping :=
  if c = '+' then some .keep else if c = '-' then some .strip else none

/-- The indentation that a character asks for; zero is not allowed. -/
def increment? (c : Char) : Option (Option Nat) :=
  if '0' ≤ c ∧ c ≤ '9' then
    some (if c = '0' then none else some (c.toNat - '0'.toNat))
  else none

/-- The header of a block: chomping and indentation in either order. -/
def blockHeader (c : Cursor) : Except Fault (Chomping × Option Nat × Cursor) :=
  let finish (chomping : Chomping) (increment : Option Nat) (c : Cursor) :
      Except Fault (Chomping × Option Nat × Cursor) :=
    let after := c.skipComment
    if isSpaceOrEnd c.peek && isLineEnd after.peek then
      .ok (chomping, increment, after.lineBreak.2)
    else .error .malformedDocument
  match chomping? c.peek, increment? c.peek with
  | some chomping, _ =>
    let c := c.next
    match increment? c.peek with
    | some (some n) => finish chomping (some n) c.next
    | some none => .error .malformedDocument
    | none => finish chomping none c
  | none, some (some n) =>
    let c := c.next
    match chomping? c.peek with
    | some chomping => finish chomping (some n) c.next
    | none => finish .clip (some n) c
  | none, some none => .error .malformedDocument
  | none, none => finish .clip none c

/-- The blank lines at the start of a block, with the largest column that is reached in
them or at the first line with content. -/
def blockIndentation : Nat → Nat → Cursor → List Char × Nat × Cursor
  | 0, deepest, c => ([], deepest, c)
  | fuel + 1, deepest, c =>
    if c.peek = ' ' then
      let c := c.next
      blockIndentation fuel (max deepest c.column) c
    else if isBreak c.peek then
      let (lineEnd, c) := c.lineBreak
      let (more, deepest, c) := blockIndentation fuel deepest c
      (lineEnd ++ more, deepest, c)
    else ([], deepest, c)

/-- The place after the spaces of an indentation. -/
def skipIndent (indent : Nat) (c : Cursor) : Cursor :=
  c.forward ((c.rest.take (indent - c.column)).takeWhile (· = ' ')).length

/-- The blank lines before the next line of a block. -/
def blockBreaks (indent : Nat) : Nat → Cursor → List Char × Cursor
  | 0, c => ([], c)
  | fuel + 1, c =>
    let c := skipIndent indent c
    if isBreak c.peek then
      let (lineEnd, c) := c.lineBreak
      let (more, c) := blockBreaks indent fuel c
      (lineEnd ++ more, c)
    else ([], c)

/-- Reads the lines of a block, of which the first is here.  The answer has the line end
after the last line and the blank lines after that apart from the text. -/
def blockLines (folded : Bool) (indent : Nat) : Nat → List Char → Cursor →
    List Char × List Char × List Char × Cursor
  | 0, breaks, c => ([], [], breaks, c)
  | fuel + 1, breaks, c =>
    if c.column = indent ∧ c.peek ≠ '\x00' then
      let flush := !(c.peek = ' ' || c.peek = '\t')
      let (line, c) := c.span (!isLineEnd ·)
      let (lineEnd, c) := c.lineBreak
      let (nextBreaks, c) := blockBreaks indent (c.rest.length + 1) c
      if c.column = indent ∧ c.peek ≠ '\x00' then
        let join :=
          if folded && lineEnd == ['\n'] && flush && !(c.peek = ' ' || c.peek = '\t') then
            (if nextBreaks.isEmpty then [' '] else [])
          else lineEnd
        let (more, last, tail, c) := blockLines folded indent fuel nextBreaks c
        (breaks ++ line ++ join ++ more, last, tail, c)
      else (breaks ++ line, lineEnd, nextBreaks, c)
    else ([], [], breaks, c)

/-- Reads a block, from the character after its mark on, inside a collection with the given
indentation. -/
def blockScalar (folded : Bool) (parent : Int) (c : Cursor) : Except Fault (List Char × Cursor) :=
  match blockHeader c with
  | .error fault => .error fault
  | .ok (chomping, increment, c) =>
    let least := (max 1 (parent + 1)).toNat
    let (breaks, indent, c) :=
      match increment with
      | none =>
        let (breaks, deepest, c) := blockIndentation (c.rest.length + 1) 0 c
        (breaks, max least deepest, c)
      | some n =>
        let indent := least + n - 1
        let (breaks, c) := blockBreaks indent (c.rest.length + 1) c
        (breaks, indent, c)
    let (text, lineEnd, tail, c) := blockLines folded indent (c.rest.length + 1) breaks c
    match chomping with
    | .strip => .ok (text, c)
    | .clip => .ok (text ++ lineEnd, c)
    | .keep => .ok (text ++ lineEnd ++ tail, c)

end Chip8.Yaml
