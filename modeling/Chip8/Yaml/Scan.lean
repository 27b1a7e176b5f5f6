import Chip8.Yaml.Property

/-!
# From text to tokens

The text is taken apart token by token.  Two things make this more than cutting.

Block collections are told by indentation.  The columns of the open ones are kept, and a
token for the end of a collection is put out for each one that the present column leaves.

A key of a mapping may have no mark of its own; that it was a key is seen only when the
colon after it comes.  Therefore every place where a key may have started is remembered,
one for each level of flow collections, and the token that marks the key is put in there
afterwards.  A key has to end on its line and within 1024 characters, and one at the
indentation of a block mapping has to be a key.

A token is settled once no key can have started at it or before it.  If the text is not well
formed somewhere, the tokens that were settled before that place can still be read.
-/

namespace Chip8.Yaml

set_option autoImplicit false

/-- A place where a key may have started. -/
structure KeyPlace where
  /-- How many tokens came before it. -/
  token : Nat
  /-- Whether nothing but a key can stand there. -/
  required : Bool
  index : Nat
  line : Nat
  column : Nat
  deriving DecidableEq, Repr

/-- How far the text has been taken apart. -/
structure Scan where
  cursor : Cursor
  tokens : Array Token
  /-- How many flow collections are open. -/
  flowLevel : Nat
  /-- The column of the innermost block collection, or -1 outside all. -/
  indent : Int
  /-- The columns of the collections around it. -/
  indents : List Int
  /-- Whether a key without a mark may start here. -/
  keyAllowed : Bool
  /-- The places where keys may have started, by level. -/
  keys : List (Nat × KeyPlace)

namespace Scan

/-- The longest key without a mark. -/
def keyLimit : Nat := 1024

/-- Nothing has been taken apart. -/
def start (text : List Char) (cut : Option Fault) : Scan :=
  ⟨.ofText text cut, #[], 0, -1, [], true, []⟩

/-- Adds a token. -/
def push (s : Scan) (token : Token) : Scan := { s with tokens := s.tokens.push token }

/-- Adds a token of a number of characters. -/
def pushMark (s : Scan) (token : Token) (length : Nat) : Scan :=
  { s with tokens := s.tokens.push token, cursor := s.cursor.forward length }

/-- Whether the scan is inside a flow collection. -/
def inFlow (s : Scan) : Bool := 0 < s.flowLevel

/-! ## Places of keys -/

/-- Forgets the place of a key on the present level, which must not be required. -/
def dropKey (s : Scan) : Except Fault Scan :=
  if s.keys.any fun (level, key) => level == s.flowLevel && key.required then
    .error .malformedDocument
  else .ok { s with keys := s.keys.filter fun (level, _) => level != s.flowLevel }

/-- Remembers that a key may start here. -/
def saveKey (s : Scan) : Except Fault Scan :=
  if s.keyAllowed then
    let key : KeyPlace :=
      ⟨s.tokens.size, !s.inFlow && s.indent == s.cursor.column, s.cursor.index, s.cursor.line,
        s.cursor.column⟩
    s.dropKey.map fun s => { s with keys := (s.flowLevel, key) :: s.keys }
  else .ok s

/-- Whether a place is too far away for its key to end here. -/
def isStale (s : Scan) (key : KeyPlace) : Bool :=
  key.line != s.cursor.line || key.index + keyLimit < s.cursor.index

/-- Forgets the places that are too far away, which must not be required. -/
def dropStaleKeys (s : Scan) : Except Fault Scan :=
  if s.keys.any fun (_, key) => s.isStale key && key.required then .error .malformedDocument
  else .ok { s with keys := s.keys.filter fun (_, key) => !s.isStale key }

/-- The tokens that are settled. -/
def settled (s : Scan) : List Token :=
  let keys := s.keys.filter fun (_, key) => !s.isStale key
  s.tokens.toList.take (keys.foldl (fun n (_, key) => min n key.token) s.tokens.size)

/-! ## Indentation -/

/-- Ends the collections whose column is beyond the given one. -/
def unwindTo (column : Int) : List Int → Scan → Scan
  | [], s => s
  | outer :: rest, s =>
    if column < s.indent then
      unwindTo column rest { s.push .blockEnd with indent := outer, indents := rest }
    else s

/-- Ends the block collections that the given column leaves. -/
def unwind (s : Scan) (column : Int) : Scan :=
  if s.inFlow then s else unwindTo column s.indents s

/-- Begins a block collection at a column beyond the present ones.  `place` is where its
token goes. -/
def openBlock (s : Scan) (column : Nat) (token : Token) (place : Nat) : Scan :=
  if s.indent < column then
    { s with
      indent := column
      indents := s.indent :: s.indents
      tokens := s.tokens.insertIdxIfInBounds place token }
  else s

/-! ## Tokens -/

/-- The place of the next token, after spaces, comments and line ends.  Outside flow
collections a key may start on every new line. -/
def toNextToken : Nat → Scan → Scan
  | 0, s => s
  | fuel + 1, s =>
    let c := s.cursor.skipComment
    if isBreak c.peek then
      toNextToken fuel { s with cursor := c.lineBreak.2, keyAllowed := s.keyAllowed || !s.inFlow }
    else { s with cursor := c }

/-- The mark of byte order at the start of a text is passed over. -/
def skipByteOrder (s : Scan) : Scan :=
  if s.cursor.index = 0 ∧ s.cursor.peek = '\uFEFF' then { s with cursor := s.cursor.next } else s

/-- A mark that stands by itself and ends all block collections. -/
def documentMark (s : Scan) (token : Token) : Except Fault Scan :=
  (s.unwind (-1)).dropKey.map fun s => { s.pushMark token 3 with keyAllowed := false }

/-- The end of the text. -/
def finish (s : Scan) : Except Fault Scan :=
  (s.unwind (-1)).dropKey.map fun s => { s.push .streamEnd with keyAllowed := false, keys := [] }

/-- A directive. -/
def directive (s : Scan) : Except Fault Scan := do
  let s ← (s.unwind (-1)).dropKey
  let (token, c) ← directiveToken s.cursor
  .ok { s.push token with cursor := c, keyAllowed := false }

/-- The mark that opens a flow collection. -/
def openFlow (s : Scan) (token : Token) : Except Fault Scan :=
  s.saveKey.map fun s =>
    { s.pushMark token 1 with flowLevel := s.flowLevel + 1, keyAllowed := true }

/-- The mark that closes a flow collection. -/
def closeFlow (s : Scan) (token : Token) : Except Fault Scan :=
  s.dropKey.map fun s =>
    { s.pushMark token 1 with flowLevel := s.flowLevel - 1, keyAllowed := false }

/-- The comma between the entries of a flow collection. -/
def flowEntry (s : Scan) : Except Fault Scan :=
  s.dropKey.map fun s => { s.pushMark .flowEntry 1 with keyAllowed := true }

/-- A mark that may begin a block collection where keys are allowed. -/
def blockMark (s : Scan) (opening token : Token) (keyAllowed : Bool) : Except Fault Scan :=
  if !s.inFlow && !s.keyAllowed then .error .malformedDocument
  else
    let s := if s.inFlow then s else s.openBlock s.cursor.column opening s.tokens.size
    s.dropKey.map fun s => { s.pushMark token 1 with keyAllowed := keyAllowed }

/-- The dash before an entry of a block sequence. -/
def blockEntry (s : Scan) : Except Fault Scan := s.blockMark .blockSequenceStart .blockEntry true

/-- The mark before a key. -/
def keyMark (s : Scan) : Except Fault Scan := s.blockMark .blockMappingStart .key (!s.inFlow)

/-- The colon before a value.  If a key may have started on this level, it was one. -/
def valueMark (s : Scan) : Except Fault Scan :=
  match s.keys.lookup s.flowLevel with
  | some key =>
    let s := { s with
      keys := s.keys.filter fun (level, _) => level != s.flowLevel
      tokens := s.tokens.insertIdxIfInBounds key.token .key }
    let s := if s.inFlow then s else s.openBlock key.column .blockMappingStart key.token
    .ok { s.pushMark .value 1 with keyAllowed := false }
  | none => s.blockMark .blockMappingStart .value (!s.inFlow)

/-- A piece that may be a key or stand before one. -/
def keyLike (s : Scan) (read : Cursor → Except Fault (Token × Cursor)) : Except Fault Scan := do
  let s ← s.saveKey
  let (token, c) ← read s.cursor
  .ok { s.push token with cursor := c, keyAllowed := false }

/-- A name after its mark, as a token. -/
def named (token : String → Token) (c : Cursor) : Except Fault (Token × Cursor) :=
  wellFormed ((nameAfterMark c).map fun (name, c) => (token name, c))

/-- A block of lines. -/
def block (s : Scan) (folded : Bool) : Except Fault Scan := do
  let s ← s.dropKey
  let (text, c) ← blockScalar folded s.indent s.cursor.next
  .ok { s.push (.scalar (Text.Symbol.ofChars text) false) with cursor := c, keyAllowed := true }

/-- A quoted scalar. -/
def quotedToken (double : Bool) (c : Cursor) : Except Fault (Token × Cursor) :=
  (quotedFrom double (c.rest.length + 1) c.next).map fun (text, c) => (.scalar text false, c)

/-- A plain scalar.  A key may start after it if it ended with a line. -/
def plain (s : Scan) : Except Fault Scan := do
  let s ← s.saveKey
  let (text, broken, c) :=
    plainFrom s.inFlow (s.indent + 1) (s.cursor.rest.length + 1) [] false s.cursor
  .ok { s.push (.scalar (Text.Symbol.ofChars text) true) with cursor := c, keyAllowed := broken }

/-- Whether a plain scalar may start here. -/
def plainStarts (s : Scan) : Bool :=
  let ch := s.cursor.peek
  let marks : List Char :=
    ['-', '?', ':', ',', '[', ']', '\x7b', '\x7d', '#', '&', '*', '!', '|', '>', '\x27', '\x22',
      '%', '@', '\x60']
  !(isGap ch || marks.contains ch) ||
    (!isGap (s.cursor.peekAt 1) && (ch = '-' || (!s.inFlow && (ch = '?' || ch = ':'))))

/-- Takes the next token, at whose first character the scan is. -/
def token (s : Scan) : Except Fault Scan :=
  let c := s.cursor
  let ch := c.peek
  let gapAfter := isGap (c.peekAt 1)
  if ch = '\x00' then s.finish
  else if ch = '%' && c.column = 0 then s.directive
  else if c.column = 0 && c.atMarker '-' then s.documentMark .documentStart
  else if c.column = 0 && c.atMarker '.' then s.documentMark .documentEnd
  else if ch = '[' then s.openFlow .flowSequenceStart
  else if ch = '\x7b' then s.openFlow .flowMappingStart
  else if ch = ']' then s.closeFlow .flowSequenceEnd
  else if ch = '\x7d' then s.closeFlow .flowMappingEnd
  else if ch = ',' then s.flowEntry
  else if ch = '-' && gapAfter then s.blockEntry
  else if ch = '?' && (s.inFlow || gapAfter) then s.keyMark
  else if ch = ':' && (s.inFlow || gapAfter) then s.valueMark
  else if ch = '*' then s.keyLike (named .alias)
  else if ch = '&' then s.keyLike (named .anchor)
  else if ch = '!' then s.keyLike fun c => wellFormed (tagToken c)
  else if ch = '|' && !s.inFlow then s.block false
  else if ch = '>' && !s.inFlow then s.block true
  else if ch = '\x27' then s.keyLike (quotedToken false)
  else if ch = '\x22' then s.keyLike (quotedToken true)
  else if s.plainStarts then s.plain
  else .error .malformedDocument

/-- The scan itself, unless it has arrived where the text is cut. -/
def uncut (s : Scan) : Except Fault Scan :=
  match s.cursor.rest, s.cursor.cut with
  | [], some fault => .error fault
  | _, _ => .ok s

/-- Takes the text apart up to the end of one more token.  Where the text is cut, the token that
ends there cannot be told. -/
def step (s : Scan) : Except Fault Scan := do
  let s ← (toNextToken (s.cursor.rest.length + 1) s.skipByteOrder).uncut
  let s ← s.dropStaleKeys
  let s ← (s.unwind s.cursor.column).token
  s.uncut

end Scan

/-- The tokens of a text. -/
structure Tokens where
  /-- The settled tokens: all, up to the end of the text or to the fault. -/
  settled : List Token
  /-- What is wrong with the text after them. -/
  fault : Option Fault

namespace Tokens

/-- Takes the text apart to its end, or to where it is not well formed. -/
def run : Nat → Scan → Tokens
  | 0, s => ⟨s.settled, some .malformedDocument⟩
  | fuel + 1, s =>
    match s.step with
    | .error fault => ⟨s.settled, some fault⟩
    | .ok s => if s.tokens.back? == some .streamEnd then ⟨s.settled, none⟩ else run fuel s

/-- The tokens of a text, which may be cut. -/
def ofText (text : List Char) (cut : Option Fault) : Tokens :=
  run (text.length + 2) (Scan.start text cut)

end Tokens

end Chip8.Yaml
