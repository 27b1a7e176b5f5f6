import Chip8.Yaml

/-!
# Texts of files

The bytes of a file are decoded block by block, and its text is handed on portion by portion, as
the reading of the document needs it.  So what is wrong with a file is found only when the reading
gets there: in a long file a fault of the document may come first.

A block has a fixed number of bytes, or more if the block before had many bytes for each of its
characters.  The start of a character at the end of a block is held back, and so is a carriage
return, since it may belong to a line end of two characters.  All line ends read as line feeds.
-/

namespace Chip8

set_option autoImplicit false

/-- How far a file has been decoded. -/
structure Decoding where
  /-- The bytes that have not been looked at. -/
  rest : List UInt8
  /-- The bytes that are held back. -/
  held : List UInt8
  /-- The characters that have not been handed on. -/
  ready : List Char
  /-- The sizes of the last block in bytes and in characters. -/
  lastBytes : Nat
  lastChars : Nat

namespace Decoding

/-- The least number of bytes in a block. -/
def blockSize : Nat := 8192

/-- The number of characters in a portion. -/
def portionSize : Nat := 4096

/-- The start of the file. -/
def ofBytes (bytes : List UInt8) : Decoding := ⟨bytes, [], [], 0, 0⟩

/-- How many bytes a character has that starts with a byte. -/
def charSize (byte : UInt8) : Nat :=
  if byte < 0xC2 ∨ 0xF4 < byte then 1 else if byte < 0xE0 then 2 else if byte < 0xF0 then 3 else 4

/-- Whether a byte continues a character. -/
def continues (byte : UInt8) : Bool := 0x80 ≤ byte && byte < 0xC0

/-- How many bytes at the end of a block are held back, given the bytes from the last one on. -/
def heldCount (bytes : List UInt8) : Nat :=
  let more := bytes.takeWhile continues
  match bytes.drop more.length with
  | byte :: _ =>
    if more.isEmpty && byte = 0x0D then 1
    else if more.length + 1 < charSize byte then more.length + 1
    else 0
  | [] => 0

/-- The characters of bytes, with all line ends as line feeds. -/
def charsOf (bytes : List UInt8) : Except Fault (List Char) :=
  match String.fromUTF8? ⟨bytes.toArray⟩ with
  | some text => .ok ((text.replace "\r\n" "\n").replace "\r" "\n").toList
  | none => .error .fileNotText

/-- The size of the next block when a number of characters is wanted. -/
def nextSize (d : Decoding) (wanted : Nat) : Nat :=
  if d.lastChars = 0 then blockSize else max blockSize (d.lastBytes * wanted / d.lastChars)

/-- Decodes one more block; after the last one, what was held back. -/
def step (d : Decoding) (wanted : Nat) : Except Fault Decoding :=
  let block := d.rest.take (d.nextSize wanted)
  let bytes := d.held ++ block
  let kept := if block.isEmpty then 0 else heldCount bytes.reverse
  let whole := bytes.take (bytes.length - kept)
  (charsOf whole).map fun chars =>
    ⟨d.rest.drop block.length, bytes.drop whole.length, d.ready ++ chars, block.length,
      chars.length⟩

/-- Decodes until a number of characters is ready or the file ends. -/
def stepTo (wanted : Nat) : Nat → Decoding → Except Fault Decoding
  | 0, d => .ok d
  | fuel + 1, d =>
    if wanted ≤ d.ready.length ∨ (d.rest.isEmpty ∧ d.held.isEmpty) then .ok d
    else
      match d.step (wanted - d.ready.length) with
      | .ok next => stepTo wanted fuel next
      | .error fault => .error fault

/-- Hands on a portion. -/
def portion (d : Decoding) : Except Fault (List Char × Decoding) :=
  (d.stepTo portionSize (d.rest.length + 2)).map fun d =>
    (d.ready.take portionSize, { d with ready := d.ready.drop portionSize })

/-- Hands on a portion of which all characters may stand in a document. -/
def allowedPortion (d : Decoding) : Except Fault (List Char × Decoding) :=
  match d.portion with
  | .ok (text, d) =>
    if text.all Yaml.isAllowed then .ok (text, d) else .error .malformedDocument
  | .error fault => .error fault

/-- The text from here on, up to the end or to a fault. -/
def portions : Nat → Decoding → List Char × Option Fault
  | 0, _ => ([], none)
  | fuel + 1, d =>
    match d.allowedPortion with
    | .error fault => ([], some fault)
    | .ok ([], _) => ([], none)
    | .ok (text, d) =>
      let (more, cut) := portions fuel d
      (text ++ more, cut)

/-- The text of a file, up to its end or to a fault.  The first two portions are handed on
together. -/
def textOf (bytes : List UInt8) : List Char × Option Fault :=
  let first : Except Fault (List Char × Decoding) := do
    let (one, d) ← (ofBytes bytes).portion
    let (two, d) ← d.portion
    if (one ++ two).all Yaml.isAllowed then .ok (one ++ two, d) else .error .malformedDocument
  match first with
  | .error fault => ([], some fault)
  | .ok (text, d) =>
    let (more, cut) := portions (bytes.length + 1) d
    (text ++ more, cut)

end Decoding

end Chip8
