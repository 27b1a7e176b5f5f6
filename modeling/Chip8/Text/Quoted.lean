import Chip8.Text.Hex
import Chip8.Text.Printable
import Chip8.Text.Symbol

/-!
# Quoted text

Messages show a text between quotes, so that its ends and its invisible
characters can be seen.  The quotes are single, unless the text holds a single
quote and no double one.  A backslash and the quote in use are written after a
backslash; tabulator, line feed and carriage return have letters of their own;
any other character that is not printable is written by its number, and so is half of
a surrogate pair.
-/

namespace Chip8.Text

set_option autoImplicit false

/-- The quote around a text. -/
def quoteFor (text : List Char) : Char :=
  if text.contains '\x27' && !text.contains '\x22' then '\x22' else '\x27'

/-- A code point by its number: two, four or eight digits, as many as it needs. -/
def numbered (point : Nat) : List Char :=
  let code : Int := point
  if code < 0x100 then '\\' :: 'x' :: (lowerHex 2 code).toList
  else if code < 0x10000 then '\\' :: 'u' :: (lowerHex 4 code).toList
  else '\\' :: 'U' :: (lowerHex 8 code).toList

/-- One character of a quoted text. -/
def quotedChar (quote c : Char) : List Char :=
  if c = '\\' ∨ c = quote then ['\\', c]
  else if c = '\t' then ['\\', 't']
  else if c = '\n' then ['\\', 'n']
  else if c = '\r' then ['\\', 'r']
  else if isPrintable c then [c]
  else numbered c.toNat

/-- A text between quotes. -/
def quoted (text : String) : String :=
  let quote := quoteFor text.toList
  String.ofList (quote :: text.toList.flatMap (quotedChar quote) ++ [quote])

/-- One symbol of a quoted text. -/
def quotedSymbol (quote : Char) : Symbol → List Char
  | .char c => quotedChar quote c
  | .half code => numbered code

/-- Symbols between quotes. -/
def quotedSymbols (text : List Symbol) : String :=
  let quote := quoteFor (text.map Symbol.toChar)
  String.ofList (quote :: text.flatMap (quotedSymbol quote) ++ [quote])

/-- Characters are quoted as the text that they are. -/
@[simp] theorem quotedSymbols_ofChars (text : List Char) :
    quotedSymbols (Symbol.ofChars text) = quoted (String.ofList text) := by
  simp [quotedSymbols, quoted, Symbol.ofChars, List.flatMap_map, quotedSymbol, Function.comp_def,
    Symbol.toChar]

/-- One byte of a quoted byte string: as in a text, but every byte outside the
printable ASCII characters is written by its number. -/
def quotedByte (quote : Char) (byte : UInt8) : List Char :=
  let c := Char.ofNat byte.toNat
  if c.toNat < 128 then quotedChar quote c else numbered c.toNat

/-- A byte string between quotes, after the letter `b`. -/
def quotedBytes (bytes : List UInt8) : String :=
  let quote := quoteFor (bytes.map fun byte => Char.ofNat byte.toNat)
  String.ofList ('b' :: quote :: bytes.flatMap (quotedByte quote) ++ [quote])

end Chip8.Text
