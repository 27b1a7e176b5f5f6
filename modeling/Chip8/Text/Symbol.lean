/-!
# Symbols

A text that is written with escapes can ask for code points that are no characters: the halves
of surrogate pairs.  A symbol is a character or such a half, and a list of symbols is the most
that an escaped text can stand for.

Where only characters can be put out, a high half and the low half after it are read as the
character that the pair stands for; a half by itself leaves the replacement character.
-/

namespace Chip8.Text

set_option autoImplicit false

/-- A character, or half of a surrogate pair. -/
inductive Symbol where
  | char (c : Char)
  | half (code : Nat)
  deriving DecidableEq, Repr

namespace Symbol

/-- The symbol of a code point. -/
def ofCode (code : Nat) : Symbol :=
  if 0xD800 ≤ code ∧ code ≤ 0xDFFF then half code else char (Char.ofNat code)

/-- What stands for half of a pair among characters. -/
def replacement : Char := '\uFFFD'

/-- The character that a symbol is, or the replacement character. -/
def toChar : Symbol → Char
  | char c => c
  | half _ => replacement

/-- Characters as symbols. -/
def ofChars (text : List Char) : List Symbol := text.map char

/-- The characters of a text, if it has no half of a pair. -/
def chars? : List Symbol → Option (List Char)
  | [] => some []
  | char c :: rest => (chars? rest).map (c :: ·)
  | half _ :: _ => none

@[simp] theorem chars?_ofChars (text : List Char) : chars? (ofChars text) = some text := by
  unfold ofChars
  induction text with
  | nil => rfl
  | cons c rest ih => simp [chars?, ih]

@[simp] theorem map_toChar_ofChars (text : List Char) : (ofChars text).map toChar = text := by
  simp [ofChars, Function.comp_def, toChar]

/-- The character of a pair, if its halves are a high one and a low one. -/
def paired? (high low : Nat) : Option Char :=
  if high < 0xDC00 ∧ 0xDC00 ≤ low then
    some (Char.ofNat (0x10000 + (high - 0xD800) * 0x400 + (low - 0xDC00)))
  else none

/-- A text with its pairs read as characters. -/
def joined : List Symbol → List Char
  | [] => []
  | char c :: rest => c :: joined rest
  | [half _] => [replacement]
  | half _ :: char c :: rest => replacement :: c :: joined rest
  | half high :: half low :: rest =>
    match paired? high low with
    | some c => c :: joined rest
    | none => replacement :: joined (half low :: rest)

/-- The parts of a text between the places where a character stands. -/
def splitAt (mark : Char) : List Symbol → List (List Symbol)
  | [] => [[]]
  | symbol :: rest =>
    match splitAt mark rest with
    | part :: parts =>
      if symbol = char mark then [] :: part :: parts else (symbol :: part) :: parts
    | [] => []

end Symbol

end Chip8.Text
