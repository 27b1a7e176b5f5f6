import Chip8.Value
import Chip8.Value.Integer

/-!
# Documents

A document is a value, and beside it the collections that are endless: those that hold
themselves, directly or within others, and those that hold such a collection.  Each is kept
once, under a number.

A value is written as text with its collections in full.  An endless collection is written in
full as well, until it would have to be written inside itself: there it leaves an ellipsis.
Since it is open by then, at most as many collections are open at a time as there are endless
ones, which bounds the writing.
-/

namespace Chip8

set_option autoImplicit false

/-- A value with the endless collections that it may name. -/
structure Document where
  root : Value
  /-- The endless collections, by number. -/
  endless : Array Value

namespace Value

/-- How floating-point numbers are written: positionally while the leading digit is
between the fourth place after the point and the sixteenth before it. -/
def floatFormat : Decimal.Format := ⟨-4, 16, 2, "inf", "nan"⟩

/-- What a collection leaves where it would have to be written inside itself. -/
def ellipsis : Value → String
  | list _ => "[...]"
  | pair _ _ => "(...)"
  | _ => "\x7b...\x7d"

mutual

/-- A value as it stands inside another, text being quoted.  `nested` is the text of an endless
collection. -/
def shown (nested : Nat → Except Fault String) : Value → Except Fault String
  | null => .ok "None"
  | bool b => .ok (if b then "True" else "False")
  | int n => integerText n
  | float x => .ok (floatFormat.write x)
  | undefined => .ok floatFormat.notANumber
  | text s => .ok (Text.quoted s)
  | symbols s => .ok (Text.quotedSymbols s)
  | list items => (shownItems nested items).map fun parts => "[" ++ ", ".intercalate parts ++ "]"
  | map entries =>
    (shownEntries nested entries).map fun parts => "\x7b" ++ ", ".intercalate parts ++ "\x7d"
  | bytes value => .ok (Text.quotedBytes value)
  | time t => .ok t.shown
  | set members =>
    if members.isEmpty then .ok "set()"
    else (shownItems nested members).map fun parts => "\x7b" ++ ", ".intercalate parts ++ "\x7d"
  | pair first second =>
    match shown nested first, shown nested second with
    | .ok a, .ok b => .ok ("(" ++ a ++ ", " ++ b ++ ")")
    | .error fault, _ => .error fault
    | _, .error fault => .error fault
  | endless place => nested place

/-- The items of a list one by one. -/
def shownItems (nested : Nat → Except Fault String) : List Value → Except Fault (List String)
  | [] => .ok []
  | item :: rest =>
    match shown nested item with
    | .ok part => (shownItems nested rest).map (part :: ·)
    | .error fault => .error fault

/-- The entries of a mapping one by one. -/
def shownEntries (nested : Nat → Except Fault String) :
    List (Value × Value) → Except Fault (List String)
  | [] => .ok []
  | (key, value) :: rest =>
    match shown nested key, shown nested value with
    | .ok k, .ok v => (shownEntries nested rest).map ((k ++ ": " ++ v) :: ·)
    | .error fault, _ => .error fault
    | _, .error fault => .error fault

end

/-- The elements of a value that has some: the items of a list, the keys of a mapping,
the characters of a text. -/
def elements : Value → Except Fault (List Value)
  | text s => .ok (s.toList.map fun c => text (String.singleton c))
  | symbols s => .ok (s.map fun symbol => ofSymbols [symbol])
  | list items => .ok items
  | map entries => .ok (entries.map (·.1))
  | bytes value => .ok (value.map fun byte => int byte.toNat)
  | set members => .ok members
  | pair first second => .ok [first, second]
  | _ => .error .noElements

end Value

namespace Document

/-- The collection under a number. -/
def collection (d : Document) (place : Nat) : Value := d.endless[place]?.getD .null

/-- A value by itself: an endless collection as the collection that it is. -/
def resolve (d : Document) : Value → Value
  | .endless place => d.collection place
  | value => value

/-- The text of the endless collection under a number, while those in `opened` are being
written.  So many more may be opened. -/
def nested (d : Document) : Nat → List Nat → Nat → Except Fault String
  | 0, _, place => .ok (d.collection place).ellipsis
  | room + 1, opened, place =>
    if opened.contains place then .ok (d.collection place).ellipsis
    else (d.collection place).shown (d.nested room (place :: opened))

/-- The text of a value, which by itself is not quoted. -/
def written (d : Document) : Value → Except Fault String
  | .text s => .ok s
  | .symbols s => .ok (String.ofList (Text.Symbol.joined s))
  | .time t => .ok t.text
  | value => value.shown (d.nested (d.endless.size + 1) [])

/-- How many characters the text of a value has; halves of surrogate pairs count by themselves. -/
def writtenLength (d : Document) : Value → Except Fault Nat
  | .symbols s => .ok s.length
  | value => (d.written value).map String.length

end Document

end Chip8
