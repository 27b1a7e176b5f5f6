import Chip8.Decimal.Format
import Chip8.Text.Symbol
import Chip8.Value.Timestamp

/-!
# Values

Data as it is read from a configuration text: nothing, truth values, numbers, text,
lists and mappings, and the rarer values that a text can ask for by a tag or by its
form.

A collection may hold itself.  Values are finite, so what such a collection is stands
elsewhere, and in a value there is only the number under which it is kept.

Mappings keep the order in which their keys first appeared.  Two keys are the same if
they are equal as values.  Truth values and numbers are compared by their numeric
value, so `1`, `1.0` and `true` are one key, and points in time with an offset are
compared by the instant.
-/

namespace Chip8

set_option autoImplicit false

/-- Data read from a text. -/
inductive Value where
  | null
  | bool (value : Bool)
  | int (value : Int)
  | float (value : Float)
  /-- The mark of the number that is none: one value, which is the same key everywhere.
  Computed numbers that are none differ from all keys. -/
  | undefined
  | text (value : String)
  /-- A text in which some halves of surrogate pairs stand. -/
  | symbols (value : List Text.Symbol)
  | list (items : List Value)
  | map (entries : List (Value × Value))
  | bytes (value : List UInt8)
  | time (value : Timestamp)
  | set (members : List Value)
  | pair (first second : Value)
  /-- The endless collection that is kept under a number. -/
  | endless (place : Nat)
  deriving Inhabited

namespace Value

/-- A value that counts as empty: nothing, false, zero, or without content.  An endless
collection holds something. -/
def isEmpty : Value → Bool
  | null => true
  | bool b => !b
  | int n => n == 0
  | float x => x == 0.0
  | undefined => false
  | text s => s == ""
  | symbols s => s.isEmpty
  | list items => items.isEmpty
  | map entries => entries.isEmpty
  | bytes value => value.isEmpty
  | time _ => false
  | set members => members.isEmpty
  | pair _ _ => false
  | endless _ => false

/-- The value of an escaped text. -/
def ofSymbols (written : List Text.Symbol) : Value :=
  match Text.Symbol.chars? written with
  | some chars => text (String.ofList chars)
  | none => symbols written

/-! ## Keys -/

/-- The numeric value of a truth value or number, taken apart: a whole number, or the bits
of a double that is none. -/
def numeric? : Value → Option (Int ⊕ UInt64)
  | bool b => some (.inl (if b then 1 else 0))
  | int n => some (.inl n)
  | float x =>
    let whole := Decimal.truncate x
    if Float.floor x == x && x - x == 0.0 then some (.inl whole) else some (.inr x.toBits)
  | _ => none

/-- Whether two keys are the same. -/
def sameKey : Value → Value → Bool
  | null, null => true
  | undefined, undefined => true
  | text s, text t => s == t
  | symbols s, symbols t => s == t
  | bytes a, bytes b => a == b
  | time a, time b => a.sameInstant b
  | float x, float y => x == y
  | a, b =>
    match a.numeric?, b.numeric? with
    | some m, some n => m == n
    | _, _ => false

/-- Puts a value under a key: in place if the key is there already, else at the end. -/
def assign (key value : Value) : List (Value × Value) → List (Value × Value)
  | [] => [(key, value)]
  | (k, v) :: rest => if k.sameKey key then (k, value) :: rest else (k, v) :: assign key value rest

/-- The mapping of a list of entries, in which later ones replace earlier ones. -/
def ofEntries (entries : List (Value × Value)) : Value :=
  map (entries.foldl (fun done entry => assign entry.1 entry.2 done) [])

/-- The value under a text key. -/
def lookup (entries : List (Value × Value)) (key : String) : Option Value :=
  (entries.find? fun entry => entry.1.sameKey (text key)).map (·.2)

end Value

end Chip8
