import Chip8.Fault
import Chip8.Text.Case

/-!
# Keys of the host

The host's keyboard reports keys by the code point of their capital letter.  A
key table says which key of the keypad a host key stands for; several host keys
may stand for the same one.  The keys held down are remembered until they are
released, and the keypad is then told which of its keys they stand for.
-/

namespace Chip8

set_option autoImplicit false

/-- Pairs of a host character and a key number, in the order they were given. -/
abbrev Keymap := List (String × Int)

/-- Puts a value under a name: in place if the name is there already, else at the
end. -/
def assign {α β : Type} [BEq α] (name : α) (value : β) : List (α × β) → List (α × β)
  | [] => [(name, value)]
  | (other, old) :: rest =>
    if other == name then (other, value) :: rest else (other, old) :: assign name value rest

namespace Keymap

/-- The code that the host reports for a character of a key table: the code point of
its upper case.  It needs to be one character, and so does its upper case. -/
def code? (character : String) : Except Fault Nat :=
  if character.length = 1 then
    match (Text.upper character).toList with
    | [c] => .ok c.toNat
    | _ => .error .noSingleUpperCase
  else .error (.keyNotSingle character)

/-- The keys of the table by host code; the later of two characters with the same
code counts. -/
def codes : Keymap → Except Fault (List (Nat × Int))
  | keymap => go [] keymap
where
  /-- Adds the rest of a table to the codes found so far. -/
  go (found : List (Nat × Int)) : Keymap → Except Fault (List (Nat × Int))
    | [] => .ok found
    | (character, key) :: rest =>
      match code? character with
      | .ok code => go (assign code key found) rest
      | .error fault => .error fault

end Keymap

/-- The host keys held down, with the table that gives them meaning. -/
structure HostKeys where
  table : List (Int × Int)
  /-- The codes held down, each once. -/
  held : List Int
  deriving DecidableEq, Repr

namespace HostKeys

/-- No key of a table of characters is held down. -/
def ofTable (table : List (Nat × Int)) : HostKeys :=
  ⟨table.map fun (code, key) => (Int.ofNat code, key), []⟩

/-- The keypad key of a host code. -/
def key? (keys : HostKeys) (code : Int) : Option Int := keys.table.lookup code

/-- A host key goes down.  The answer says whether it stands for a key. -/
def press (keys : HostKeys) (code : Int) : Bool × HostKeys :=
  match keys.key? code with
  | none => (false, keys)
  | some _ => (true, { keys with held := keys.held.insert code })

/-- A host key goes up.  The answer says whether it stands for a key. -/
def release (keys : HostKeys) (code : Int) : Bool × HostKeys :=
  match keys.key? code with
  | none => (false, keys)
  | some _ => (true, { keys with held := keys.held.erase code })

/-- All host keys go up. -/
def releaseAll (keys : HostKeys) : HostKeys := { keys with held := [] }

/-- The keypad keys that the held keys stand for, in ascending order, each once. -/
def pressedKeys (keys : HostKeys) : List Int :=
  (keys.held.filterMap fun code => keys.key? code).eraseDups.mergeSort
    fun a b => decide (a ≤ b)

end HostKeys

end Chip8
