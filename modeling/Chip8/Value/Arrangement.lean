import Chip8.Value

/-!
# The order of the members of a set

A set keeps its members in a table of slots, in whose order they are shown and gone through.  A
number goes to the slot that its remainder asks for; if that is taken, to one of the next slots,
and if these are taken as well, to a slot somewhere else, which the higher digits of the remainder
decide.  The table has more than twice as many slots as members, and eight at least.

Members that are no numbers have no slot of their own: sets with such members keep the order in
which they were given.
-/

namespace Chip8

set_option autoImplicit false

namespace Value

/-- The number by which remainders are taken, a prime. -/
def remainderBase : Nat := Decimal.twoTo 61 - 1

/-- The remainder of a quotient of powers of two and a whole number.  Halving is multiplication by
a power of two, since 61 doublings change nothing. -/
def remainderOf (mantissa : Nat) (exponent : Int) : Nat :=
  mantissa % remainderBase * Decimal.twoTo (exponent % 61).toNat % remainderBase

/-- The remainder that is taken for infinity. -/
def infinityRemainder : Nat := 314159

/-- A remainder with a sign.  The one of -1 is that of -2. -/
def withSign (negative : Bool) (remainder : Nat) : Int :=
  if negative then (if remainder = 1 then -2 else -(remainder : Int)) else remainder

/-- The remainder of a value that is a number. -/
def remainder? : Value → Option Int
  | bool b => some (if b then 1 else 0)
  | int n => some (withSign (n < 0) (n.natAbs % remainderBase))
  | float x =>
    match Decimal.Binary.ofFloat x with
    | .notANumber => none
    | .infinite negative => some (withSign negative infinityRemainder)
    | .finite negative mantissa exponent =>
      some (withSign negative (remainderOf mantissa exponent))
  | _ => none

/-- How many slots after the first one are tried. -/
def nextSlots : Nat := 9

/-- The number of slots for a number of members. -/
def slotCount (members : Nat) : Nat :=
  if members < 5 then 8 else (List.range 64).foldl
    (fun size _ => if size ≤ 2 * members then 2 * size else size) 8

/-- The first free slot from a slot on, going on to other slots with the digits left of a
remainder. -/
def freeSlot (table : Array (Option Value)) : Nat → Nat → Nat → Nat
  | 0, _, slot => slot
  | fuel + 1, digits, slot =>
    let tried := if slot + nextSlots < table.size then nextSlots + 1 else 1
    match (List.range' slot tried).find? fun place => (table[place]?.getD none).isNone with
    | some place => place
    | none =>
      let digits := digits / 32
      freeSlot table fuel digits ((slot * 5 + 1 + digits) % table.size)

/-- Puts the members with their remainders into their slots. -/
def intoSlots (table : Array (Option Value)) : List (Value × Int) → Array (Option Value)
  | [] => table
  | (member, remainder) :: rest =>
    let digits := (remainder % (Decimal.twoTo 64 : Nat)).toNat
    let slot := freeSlot table (table.size + 64) digits (digits % table.size)
    intoSlots (table.setIfInBounds slot (some member)) rest

/-- Members in the order in which a set has them. -/
def arranged (members : List Value) : List Value :=
  match members.mapM fun member => member.remainder?.map fun r => (member, r) with
  | some numbered =>
    (intoSlots (Array.replicate (slotCount members.length) none) numbered).toList.filterMap id
  | none => members

end Value

end Chip8
