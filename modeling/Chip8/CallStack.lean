import Chip8.Fault

/-!
# The call stack

Return addresses of the subroutines in progress, the innermost first.  The stack
has a fixed capacity; pushing on a full stack and popping an empty one fail and
change nothing.  An address is kept modulo 65536.
-/

namespace Chip8

set_option autoImplicit false

/-- A bounded stack of return addresses, the innermost first. -/
structure CallStack where
  capacity : Nat
  returns : List Nat
  deriving DecidableEq, Repr

namespace CallStack

/-- The capacity of a machine that does not ask for another. -/
def defaultCapacity : Nat := 16

/-- An empty stack; its capacity has to be positive. -/
def create (capacity : Int) : Except Fault CallStack :=
  if 0 < capacity then .ok ⟨capacity.toNat, []⟩ else .error .stackCapacityNotPositive

/-- How many calls are in progress. -/
def depth (stack : CallStack) : Nat := stack.returns.length

/-- The return addresses from the outermost to the innermost. -/
def bottomFirst (stack : CallStack) : List Nat := stack.returns.reverse

/-- Enters a subroutine that is to return to `address`. -/
def push (stack : CallStack) (address : Int) : Except Fault CallStack :=
  if stack.depth < stack.capacity then
    .ok { stack with returns := (address % 65536).toNat :: stack.returns }
  else .error (.stackOverflow stack.capacity address)

/-- Leaves the innermost subroutine, with the address it returns to. -/
def pop (stack : CallStack) : Except Fault (Nat × CallStack) :=
  match stack.returns with
  | [] => .error .stackUnderflow
  | address :: rest => .ok (address, { stack with returns := rest })

/-- The stack with no call in progress. -/
def clear (stack : CallStack) : CallStack := { stack with returns := [] }

/-! ## What the operations do to the depth -/

theorem depth_push {stack stack' : CallStack} {address : Int}
    (h : stack.push address = .ok stack') : stack'.depth = stack.depth + 1 := by
  unfold push at h
  split at h
  · cases h
    rfl
  · cases h

theorem depth_pop {stack stack' : CallStack} {address : Nat}
    (h : stack.pop = .ok (address, stack')) : stack.depth = stack'.depth + 1 := by
  obtain ⟨capacity, returns⟩ := stack
  cases returns with
  | nil => simp [pop] at h
  | cons a rest =>
    simp only [pop, Except.ok.injEq, Prod.mk.injEq] at h
    rw [← h.2]
    rfl

/-- What was pushed last is popped first. -/
theorem pop_push {stack stack' : CallStack} {address : Int}
    (h : stack.push address = .ok stack') :
    stack'.pop = .ok ((address % 65536).toNat, stack) := by
  unfold push at h
  split at h
  · cases h
    rfl
  · cases h

end CallStack

end Chip8
