import Chip8.CallStack

/-!
# Memory

A row of byte cells with the call stack beside it and a log of accesses.

The only reading access is a window of two bytes, the cell at an address before
the one after it; beyond the last cell the second byte is zero.  `fetch` and
`write` are logged, for the record of the cycle in which they happen; `peek` and
`load`, which serve inspection and preparation, are not.

Addresses and data come from outside as integers of any size.  An access outside
the cells, or of a datum that is no byte, fails and changes nothing.
-/

namespace Chip8

set_option autoImplicit false

/-- A logged access: a window that was read or a byte that was written. -/
inductive Access where
  | read (address : Nat) (word : Nat)
  | write (address : Nat) (byte : Nat)
  deriving DecidableEq, Repr

/-- Byte cells, call stack and log. -/
structure Memory where
  cells : Array UInt8
  stack : CallStack
  /-- The logged accesses since the log was last taken, in order. -/
  log : List Access
  deriving DecidableEq, Repr

namespace Memory

/-- The number of cells of a machine that does not ask for another. -/
def defaultSize : Nat := 4096

/-- A memory of zeros; its size and the capacity of its stack have to be positive. -/
def create (size capacity : Int) : Except Fault Memory :=
  if 0 < size then
    match CallStack.create capacity with
    | .ok stack => .ok ⟨Array.replicate size.toNat 0, stack, []⟩
    | .error fault => .error fault
  else .error .memorySizeNotPositive

/-- The number of cells. -/
def size (memory : Memory) : Nat := memory.cells.size

/-- The byte at an address, zero beyond the last cell. -/
def byte (memory : Memory) (address : Nat) : Nat := (memory.cells[address]?.getD 0).toNat

/-- The window at an address: that byte before the next. -/
def window (memory : Memory) (address : Nat) : Nat :=
  256 * memory.byte address + memory.byte (address + 1)

/-- Whether an address is that of a cell. -/
def holds (memory : Memory) (address : Int) : Bool :=
  0 ≤ address && address < memory.size

/-- Fails unless the address is that of a cell. -/
def checkAddress (memory : Memory) (address : Int) : Except Fault Unit :=
  if memory.holds address then .ok () else .error (.addressOutOfRange address memory.size)

/-- Fails unless all of `length` cells from an address on exist; no cells always
exist. -/
def checkRange (memory : Memory) (address length : Int) : Except Fault Unit :=
  if length ≤ 0 then .ok ()
  else
    match memory.checkAddress address with
    | .ok () => memory.checkAddress (address + length - 1)
    | .error fault => .error fault

/-- The window at an address, without a trace in the log. -/
def peek (memory : Memory) (address : Int) : Except Fault Nat :=
  match memory.checkAddress address with
  | .ok () => .ok (memory.window address.toNat)
  | .error fault => .error fault

/-- The memory with one more access in its log. -/
def record (memory : Memory) (access : Access) : Memory :=
  { memory with log := memory.log ++ [access] }

/-- The window at an address. -/
def fetch (memory : Memory) (address : Int) : Except Fault (Nat × Memory) :=
  match memory.peek address with
  | .ok word => .ok (word, memory.record (.read address.toNat word))
  | .error fault => .error fault

/-- Whether a number is a byte. -/
def isByte (datum : Int) : Bool := 0 ≤ datum && datum ≤ 255

/-- Puts a byte into the cell at an address. -/
def setByte (memory : Memory) (address : Nat) (byte : UInt8) : Memory :=
  { memory with cells := memory.cells.setIfInBounds address byte }

/-- Stores a datum in the cell at an address. -/
def write (memory : Memory) (address datum : Int) : Except Fault Memory :=
  match memory.checkAddress address with
  | .ok () =>
    if isByte datum then
      .ok ((memory.setByte address.toNat (UInt8.ofNat datum.toNat)).record
        (.write address.toNat datum.toNat))
    else .error (.datumNotByte datum)
  | .error fault => .error fault

/-- Puts bytes into the cells from an address on. -/
def setBytes (memory : Memory) (address : Nat) : List UInt8 → Memory
  | [] => memory
  | byte :: rest => (memory.setByte address byte).setBytes (address + 1) rest

/-- Places bytes in memory without a trace in the log; nothing at all fits
anywhere. -/
def loadBytes (memory : Memory) (base : Int) (bytes : List UInt8) : Except Fault Memory :=
  match memory.checkRange base bytes.length with
  | .ok () => .ok (memory.setBytes base.toNat bytes)
  | .error fault => .error fault

/-- Places a block of numbers in memory without a trace in the log.  That they are
bytes is tested before their place is. -/
def load (memory : Memory) (base : Int) (block : List Int) : Except Fault Memory :=
  if block.all isByte then
    memory.loadBytes base (block.map fun datum => UInt8.ofNat datum.toNat)
  else .error .blockNotBytes

/-- All cells zero, no call in progress, nothing in the log. -/
def clear (memory : Memory) : Memory :=
  ⟨Array.replicate memory.size 0, memory.stack.clear, []⟩

/-- Takes the log, leaving an empty one. -/
def takeLog (memory : Memory) : List Access × Memory := (memory.log, { memory with log := [] })

/-- The bytes at consecutive addresses from `address` on, each read by itself. -/
def dump (memory : Memory) (address : Int) : Nat → Except Fault (List UInt8)
  | 0 => .ok []
  | count + 1 =>
    match memory.peek address with
    | .ok word =>
      match memory.dump (address + 1) count with
      | .ok rest => .ok (UInt8.ofNat (word / 256) :: rest)
      | .error fault => .error fault
    | .error fault => .error fault

/-! ## Size and bytes after each operation -/

@[simp] theorem size_setByte (memory : Memory) (address : Nat) (byte : UInt8) :
    (memory.setByte address byte).size = memory.size := by
  simp [setByte, size]

@[simp] theorem size_setBytes (memory : Memory) (address : Nat) (bytes : List UInt8) :
    (memory.setBytes address bytes).size = memory.size := by
  induction bytes generalizing memory address with
  | nil => rfl
  | cons byte rest ih => simp [setBytes, ih]

@[simp] theorem size_record (memory : Memory) (access : Access) :
    (memory.record access).size = memory.size := rfl

@[simp] theorem size_clear (memory : Memory) : memory.clear.size = memory.size := by
  simp [clear, size]

theorem byte_lt (memory : Memory) (address : Nat) : memory.byte address < 256 :=
  UInt8.toNat_lt _

theorem byte_setByte (memory : Memory) (address place : Nat) (byte : UInt8) :
    (memory.setByte address byte).byte place =
      if place = address ∧ address < memory.size then byte.toNat else memory.byte place := by
  simp only [setByte, Memory.byte, size, Array.getElem?_setIfInBounds]
  by_cases h : address = place
  · subst h
    by_cases hs : address < memory.cells.size <;> simp [hs]
  · simp [h, Ne.symm h]

end Memory

end Chip8
