import Chip8.Machine.Basic

/-!
# What instructions do

Every instruction as an action on the machine, at a moment when the program counter
already points at the next word.

An instruction that works on several cells tests their range before it changes
anything.  Instructions with a flag overwrite the flag register; where that is also
the register of the result, the later of the two writes counts, which is the flag for
additions and the result for subtractions and shifts.  Shifts look at one register
only.

Register numbers of a decoded word always name a register.  A host may put together an
instruction with other numbers; it fails where it comes to use one of them.
-/

namespace Chip8.Machine

set_option autoImplicit false

open Processor

/-- Fails unless a condition holds. -/
def require (condition : Bool) (fault : Fault) : Action Machine Unit :=
  if condition then pure () else Action.fail fault

/-! ## Subroutines -/

/-- Enters a subroutine, remembering the next word. -/
def enter (address : Int) : Action Machine Unit := do
  let m ← Action.state
  changeMemory fun memory =>
    match memory.stack.push m.registers.pc with
    | .ok stack => .ok { memory with stack := stack }
    | .error fault => .error fault
  changeRegisters (·.jumpTo address)

/-- Leaves a subroutine. -/
def leave : Action Machine Unit := do
  let address ← withMemory fun memory =>
    match memory.stack.pop with
    | .ok (address, stack) => .ok (address, { memory with stack := stack })
    | .error fault => .error fault
  changeRegisters fun r => { r with pc := address }

/-! ## Arithmetic -/

/-- Adds a number to a register, modulo 256. -/
def addPlain (x : Int) (value : Nat) (r : Registers) : Registers :=
  r.set x ((r.get x + value) % 256)

/-- Adds a number to a register, modulo 256; then the flag is the carry. -/
def addWithCarry (x : Int) (value : Nat) (r : Registers) : Registers :=
  (r.set x ((r.get x + value) % 256)).setFlag (if 255 < r.get x + value then 1 else 0)

/-- The flag says whether the subtrahend is the smaller one; then the register takes
the difference, modulo 256. -/
def takeDifference (x : Int) (minuend subtrahend : Nat) (r : Registers) : Registers :=
  (r.setFlag (if subtrahend < minuend then 1 else 0)).set x
    (((minuend : Int) - subtrahend) % 256).toNat

/-- The flag takes the lowest bit; then the register takes half the value. -/
def halve (x : Int) (r : Registers) : Registers :=
  (r.setFlag (r.get x % 2 : Nat)).set x (r.get x / 2)

/-- The flag takes the highest bit; then the register takes twice the value, modulo
256. -/
def double (x : Int) (r : Registers) : Registers :=
  (r.setFlag (r.get x / 128 % 2 : Nat)).set x (r.get x * 2 % 256)

/-- The flag says whether the sum needs more than twelve bits; then the index takes
it, modulo 65536. -/
def addToIndex (value : Nat) (r : Registers) : Registers :=
  { r.setFlag (if 0x0FFF < r.index + value then 1 else 0) with
    index := (r.index + value) % 65536 }

/-- Draws a random byte. -/
def drawByte : Action Machine UInt8 := fun m =>
  let (byte, random) := m.devices.random.draw
  ⟨{ m with devices := { m.devices with random := random } }, .ok byte, []⟩

/-- A register takes the next random byte, masked.  The mask counts by its last byte. -/
def takeRandom (x mask : Int) : Action Machine Unit := do
  let byte ← drawByte
  require (Registers.isPlace x) (.noSuchRegister true)
  changeRegisters (·.set x (byte.toNat &&& (mask % 256).toNat))

/-! ## Drawing -/

/-- Draws up to `count` rows of a sprite, of which the next one is number `row`, until
the bottom edge.  Each row is fetched from its own address. -/
def drawRows (column : Nat) (top : Int) : Nat → Nat → Action Machine Unit
  | 0, _ => pure ()
  | count + 1, row => do
    let m ← Action.state
    if m.devices.screen.height ≤ top + row then pure ()
    else do
      let word ← fetch (m.registers.index + row)
      let (screen, erased) := m.devices.screen.flipByte (top + row).toNat column (word / 256)
      changeDevices ({ · with screen := screen })
      if erased then changeRegisters (·.setFlag 1)
      drawRows column top count (row + 1)

/-- Draws the sprite that the index points at, its upper left corner at the pixel given
by two registers, modulo the sizes of the screen.  The flag says whether a pixel went
off. -/
def draw (x y height : Int) : Action Machine Unit := do
  let m ← Action.state
  checkRange m.registers.index height
  let screen := m.devices.screen
  require (Registers.isPlace x) (.noSuchRegister false)
  require (screen.width != 0) .screenWithoutPixels
  require (Registers.isPlace y) (.noSuchRegister false)
  require (screen.height != 0) .screenWithoutPixels
  changeRegisters (·.setFlag 0)
  drawRows (Int.fmod (m.registers.get x) screen.width).toNat
    (Int.fmod (m.registers.get y) screen.height) height.toNat 0

/-! ## Transfers -/

/-- Stores the hundreds, tens and ones of a register's last byte where the index
points. -/
def storeDigits (x : Int) : Action Machine Unit := do
  let m ← Action.state
  let value := m.registers.get x % 256
  let start := m.registers.index
  checkRange start 3
  write start (value / 100 : Nat)
  write (start + 1) (value / 10 % 10 : Nat)
  write (start + 2) (value % 10 : Nat)

/-- Stores `count` registers from number `k` on. -/
def storeFrom : Nat → Nat → Action Machine Unit
  | 0, _ => pure ()
  | count + 1, k => do
    require (Registers.isPlace k) (.noSuchRegister false)
    let m ← Action.state
    write (m.registers.index + k) (m.registers.get k)
    storeFrom count (k + 1)

/-- Stores the registers up to number `x` where the index points. -/
def storeAll (x : Int) : Action Machine Unit := do
  let m ← Action.state
  checkRange m.registers.index (x + 1)
  storeFrom (x + 1).toNat 0

/-- Loads `count` registers from number `k` on. -/
def loadFrom : Nat → Nat → Action Machine Unit
  | 0, _ => pure ()
  | count + 1, k => do
    let m ← Action.state
    let word ← fetch (m.registers.index + k)
    require (Registers.isPlace k) (.noSuchRegister true)
    changeRegisters (·.set k (word / 256))
    loadFrom count (k + 1)

/-- Loads the registers up to number `x` from where the index points. -/
def loadAll (x : Int) : Action Machine Unit := do
  let m ← Action.state
  checkRange m.registers.index (x + 1)
  loadFrom (x + 1).toNat 0

/-! ## Keys -/

/-- Whether the key named by a register's last nibble is down. -/
def keyDown (m : Machine) (x : Int) : Bool :=
  m.devices.keypad.isDown (Registers.place (m.registers.get x))

/-- Leaves out the next word if a condition on the machine holds. -/
def skipWhen (condition : Machine → Bool) : Action Machine Unit := do
  let m ← Action.state
  changeRegisters (·.skipIf (condition m))

/-- A register takes the least key that is down; if none is, the same word is executed
again. -/
def takeKey (x : Int) : Action Machine Unit := do
  let m ← Action.state
  match m.devices.keypad.firstPressed? with
  | some key => do
    require (Registers.isPlace x) (.noSuchRegister true)
    changeRegisters (·.set x key)
  | none => changeRegisters (·.retreat)

/-! ## All instructions -/

/-- The register numbers that an instruction uses before anything else, in order, each with
whether the register is written. -/
def registerUses : Instruction → List (Bool × Int)
  | .setByte x _ | .readDelay x => [(true, x)]
  | .copy x y => [(false, y), (true, x)]
  | .skipIfByte x _ | .skipUnlessByte x _ | .addByte x _ | .shiftRight x | .shiftLeft x
  | .skipIfPressed x | .skipUnlessPressed x | .setDelay x | .setSound x | .addIndex x
  | .smallGlyph x | .largeGlyph x | .storeDecimal x => [(false, x)]
  | .skipIfEqual x y | .skipUnlessEqual x y | .or x y | .and x y | .xor x y | .add x y
  | .subtract x y | .subtractFrom x y => [(false, x), (false, y)]
  | .clearScreen | .leave | .system _ | .jump _ | .call _ | .setIndex _ | .jumpOffset _
  | .random .. | .draw .. | .awaitKey _ | .storeRegisters _ | .loadRegisters _ => []

/-- Why an instruction cannot start: it uses a number that names no register. -/
def missingRegister? (instruction : Instruction) : Option Fault :=
  ((registerUses instruction).find? fun use => !Registers.isPlace use.2).map fun use =>
    .noSuchRegister use.1

/-- What an instruction does once it can start. -/
def effect : Instruction → Action Machine Unit
  | .clearScreen => changeDevices fun d => { d with screen := d.screen.clear }
  | .leave => leave
  | .system address => changeRegisters (·.jumpTo address)
  | .jump address => changeRegisters (·.jumpTo address)
  | .call address => enter address
  | .skipIfByte x byte => changeRegisters fun r => r.skipIf ((r.get x : Int) == byte)
  | .skipUnlessByte x byte => changeRegisters fun r => r.skipIf ((r.get x : Int) != byte)
  | .skipIfEqual x y => changeRegisters fun r => r.skipIf (r.get x == r.get y)
  | .setByte x byte => changeRegisters (·.set x byte.toNat)
  | .addByte x byte => changeRegisters (addPlain x (byte % 256).toNat)
  | .copy x y => changeRegisters fun r => r.set x (r.get y)
  | .or x y => changeRegisters fun r => r.set x (r.get x ||| r.get y)
  | .and x y => changeRegisters fun r => r.set x (r.get x &&& r.get y)
  | .xor x y => changeRegisters fun r => r.set x (r.get x ^^^ r.get y)
  | .add x y => changeRegisters fun r => addWithCarry x (r.get y) r
  | .subtract x y => changeRegisters fun r => takeDifference x (r.get x) (r.get y) r
  | .shiftRight x => changeRegisters (halve x)
  | .subtractFrom x y => changeRegisters fun r => takeDifference x (r.get y) (r.get x) r
  | .shiftLeft x => changeRegisters (double x)
  | .skipUnlessEqual x y => changeRegisters fun r => r.skipIf (r.get x != r.get y)
  | .setIndex address => changeRegisters fun r => { r with index := address }
  | .jumpOffset address => changeRegisters fun r => r.jumpTo (address + r.get 0)
  | .random x mask => takeRandom x mask
  | .draw x y height => draw x y height
  | .skipIfPressed x => skipWhen fun m => m.keyDown x
  | .skipUnlessPressed x => skipWhen fun m => !m.keyDown x
  | .readDelay x => changeRegisters fun r => r.set x r.delay.toNat
  | .awaitKey x => takeKey x
  | .setDelay x => changeRegisters fun r => { r with delay := r.get x }
  | .setSound x => changeRegisters fun r => { r with sound := r.get x }
  | .addIndex x => changeRegisters fun r => addToIndex (r.get x) r
  | .smallGlyph x => changeRegisters fun r =>
      { r with index := Font.smallStart + r.get x % 16 * Font.smallHeight }
  | .largeGlyph x => changeRegisters fun r =>
      { r with index := Font.largeStart + r.get x % 16 * Font.largeHeight }
  | .storeDecimal x => storeDigits x
  | .storeRegisters x => storeAll x
  | .loadRegisters x => loadAll x

/-- Executes an instruction. -/
def execute (instruction : Instruction) : Action Machine Unit :=
  match missingRegister? instruction with
  | some fault => Action.fail fault
  | none => effect instruction

/-- Executes the instruction of a word, if it has one; the answer says whether. -/
def perform (op : Opcode) : Action Machine Bool :=
  match Instruction.ofOpcode? op with
  | some instruction => do
    execute instruction
    pure true
  | none => pure false

end Chip8.Machine
