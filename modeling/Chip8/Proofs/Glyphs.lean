import Chip8.Proofs.History
import Chip8.Proofs.ProgramFiles
import Chip8.Proofs.Sprites

/-!
# The glyphs in memory

A machine that was built or reset has its glyphs in the cells from `0x050` to `0x13F`, and what
leaves these cells alone leaves the glyphs alone.  Of all that can be done with the machine only
stores of its program and writes of the host can reach them: programs are placed behind the glyphs,
a cycle that fails has stored nothing, and a reset puts the glyphs back.

So the glyphs are there at any time of a run in which no record and no write of the host reaches
their cells (`holdsGlyphs_run`).  The words that point the index at a glyph point it at what the
font has for the digit, and the glyph can be drawn from there (`glyphs_stay_addressable`).
-/

namespace Chip8

set_option autoImplicit false

/-! ## The two sizes of glyphs -/

namespace Font

/-- The sizes of glyphs. -/
inductive Size where
  | small
  | large
  deriving DecidableEq, Repr

namespace Size

/-- Where the glyphs begin. -/
def start : Size → Nat
  | small => smallStart
  | large => largeStart

/-- The rows of a glyph. -/
def height : Size → Nat
  | small => smallHeight
  | large => largeHeight

/-- The rows of all glyphs. -/
def rows : Size → List UInt8
  | small => Font.small
  | large => Font.large

/-- The glyph of a digit. -/
def glyph : Size → Nat → List UInt8
  | small => smallGlyph
  | large => largeGlyph

/-- The word that points the index at the glyph of register zero. -/
def word : Size → Nat
  | small => 0xF029
  | large => 0xF030

/-- The instruction that points the index at a glyph. -/
def instruction : Size → Int → Instruction
  | small => .smallGlyph
  | large => .largeGlyph

theorem glyph_eq (size : Size) (digit : Nat) :
    size.glyph digit = (size.rows.drop (digit * size.height)).take size.height := by
  cases size <;> rfl

theorem length_rows (size : Size) : size.rows.length = 16 * size.height := by
  cases size with
  | small => exact length_small
  | large => exact length_large

/-- The glyph of a digit ends with the glyphs at the latest. -/
theorem end_le (size : Size) {digit : Nat} (small : digit < 16) :
    size.start + digit * size.height + size.height ≤ 0x140 := by
  cases size with
  | small =>
      simp only [start, height, smallStart, smallHeight]
      omega
  | large =>
      simp only [start, height, largeStart, largeHeight]
      omega

end Size

/-- The addresses of the glyphs. -/
def Holds (address : Int) : Prop := 0x050 ≤ address ∧ address < 0x140

theorem holds_row (size : Size) {k : Nat} (inside : k < size.rows.length) :
    Holds ((size.start + k : Nat) : Int) := by
  rw [Size.length_rows] at inside
  cases size with
  | small =>
      simp only [Holds, Size.start, Size.height, smallStart, smallHeight] at *
      omega
  | large =>
      simp only [Holds, Size.start, Size.height, largeStart, largeHeight] at *
      omega

end Font

/-! ## Memories with the glyphs in their places -/

namespace Memory

variable {memory later : Memory}

/-- The glyphs of both sizes are in their places. -/
def HoldsGlyphs (memory : Memory) : Prop :=
  ∀ (size : Font.Size) (k : Nat) (inside : k < size.rows.length),
    memory.byte (size.start + k) = size.rows[k].toNat

theorem OnlyGlyphs.holdsGlyphs (only : memory.OnlyGlyphs) : memory.HoldsGlyphs := by
  intro size k inside
  cases size with
  | small => exact only.small k inside
  | large => exact only.large k inside

/-- Only what happens to the cells of the glyphs matters. -/
theorem HoldsGlyphs.of_same (holds : memory.HoldsGlyphs)
    (same : ∀ address : Nat, Font.Holds address → later.byte address = memory.byte address) :
    later.HoldsGlyphs :=
  fun size k inside => (same _ (Font.holds_row size inside)).trans (holds size k inside)

theorem HoldsGlyphs.of_cells (holds : memory.HoldsGlyphs) (cells : later.cells = memory.cells) :
    later.HoldsGlyphs :=
  holds.of_same fun address _ => by rw [byte, byte, cells]

theorem HoldsGlyphs.loadBytes (holds : memory.HoldsGlyphs) {base : Int} {bytes : List UInt8}
    (loaded : memory.loadBytes base bytes = .ok later)
    (spared : ∀ k : Nat, k < bytes.length → ¬ Font.Holds (base + k)) : later.HoldsGlyphs := by
  rw [eq_setBytes_of_loadBytes loaded]
  refine holds.of_same fun address inside => byte_setBytes_of_outside _ ?_
  by_cases none : bytes.length = 0
  · omega
  · have positive : (0 : Int) < bytes.length := by omega
    unfold Memory.loadBytes at loaded
    split at loaded
    next passed =>
      obtain ⟨nonneg, _⟩ := fits_of_checkRange positive passed
      have apart := spared (address - base.toNat)
      by_contra reached
      rw [show base + ((address - base.toNat : Nat) : Int) = address by omega] at apart
      exact apart (by omega) inside
    next => cases loaded

theorem HoldsGlyphs.load (holds : memory.HoldsGlyphs) {base : Int} {block : List Int}
    (loaded : memory.load base block = .ok later)
    (spared : ∀ k : Nat, k < block.length → ¬ Font.Holds (base + k)) : later.HoldsGlyphs := by
  unfold Memory.load at loaded
  split at loaded
  · refine holds.loadBytes loaded fun k inside => spared k ?_
    rwa [List.length_map] at inside
  · cases loaded

theorem HoldsGlyphs.write (holds : memory.HoldsGlyphs) {address datum : Int}
    (written : memory.write address datum = .ok later) (spared : ¬ Font.Holds address) :
    later.HoldsGlyphs := by
  obtain ⟨place, byte, rfl, _, _, rfl⟩ := stored_of_write written
  refine holds.of_same fun other inside => ?_
  have apart : other ≠ place := by
    rintro rfl
    exact spared inside
  rw [stored, stored, byte_record, byte_setByte, if_neg fun here => apart here.1]

/-- From where a glyph begins its rows can be read. -/
theorem HoldsGlyphs.bytesFrom_glyph (holds : memory.HoldsGlyphs) (size : Font.Size) {digit : Nat}
    (small : digit < 16) :
    memory.bytesFrom (size.start + digit * size.height) size.height =
      (size.glyph digit).map UInt8.toNat := by
  have rows := size.length_rows
  have room : digit * size.height + size.height ≤ size.rows.length := by
    rw [rows, ← Nat.succ_mul]
    exact Nat.mul_le_mul_right _ small
  rw [Font.Size.glyph_eq]
  refine List.ext_getElem ?_ fun k left right => ?_
  · simp only [bytesFrom, List.length_map, List.length_range', List.length_take, List.length_drop]
    omega
  · simp only [bytesFrom, List.length_map, List.length_range'] at left
    simp only [bytesFrom, List.getElem_map, List.getElem_range', List.getElem_take,
      List.getElem_drop, Nat.one_mul, Nat.add_assoc]
    exact holds size _ (by omega)

end Memory

/-! ## What can be done with a machine -/

/-- An access that stores nothing in the cells of the glyphs. -/
def Access.SparesGlyphs : Access → Prop
  | read _ _ => True
  | write address _ => ¬ Font.Holds address

/-- What a host does with a machine spares the cells of the glyphs: no record of a cycle shows a
store in them, and neither a write of the host nor a block that it places reaches them. -/
def HostCall.SparesGlyphs (m : Machine) : HostCall → Prop
  | step | tick => ∀ record, m.finished? = some record →
      ∀ access ∈ record.accesses, access.SparesGlyphs
  | write address _ => ¬ Font.Holds address
  | load base block => ∀ k : Nat, k < block.length → ¬ Font.Holds (base + k)
  | _ => True

namespace Machine

variable {m start : Machine} {capacity : Nat} {width height : Int}

theorem memory_updateTimers (m : Machine) : (updateTimers m).state.memory = m.memory := by
  cases taken : (TickSource.take m.devices.ticks).result with
  | error fault => rw [updateTimers_of_error taken]
  | ok count => rw [updateTimers_of_ok taken]

/-- A cycle spares the glyphs if its record does; if it has none, it stored nothing. -/
theorem holdsGlyphs_step (bytes : m.HoldsBytes) (holds : m.memory.HoldsGlyphs)
    (spares : HostCall.step.SparesGlyphs m) : (step m).state.memory.HoldsGlyphs := by
  refine holds.of_same fun address inside => ?_
  refine byte_step_of_spared (fun record finished byte stored => ?_) fun _ => bytes
  exact spares record finished _ stored inside

theorem holdsGlyphs_reset (room : 0x140 ≤ m.memory.size) : (reset m).state.memory.HoldsGlyphs := by
  rw [reset_of_size room]
  exact (Memory.onlyGlyphs_prepared room).holdsGlyphs

/-- Programs are placed behind the glyphs. -/
theorem keepsGlyphs_loadProgram (program : List UInt8) :
    Action.Keeps (fun m : Machine => m.memory.HoldsGlyphs) (loadProgram program) := by
  unfold loadProgram
  split
  · exact fun _ holds => holds
  · refine .bind (Processor.keeps_changeMemory fun m later holds loaded => ?_)
      fun _ _ holds => holds
    refine holds.loadBytes loaded fun k _ => ?_
    simp only [Font.Holds, Registers.programStart]
    omega

/-- **Every host call that spares the glyphs leaves them in place.** -/
theorem holdsGlyphs_act (bounded : m.Bounded capacity width height) (holds : m.memory.HoldsGlyphs)
    {call : HostCall} (spares : call.SparesGlyphs m) :
    (call.act m).state.memory.HoldsGlyphs := by
  have room : 0x140 ≤ m.memory.size := by rw [bounded.memory.size]; decide
  have after_step : HostCall.step.SparesGlyphs m → (step m).state.memory.HoldsGlyphs :=
    m.holdsGlyphs_step bounded.registers.bytes holds
  cases call with
  | step =>
      rw [HostCall.act, Action.state_of_answer]
      exact after_step spares
  | tick =>
      rw [HostCall.act, Action.state_of_answer, m.store_tick.1]
      exact after_step spares
  | updateTimers =>
      refine holds.of_cells ?_
      rw [HostCall.act, memory_updateTimers]
  | reset => exact holdsGlyphs_reset room
  | loadProgram program => exact keepsGlyphs_loadProgram program m holds
  | changeKeypad change =>
      rw [HostCall.act, changeKeypad]
      cases change m.devices.keypad <;> exact holds
  | setPixel row column on =>
      rw [HostCall.act, setPixel]
      cases m.devices.screen.set row column on <;> exact holds
  | write address datum =>
      have kept : Action.Keeps (fun m : Machine => m.memory.HoldsGlyphs)
          (Processor.write address datum) :=
        Processor.keeps_changeMemory fun _ later held written => held.write written spares
      exact kept m holds
  | load base block =>
      have kept : Action.Keeps (fun m : Machine => m.memory.HoldsGlyphs)
          (Processor.changeMemory fun memory => memory.load base block) :=
        Processor.keeps_changeMemory fun _ later held loaded => held.load loaded spares
      exact kept m holds
  | syncTimers | clearScreen | sourceChanges => exact holds

/-! ## Runs that spare the glyphs -/

/-- A machine of 4096 cells and with pixels on its screen that was just built or reset. -/
inductive Starting : Machine → Prop where
  | built {memory : Memory} {devices : Devices} {m : Machine} (cells : memory.size = 4096)
      (wide : 0 < devices.screen.width) (high : 0 < devices.screen.height)
      (made : Machine.create memory devices = .ok m) : Starting m
  | reset {m : Machine} (cells : m.memory.size = 4096) (wide : 0 < m.devices.screen.width)
      (high : 0 < m.devices.screen.height) : Starting (Machine.reset m).state

/-- What a machine comes to by calls of the host that spare the glyphs. -/
inductive SparingRun (start : Machine) : Machine → Prop where
  | start : SparingRun start start
  | call {m : Machine} (call : HostCall) (run : SparingRun start m)
      (spares : call.SparesGlyphs m) : SparingRun start (call.act m).state

theorem Starting.bounded (starting : Starting start) :
    ∃ capacity width height, 0 < width ∧ 0 < height ∧ start.Bounded capacity width height ∧
      start.memory.HoldsGlyphs := by
  cases starting with
  | @built memory devices _ cells wide high made =>
      have room : 0x140 ≤ memory.size := by omega
      rw [create_of_size room] at made
      cases made
      exact ⟨memory.stack.capacity, devices.screen.width, devices.screen.height, wide, high,
        ⟨Registers.bounded_initial, Memory.bounded_prepared cells, rfl, rfl⟩,
        (Memory.onlyGlyphs_prepared room).holdsGlyphs⟩
  | @reset m cells wide high =>
      have room : 0x140 ≤ m.memory.size := by omega
      refine ⟨m.memory.stack.capacity, m.devices.screen.width, m.devices.screen.height, wide, high,
        ?_, holdsGlyphs_reset room⟩
      rw [reset_of_size room]
      exact ⟨Registers.bounded_initial, Memory.bounded_prepared cells, rfl, rfl⟩

/-- **The glyphs are in their places all through a run that spares them.** -/
theorem holdsGlyphs_run (wide : 0 < width) (high : 0 < height)
    (bounded : start.Bounded capacity width height) (holds : start.memory.HoldsGlyphs)
    (run : SparingRun start m) :
    m.Bounded capacity width height ∧ m.memory.HoldsGlyphs := by
  induction run with
  | start => exact ⟨bounded, holds⟩
  | call call _ spares ih =>
      obtain ⟨bounded, holds⟩ := ih
      exact ⟨keeps_act wide high call _ bounded, holdsGlyphs_act bounded holds spares⟩

/-! ## Glyphs that are drawn -/

/-- Since a cycle nothing happened to the index and the sizes. -/
structure Awaits (m next : Machine) : Prop where
  index : next.registers.index = m.registers.index
  size : next.memory.size = m.memory.size
  screen : next.devices.screen.Sized m.devices.screen.width m.devices.screen.height

/-- The timers that go down after a cycle leave the index alone. -/
theorem awaits_tick {after : Machine} {record : Snapshot Registers} {events : List Event}
    (cycle : step m = ⟨after, .ok record, events⟩) : after.Awaits (tick m).state := by
  rw [tick_of_ok cycle]
  cases taken : (TickSource.take after.devices.ticks).result with
  | error fault =>
      rw [updateTimers_of_error taken]
      exact ⟨rfl, rfl, rfl, rfl⟩
  | ok count =>
      rw [updateTimers_of_ok taken]
      exact ⟨Registers.index_elapse _ _, rfl, rfl, rfl⟩

theorem denotes_of_glyph (size : Font.Size) (x : Fin 16) (word : m.word = size.word + 0x100 * x) :
    Instruction.Denotes m.opcode (size.instruction (x : Nat)) := by
  have register : m.opcode.x = (x : Nat) := by
    rw [opcode_x, word]
    cases size <;> simp only [Font.Size.word] <;> omega
  have family : m.opcode.family = 0xF000 := by
    rw [opcode_family, word]
    cases size <;> simp only [Font.Size.word] <;> omega
  rw [← register]
  cases size with
  | small => exact .smallGlyph family (by rw [opcode_nn, word, Font.Size.word]; omega)
  | large => exact .largeGlyph family (by rw [opcode_nn, word, Font.Size.word]; omega)

/-- The words of glyphs point the index at the glyph of a digit. -/
theorem step_of_glyph (inside : m.Inside) (size : Font.Size) (x : Fin 16)
    (word : m.word = size.word + 0x100 * x) :
    ∃ after record, step m = ⟨after, .ok record, []⟩ ∧
      after.registers.index = (size.start + m.registers.v.get x % 16 * size.height : Nat) ∧
      m.SameBut [.counter, .index] after := by
  have denotes := denotes_of_glyph size x word
  have changes : effect (size.instruction (x : Nat)) m.fetched =
      Processor.changeRegisters
        (fun r => { r with index := size.start + r.get (x : Nat) % 16 * size.height })
        m.fetched := by
    cases size <;> rfl
  obtain ⟨after, record, cycle, registers⟩ := step_of_change inside denotes changes
  have same := step_changes_only m
  rw [cycle, Opcode.footprint_of_denotes denotes] at same
  refine ⟨after, record, cycle, ?_, ?_⟩
  · rw [registers, ← get_fetched]
    push_cast
    rfl
  · cases size <;> exact same

/-- A sprite that lies in memory is drawn without a failure. -/
theorem draws_of_fits (wide : 0 < m.devices.screen.width) (high : 0 < m.devices.screen.height)
    {place : Nat} (index : m.registers.index = place) (inside : m.Inside) {a b n : Fin 16}
    (fits : place + (n : Nat) ≤ m.memory.size)
    (word : m.word = 0xD000 + 0x100 * a + 0x10 * b + n) :
    ∃ drawn record, step m = ⟨drawn, .ok record, []⟩ := by
  have room : 0 ≤ m.registers.index ∧ m.registers.index + (n : Nat) ≤ m.memory.size := by omega
  obtain ⟨screen, erased, _, drawn⟩ := draw_flips (m := m.fetched) wide high a b n (.inr room)
  exact ⟨_, _, step_of_effect inside (denotes_of_sprite a b n word) drawn⟩

/-- The word of a machine points the index at the glyph of a register: the cycle succeeds, the cells
from the index on hold the rows of the glyph, and when the machine goes on from there, a word that
draws no more rows than these does not fail. -/
def ShowsGlyph (m : Machine) (size : Font.Size) (x : Fin 16) : Prop :=
  ∃ after record, ∃ place : Nat, step m = ⟨after, .ok record, []⟩ ∧ after.registers.index = place ∧
    after.memory.bytesFrom place size.height =
      (size.glyph (m.registers.v.get x % 16)).map UInt8.toNat ∧
    after.Awaits (tick m).state ∧
    ∀ next, after.Awaits next → next.Inside → ∀ a b n : Fin 16, (n : Nat) ≤ size.height →
      next.word = 0xD000 + 0x100 * a + 0x10 * b + n →
      ∃ drawn record, step next = ⟨drawn, .ok record, []⟩

/-- The machine with any other values in its registers. -/
def withRegisters (m : Machine) (registers : Registers) : Machine :=
  { m with registers := registers }

/-- **The glyphs stay addressable.**  At any time of a run that spares them, with any values in the
registers, a word that points the index at a glyph points it at what the font has for the digit. -/
theorem glyphs_stay_addressable (starting : Starting start) (run : SparingRun start m)
    (registers : Registers) (size : Font.Size) (x : Fin 16)
    (inside : (m.withRegisters registers).Inside)
    (word : (m.withRegisters registers).word = size.word + 0x100 * x) :
    (m.withRegisters registers).ShowsGlyph size x := by
  obtain ⟨capacity, width, height, wide, high, fresh, placed⟩ := starting.bounded
  obtain ⟨bounded, holds⟩ := holdsGlyphs_run wide high fresh placed run
  obtain ⟨after, record, cycle, index, same⟩ := step_of_glyph inside size x word
  have digit : (m.withRegisters registers).registers.v.get x % 16 < 16 := Nat.mod_lt _ (by decide)
  have glyphs : after.memory.HoldsGlyphs := holds.of_cells (same.cells (by decide))
  refine ⟨after, record, _, cycle, index, glyphs.bytesFrom_glyph size digit, awaits_tick cycle, ?_⟩
  intro next awaits next_inside a b n short next_word
  have cells : next.memory.size = 4096 :=
    awaits.size.trans (same.size.trans bounded.memory.size)
  have columns : next.devices.screen.width = width :=
    awaits.screen.1.trans (same.sized.1.trans bounded.screen.1)
  have lines : next.devices.screen.height = height :=
    awaits.screen.2.trans (same.sized.2.trans bounded.screen.2)
  refine draws_of_fits (columns ▸ wide) (lines ▸ high) (awaits.index.trans index) next_inside ?_
    next_word
  have last := size.end_le digit
  omega

/-- The machine that is made when nothing else is asked for. -/
def plain : Machine :=
  ⟨Registers.initial, defaultMemory.prepared, 0,
    ⟨defaultScreen, Keypad.idle, .listed (fun _ => 0) 0, .everyCycle⟩⟩

/-- The same with a program of one word, and with a value in a register that is more than a
digit. -/
def pointing : Machine :=
  ((HostCall.loadProgram [0xF3, 0x30]).act plain).state.withRegisters (Registers.initial.set 3 0x21)

/-- Only the last digit of the value counts. -/
theorem glyph_of_loaded_program :
    ∃ after record, ∃ place : Nat, step pointing = ⟨after, .ok record, []⟩ ∧
      after.registers.index = place ∧
      after.memory.bytesFrom place 10 =
        [0x18, 0x38, 0x58, 0x18, 0x18, 0x18, 0x18, 0x18, 0x18, 0x3C] := by
  have plain_cells : plain.memory.size = 4096 :=
    (Memory.size_prepared defaultMemory).trans size_defaultMemory
  have starting : Starting plain :=
    .built size_defaultMemory (by decide) (by decide) (create_defaultMemory plain.devices)
  have run : SparingRun plain ((HostCall.loadProgram [0xF3, 0x30]).act plain).state :=
    .call _ .start trivial
  have placed : pointing.memory =
      plain.memory.setBytes Registers.programStart [0xF3, 0x30] := by
    rw [pointing, withRegisters, HostCall.act, loadProgram_of_fits plain_cells (by decide)]
  have fits : Registers.programStart + [(0xF3 : UInt8), 0x30].length ≤ plain.memory.size := by
    rw [plain_cells]
    decide
  obtain ⟨inside, first⟩ :=
    word_of_placed (k := 0) fits (congrArg Memory.cells placed) rfl rfl rfl
  have word : pointing.word = Font.Size.large.word + 0x100 * (3 : Fin 16) :=
    first.trans (by decide)
  obtain ⟨after, record, place, cycle, index, bytes, _⟩ :=
    glyphs_stay_addressable starting run (Registers.initial.set 3 0x21) .large 3 inside word
  exact ⟨after, record, place, cycle, index, bytes.trans (by decide)⟩

end Machine

end Chip8
