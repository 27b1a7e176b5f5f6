import Chip8.Proofs.Reset

/-!
# Loading a program file

The file is read and its length tested before the machine is touched.  After that nothing can fail:
the reset has the room for the glyphs, and a program that passed the test fits behind the program
start, as the limit is what lies from there to the end of the memory (`loadProgram_of_fits`).  So
loading a file either refuses it and leaves the machine as it was, or it leaves the reset machine
with the program in place (`load_is_all_or_nothing`).
-/

namespace Chip8

set_option autoImplicit false

open Processor

/-- The reading of a file gives a program that can be loaded: it has a byte, and no more bytes than
there is room for. -/
def Loadable (reading : Except PathFault (List UInt8)) (program : List UInt8) : Prop :=
  reading = .ok program ∧ program ≠ [] ∧ program.length ≤ 3584

/-- **A file is refused or gives its bytes.** -/
theorem programOf_cases (path : String) (reading : Except PathFault (List UInt8)) :
    (∃ fault, programOf path reading = .error fault ∧ fault.family = .rom ∧
      ∀ program, ¬ Loadable reading program) ∨
    ∃ program, programOf path reading = .ok program ∧ Loadable reading program := by
  have limit : Machine.programLimit = 3584 := rfl
  cases reading with
  | error cause =>
      refine .inl ⟨.romFileUnreadable path cause, rfl, rfl, fun program loadable => ?_⟩
      cases loadable.1
  | ok program =>
      by_cases empty : program = []
      · refine .inl ⟨.romFileEmpty path, by rw [empty]; rfl, rfl, ?_⟩
        rintro other ⟨same, some_byte, _⟩
        cases same
        exact some_byte empty
      · have not_empty : ¬ program.isEmpty = true := by rwa [List.isEmpty_iff]
        by_cases long : 3584 < program.length
        · refine .inl ⟨.romFileTooLong path program.length Machine.programLimit, ?_, rfl, ?_⟩
          · rw [programOf, if_neg not_empty, if_pos (by omega)]
          · rintro other ⟨same, _, short⟩
            cases same
            omega
        · refine .inr ⟨program, ?_, rfl, empty, by omega⟩
          rw [programOf, if_neg not_empty, if_neg (by omega)]

theorem readProgram_of_plain {path : String} (plain : '\x00' ∉ path.toList) (files : Files) :
    files.readProgram path = programOf path (files.read path) := by
  rw [Files.readProgram, if_neg]
  rwa [List.contains_iff_mem]

namespace Machine

variable {m : Machine} {files : Files} {path : String} {program : List UInt8} {fault : Fault}

/-- **A program that is no longer than the limit can be placed** in a memory of the usual size. -/
theorem loadProgram_of_fits (cells : m.memory.size = 4096) (short : program.length ≤ 3584) :
    loadProgram program m =
      ⟨{ m with memory := m.memory.setBytes Registers.programStart program }, .ok (),
        [.programLoaded program.length Registers.programStart]⟩ := by
  have limit : programLimit = 3584 := rfl
  have start : Registers.programStart = 0x200 := rfl
  have placed : changeMemory (fun memory => memory.loadBytes Registers.programStart program) m =
      ⟨{ m with memory := m.memory.setBytes Registers.programStart program }, .ok (), []⟩ :=
    changeMemory_of_ok (Memory.loadBytes_of_room (by omega))
  rw [loadProgram, if_neg (by omega), Action.bind_of_ok placed]
  rfl

/-- A machine executes the word of a program in place that its program counter points at. -/
theorem word_of_placed {memory : Memory} {start k : Nat} {high low : UInt8}
    (fits : start + program.length ≤ memory.size)
    (placed : m.memory.cells = (memory.setBytes start program).cells)
    (counter : m.registers.pc = (start + k : Nat))
    (first : program[k]? = some high) (second : program[k + 1]? = some low) :
    m.Inside ∧ m.word = 256 * high.toNat + low.toNat := by
  constructor
  · have size : m.memory.size = memory.size :=
      (congrArg Array.size placed).trans (memory.size_setBytes start _)
    have inside : k < program.length := (List.getElem?_eq_some_iff.mp first).1
    rw [Inside, counter, size]
    omega
  · rw [word, counter, Int.toNat_natCast, Memory.window_of_cells placed]
    exact memory.window_setBytes fits first second

/-- A file that is refused leaves the machine as it was. -/
theorem loadRom_of_refused (refused : files.readProgram path = .error fault) :
    loadRom files path m = ⟨m, .error fault, []⟩ := by
  refine Action.bind_of_error ?_
  rw [Action.ofExcept, refused]

/-- Loading a program is a reset and then the placing of the program. -/
theorem loadRom_of_program (read : files.readProgram path = .ok program) {ready : Machine}
    (reset_ok : reset m = ⟨ready, .ok (), []⟩) (cells : ready.memory.size = 4096)
    (short : program.length ≤ 3584) :
    loadRom files path m =
      ⟨{ ready with memory := ready.memory.setBytes Registers.programStart program },
        .ok program.length,
        [.programLoaded program.length Registers.programStart, .romLoaded (baseName path)]⟩ := by
  have first : (Action.ofExcept (files.readProgram path) : Action Machine (List UInt8)) m =
      ⟨m, .ok program, []⟩ := by
    rw [Action.ofExcept, read]
  rw [loadRom, Action.bind_of_ok first, Action.bind_of_ok reset_ok,
    Action.bind_of_events (loadProgram_of_fits cells short)]
  rfl

/-- A machine is the reset machine with a program in its memory and nothing else different. -/
structure Loaded (ready : Machine) (program : List UInt8) (after : Machine) : Prop where
  registers : after.registers = ready.registers
  cycles : after.cycles = ready.cycles
  devices : after.devices = ready.devices
  size : after.memory.size = ready.memory.size
  stack : after.memory.stack = ready.memory.stack
  log : after.memory.log = ready.memory.log
  placed : ∀ k (inside : k < program.length), after.memory.byte (0x200 + k) = program[k].toNat
  others : ∀ address, address < 0x200 ∨ 0x200 + program.length ≤ address →
    after.memory.byte address = ready.memory.byte address

theorem loaded_setBytes (fits : Registers.programStart + program.length ≤ m.memory.size) :
    Loaded m program
      { m with memory := m.memory.setBytes Registers.programStart program } where
  registers := rfl
  cycles := rfl
  devices := rfl
  size := Memory.size_setBytes _ _ _
  stack := Memory.stack_setBytes _ _ _
  log := Memory.log_setBytes _ _ _
  placed := fun _ inside => Memory.byte_setBytes_of_inside m.memory inside fits
  others := fun _ outside => Memory.byte_setBytes_of_outside m.memory outside

/-- **Loading a file is all or nothing.**  Whatever the state of a machine with 4096 cells and
whatever comes of reading the file: if it cannot be read, is empty or longer than 3584 bytes, a
fault of the program files is raised and the machine is as it was.  Otherwise the length is the
answer, and the machine is the reset machine with the bytes of the file in place. -/
theorem load_is_all_or_nothing (files : Files) {path : String} (plain : '\x00' ∉ path.toList)
    {m : Machine} (cells : m.memory.size = 4096) :
    ((∀ program, ¬ Loadable (files.read path) program) →
      ∃ fault, loadRom files path m = ⟨m, .error fault, []⟩ ∧ fault.family = .rom) ∧
    ∀ program, Loadable (files.read path) program →
      ∃ ready after events, reset m = ⟨ready, .ok (), []⟩ ∧ ready.memory.OnlyGlyphs ∧
        loadRom files path m = ⟨after, .ok program.length, events⟩ ∧
        Loaded ready program after := by
  have read := readProgram_of_plain plain files
  constructor
  · intro refused
    rcases programOf_cases path (files.read path) with
      ⟨fault, failed, family, _⟩ | ⟨program, _, fine⟩
    · exact ⟨fault, loadRom_of_refused (read.trans failed), family⟩
    · exact (refused program fine).elim
  · intro program loadable
    rcases programOf_cases path (files.read path) with ⟨_, _, _, refused⟩ | ⟨same, given, fine⟩
    · exact (refused program loadable).elim
    · -- the reading gave one program only
      have unique : same = program := by
        have readings := fine.1.symm.trans loadable.1
        cases readings
        rfl
      subst unique
      obtain ⟨ready, reset_ok, memory⟩ : ∃ ready, reset m = ⟨ready, .ok (), []⟩ ∧
          ready.memory = m.memory.prepared := ⟨_, reset_of_size (by omega), rfl⟩
      have ready_cells : ready.memory.size = 4096 := by rw [memory, Memory.size_prepared, cells]
      have short := loadable.2.2
      have start : Registers.programStart = 0x200 := rfl
      have loading := loadRom_of_program (read.trans given) reset_ok ready_cells short
      refine ⟨ready, _, _, reset_ok, ?_, loading, loaded_setBytes (by omega)⟩
      rw [memory]
      exact Memory.onlyGlyphs_prepared (by omega)

/-- Two files, of which one is empty. -/
def shelf : Files where
  read path :=
    if path = "maze" then .ok [0x12, 0x34] else if path = "none" then .ok [] else .error .notFound
  directoryOf _ := "/"

/-- A machine that has been used, with a call in progress and accesses in its log. -/
def used : Machine :=
  ⟨Registers.initial.set 1 9, ⟨Array.replicate 4096 0x55, ⟨16, [0x300]⟩, [.read 0x200 0x5555]⟩, 7,
    ⟨defaultScreen, Keypad.idle, .listed (fun _ => 0) 0, .everyCycle⟩⟩

/-- The machine refuses the empty file and is given the other one. -/
theorem load_is_all_or_nothing_of_shelf :
    (∃ fault, loadRom shelf "none" used = ⟨used, .error fault, []⟩ ∧ fault.family = .rom) ∧
      ∃ after events, loadRom shelf "maze" used = ⟨after, .ok 2, events⟩ ∧
        after.memory.byte 0x200 = 0x12 ∧ after.memory.byte 0x201 = 0x34 ∧
        after.memory.byte 0x202 = 0 := by
  have cells : used.memory.size = 4096 := Array.size_replicate
  constructor
  · refine (load_is_all_or_nothing shelf (by decide : '\x00' ∉ "none".toList) cells).1 ?_
    rintro program ⟨reading, some_byte, _⟩
    cases reading
    exact some_byte rfl
  · have loadable : Loadable (shelf.read "maze") [0x12, 0x34] :=
      ⟨rfl, List.cons_ne_nil _ _, by decide⟩
    obtain ⟨ready, after, events, _, glyphs, answered, loaded⟩ :=
      (load_is_all_or_nothing shelf (by decide : '\x00' ∉ "maze".toList) cells).2 _ loadable
    refine ⟨after, events, answered, loaded.placed 0 (by decide), loaded.placed 1 (by decide), ?_⟩
    rw [loaded.others 0x202 (.inr (Nat.le_refl 0x202))]
    exact glyphs.zero 0x202 (.inr (by decide))

end Machine

end Chip8
