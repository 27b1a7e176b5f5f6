import Chip8.Proofs.InstructionText
import Chip8.Proofs.MemoryCalls

/-!
# Linear sweeps

A disassembly has a line for every second address from the first on, as long as there are cells and
the stretch lasts.  How many lines these are is found from the bounds alone (`lineCount`), and none
of the peeks at their addresses can fail (`sweep_of_inside`).

A line shows what the record of a cycle shows that executes its word, whatever the cycle does to the
memory afterwards: both are written from the word as it was fetched, the digits of which are those
of its two bytes (`shows_of_step`).
-/

namespace Chip8

set_option autoImplicit false

open Text

/-! ## The lines of a stretch -/

namespace Memory

/-- The line of the word at an address. -/
def lineAt (memory : Memory) (address : Nat) : Line := .ofWord address (memory.window address)

/-- The lines of `count` words, one behind the other. -/
def linesFrom (memory : Memory) (start count : Nat) : List Line :=
  (List.range count).map fun k => memory.lineAt (start + 2 * k)

/-- The number of words that start in a stretch of the memory, at every second address. -/
def lineCount (memory : Memory) (start length : Int) : Nat :=
  ((min (start + length) memory.size - start + 1) / 2).toNat

variable {memory : Memory} {start : Nat} {length : Int}

theorem lt_lineCount_iff {start : Int} (k : Nat) :
    k < memory.lineCount start length ↔ start + 2 * k < min (start + length) memory.size := by
  unfold lineCount
  omega

/-- The words of a stretch in two parts.  If the first part has fewer words than it is long, the
memory ends there. -/
theorem lineCount_add (memory : Memory) (start : Int) (k more : Nat) :
    memory.lineCount start (2 * k + more) =
        memory.lineCount start (2 * k) + memory.lineCount (start + 2 * k) more ∧
      (memory.lineCount start (2 * k) = k ∨ memory.lineCount (start + 2 * k) more = 0) := by
  unfold lineCount
  omega

theorem linesFrom_succ (memory : Memory) (start count : Nat) :
    memory.linesFrom start (count + 1) =
      memory.lineAt start :: memory.linesFrom (start + 2) count := by
  rw [linesFrom, List.range_succ_eq_map, List.map_cons, List.map_map]
  refine congrArg (memory.lineAt start :: ·) (List.map_congr_left fun k _ => ?_)
  show memory.lineAt (start + 2 * (k + 1)) = memory.lineAt (start + 2 + 2 * k)
  congr 1
  omega

theorem linesFrom_add (memory : Memory) (start early late : Nat) :
    memory.linesFrom start (early + late) =
      memory.linesFrom start early ++ memory.linesFrom (start + 2 * early) late := by
  rw [linesFrom, List.range_add, List.map_append, List.map_map]
  refine congrArg (memory.linesFrom start early ++ ·) (List.map_congr_left fun k _ => ?_)
  show memory.lineAt (start + 2 * (early + k)) = memory.lineAt (start + 2 * early + 2 * k)
  congr 1
  omega

/-- **A sweep over cells that exist finds its lines.** -/
theorem sweep_of_inside {count : Nat} (inside : ∀ k < count, start + 2 * k < memory.size) :
    memory.sweep start count = .ok (memory.linesFrom start count) := by
  induction count generalizing start with
  | zero => rfl
  | succ count ih =>
      have here : start < memory.size := inside 0 (Nat.succ_pos count)
      have next : (start : Int) + 2 = ((start + 2 : Nat) : Int) := by omega
      have further : memory.sweep (start + 2 : Nat) count =
          .ok (memory.linesFrom (start + 2) count) := by
        refine ih fun k small => ?_
        have := inside (k + 1) (Nat.succ_lt_succ small)
        omega
      rw [sweep, peek_of_inside here, linesFrom_succ, next, further]
      rfl

theorem disassemble_eq (memory : Memory) (start : Nat) (length : Int) :
    memory.disassemble start length =
      .ok (memory.linesFrom start (memory.lineCount start length)) := by
  refine sweep_of_inside fun k below => ?_
  have := (lt_lineCount_iff k).mp below
  omega

end Memory

/-! ## Lines and records -/

/-- A line shows what the record of a cycle shows: the same text and the same two bytes. -/
structure Line.Shows (line : Line) (record : Snapshot Registers) : Prop where
  text : line.text = record.text
  bytes : ∃ high low : String, high.length = 2 ∧ low.length = 2 ∧
    line.bytes = high ++ " " ++ low ∧ record.operation.digits = high ++ low

theorem Text.length_byteHex {n : Nat} (byte : n < 256) : (byteHex n).length = 2 := by
  rw [← String.length_toList, toList_byteHex byte]
  rfl

/-- Every word is shown by its digits, whether it has an instruction or not. -/
theorem Operation.digits_ofOpcode (op : Opcode) :
    (Operation.ofOpcode op).digits = upperHex 4 op.word := by
  unfold ofOpcode
  split
  · rfl
  · rfl

/-- **A line shows what executing its word shows**, also if the word is no longer there after the
cycle. -/
theorem Memory.shows_of_step {memory : Memory} {address : Nat} {m after : Machine}
    {record : Snapshot Registers} {events : List Event} (cells : m.memory.cells = memory.cells)
    (counter : m.registers.pc = address)
    (cycle : Machine.step m = ⟨after, .ok record, events⟩) :
    (memory.lineAt address).Shows record := by
  obtain ⟨_, executed, _, _, rfl⟩ := Machine.step_ok cycle
  have word : memory.window address = m.word := by
    rw [Machine.word, counter, Int.toNat_natCast, window_of_cells cells]
  have below := m.word_lt
  have whole : m.opcode.word = (m.word : Int) := by
    simp only [Machine.opcode, Opcode.decode]
    omega
  rw [lineAt, word]
  refine ⟨rfl, byteHex (m.word / 256 : Nat), byteHex (m.word % 256 : Nat),
    length_byteHex (by omega), length_byteHex (by omega), rfl, ?_⟩
  rw [← upperHex_word, ← whole]
  exact Operation.digits_ofOpcode m.opcode

/-! ## Disassemblies -/

namespace Memory

open MemoryCall (act)

/-- Peeks leave a memory as it is, its log included. -/
theorem after_peeks (memory : Memory) (addresses : List Int) :
    memory.after (addresses.map .peek) = memory := by
  induction addresses with
  | nil => rfl
  | cons address rest ih =>
      rw [List.map_cons, after, ih]
      rfl

/-- The lines of a stretch of a memory. -/
structure Sweeps (memory : Memory) (start length : Int) (lines : List Line) : Prop where
  /-- There is a line for every second address in the stretch and in the memory, and no other. -/
  count : ∀ k : Nat, k < lines.length ↔ start + 2 * k < min (start + length) memory.size
  addresses : ∀ (k : Nat) (inside : k < lines.length), lines[k].address = start + 2 * k
  /-- Each line shows what is executed there. -/
  shows : ∀ line ∈ lines, ∀ m after record events, m.memory.cells = memory.cells →
    m.registers.pc = line.address → Machine.step m = ⟨after, .ok record, events⟩ →
      line.Shows record
  /-- Each line is written from the answer to a peek. -/
  peeks : ∀ line ∈ lines, ∃ word, act (.peek line.address) memory = ⟨memory, .ok (.word word), []⟩ ∧
    line = .ofWord line.address word
  unchanged : memory.after ((lines.map Line.address).map .peek) = memory

variable {memory : Memory}

theorem sweeps_linesFrom (memory : Memory) (start : Nat) (length : Int) :
    memory.Sweeps start length (memory.linesFrom start (memory.lineCount start length)) := by
  have total : (memory.linesFrom start (memory.lineCount start length)).length =
      memory.lineCount start length := by
    rw [linesFrom, List.length_map, List.length_range]
  have at_place {line : Line}
      (member : line ∈ memory.linesFrom start (memory.lineCount start length)) :
      ∃ address, address < memory.size ∧ line = memory.lineAt address := by
    obtain ⟨k, below, rfl⟩ := List.mem_map.mp member
    have inside := (lt_lineCount_iff k).mp (List.mem_range.mp below)
    exact ⟨start + 2 * k, by omega, rfl⟩
  refine ⟨fun k => ?_, fun k inside => ?_, ?_, ?_, after_peeks memory _⟩
  · rw [total]
    exact lt_lineCount_iff k
  · simp only [linesFrom, List.getElem_map, List.getElem_range]
    exact Int.natCast_add start (2 * k)
  · intro line member m after record events cells counter cycle
    obtain ⟨address, _, rfl⟩ := at_place member
    exact shows_of_step cells counter cycle
  · intro line member
    obtain ⟨address, inside, rfl⟩ := at_place member
    refine ⟨memory.window address, ?_, rfl⟩
    have peeked : memory.peek address = .ok (memory.window address) := peek_of_inside inside
    show (⟨memory, (memory.peek address).map .word, []⟩ : Outcome Memory MemoryReply) = _
    rw [peeked]
    rfl

/-- Two stretches that meet are swept as one. -/
theorem disassemble_append (memory : Memory) (start k more : Nat) :
    ∃ early late, memory.disassemble start (2 * k) = .ok early ∧
      memory.disassemble (start + 2 * k) more = .ok late ∧
      memory.disassemble start (2 * k + more) = .ok (early ++ late) := by
  have middle : (start : Int) + 2 * k = ((start + 2 * k : Nat) : Int) := by omega
  obtain ⟨total, parts⟩ := memory.lineCount_add start k more
  rw [middle] at total parts ⊢
  refine ⟨_, _, memory.disassemble_eq start (2 * k), memory.disassemble_eq (start + 2 * k) more, ?_⟩
  rw [disassemble_eq, total]
  rcases parts with full | none
  · rw [linesFrom_add, full]
  · rw [none]
    exact congrArg Except.ok (List.append_nil _).symm

/-- **A disassembly is complete**: it has a line for every second address of its stretch, which
shows what is executed there, and leaves the memory as it is.  Stretches that meet are swept as
one. -/
theorem disassemble_sweeps (memory : Memory) {start : Int} (nonneg : 0 ≤ start) (length : Int) :
    (∃ lines, memory.disassemble start length = .ok lines ∧ memory.Sweeps start length lines) ∧
      ∀ k more : Nat, ∃ early late, memory.disassemble start (2 * k) = .ok early ∧
        memory.disassemble (start + 2 * k) more = .ok late ∧
        memory.disassemble start (2 * k + more) = .ok (early ++ late) := by
  obtain ⟨start, rfl⟩ := Int.eq_ofNat_of_zero_le nonneg
  exact ⟨⟨_, memory.disassemble_eq start length, memory.sweeps_linesFrom start length⟩,
    memory.disassemble_append start⟩

/-- A machine with three cells, of which the first two hold the word that it executes.  It stores a
register in the first of them. -/
def overwriting : Machine :=
  { Machine.ofWord 0 0 .everyCycle with memory := ⟨#[0xF0, 0x55, 0xA2], ⟨1, []⟩, []⟩ }

/-- The line of the word shows the cycle, though the cycle overwrites the word, and the last cell
has a line of its own. -/
theorem sweep_of_overwriting : (0 : Int) ≤ 0 ∧
    ∃ first last, overwriting.memory.disassemble 0 100 = .ok [first, last] ∧ last.address = 2 ∧
      ∃ after record, Machine.step overwriting = ⟨after, .ok record, []⟩ ∧
        after.memory.window 0 ≠ overwriting.memory.window 0 ∧ first.Shows record := by
  have nonneg : (0 : Int) ≤ 0 := by decide
  obtain ⟨⟨lines, found, sweeps⟩, _⟩ := disassemble_sweeps overwriting.memory nonneg 100
  obtain ⟨record, cycle⟩ : ∃ record, Machine.step overwriting =
      ⟨(Machine.step overwriting).state, .ok record, []⟩ := ⟨_, rfl⟩
  have both : [overwriting.memory.lineAt 0, overwriting.memory.lineAt 2] = lines :=
    Except.ok.inj ((overwriting.memory.disassemble_eq 0 100).symm.trans found)
  subst both
  exact ⟨nonneg, _, _, found, rfl, _, record, cycle, by decide,
    sweeps.shows _ (.head _) _ _ _ _ rfl rfl cycle⟩

end Memory

end Chip8
