import Chip8.Proofs.Arithmetic
import Chip8.Proofs.Footprint
import Chip8.Proofs.History

/-!
# Registers saved in memory

A program saves registers by storing them where the index points, and gets them back by loading them
from there.  Storing and loading go through the same cells in the same order, and each access is
logged, so that what was stored is what is loaded as long as no record in between shows a store in
these cells (`SpareRun.same`).  This does not depend on where the cells lie: of the window that is
read at the last cell of the memory only the upper half counts.

The decimal digits of a register are saved in the same way, in three cells, and they too can be
loaded (`save_laws`).
-/

namespace Chip8

set_option autoImplicit false

/-! ## Single registers and cells of a transfer -/

namespace Registers

variable {r : Registers} {place : Nat} {values : List Nat} {z : Fin 16}

theorem v_loaded_of_outside (fits : place + values.length ≤ 16)
    (outside : (z : Nat) < place ∨ place + values.length ≤ z) :
    (r.loaded place values).v.get z = r.v.get z := by
  induction values generalizing r place with
  | nil => rfl
  | cons value rest ih =>
      rw [List.length_cons] at fits outside
      have apart : z ≠ ⟨place, by omega⟩ := by
        rintro rfl
        simp only at outside
        omega
      have first := v_set r ⟨place, by omega⟩ z value
      rw [if_neg apart] at first
      rw [loaded, ih (by omega) (by omega)]
      exact first

theorem v_loaded_of_inside (fits : place + values.length ≤ 16) {k : Nat}
    (at_place : (z : Nat) = place + k) (inside : k < values.length) :
    (r.loaded place values).v.get z = values[k] := by
  induction values generalizing r place k with
  | nil => cases inside
  | cons value rest ih =>
      rw [List.length_cons] at fits
      rw [loaded]
      cases k with
      | zero =>
          -- the registers that are loaded later are not this one
          have here : z = ⟨place, by omega⟩ := Fin.ext at_place
          have first := v_set r ⟨place, by omega⟩ z value
          rw [if_pos here] at first
          rw [v_loaded_of_outside (by omega) (by omega)]
          exact first
      | succ k =>
          exact ih (by omega) (by omega) (Nat.lt_of_succ_lt_succ inside)

end Registers

namespace Memory

/-- Each stored register has its record, in order. -/
theorem log_stored_bytes (memory : Memory) (r : Registers) (start place count : Nat)
    (bytes : ∀ k : Nat, place ≤ k → k < place + count → r.get k < 256) :
    (memory.stored (start + place) (r.bytes place count)).log =
      memory.log ++ (List.range' place count).map fun k : Nat => .write (start + k) (r.get k) := by
  induction count generalizing memory place with
  | zero => exact (List.append_nil _).symm
  | succ count ih =>
      have byte : (UInt8.ofNat (r.get (place : Nat))).toNat = r.get (place : Nat) := by
        rw [UInt8.toNat_ofNat']
        exact Nat.mod_eq_of_lt (bytes place (Nat.le_refl place) (by omega))
      rw [Registers.bytes_succ, stored, Nat.add_assoc,
        ih _ (place + 1) fun k later below => bytes k (by omega) (by omega),
        record, byte, List.range'_succ, List.map_cons, List.append_assoc]
      rfl

/-- Three digits stored one after another. -/
theorem byte_stored_digits (memory : Memory) {start hundreds tens ones : Nat}
    (digits : hundreds < 10 ∧ tens < 10 ∧ ones < 10) (fits : start + 3 ≤ memory.size) :
    let later := memory.stored start
      [UInt8.ofNat hundreds, UInt8.ofNat tens, UInt8.ofNat ones]
    later.byte start = hundreds ∧ later.byte (start + 1) = tens ∧
      later.byte (start + 2) = ones := by
  have byte {k : Nat}
      (inside : k < [UInt8.ofNat hundreds, UInt8.ofNat tens, UInt8.ofNat ones].length) :=
    memory.byte_stored_of_inside inside fits
  have back {digit : Nat} (small : digit < 10) : (UInt8.ofNat digit).toNat = digit := by
    rw [UInt8.toNat_ofNat']
    omega
  obtain ⟨first, second, third⟩ := digits
  exact ⟨(byte (k := 0) (by simp)).trans (back first),
    (byte (k := 1) (by simp)).trans (back second),
    (byte (k := 2) (by simp)).trans (back third)⟩

end Memory

namespace Machine

variable {m after : Machine} {x : Fin 16} {record : Snapshot Registers} {events : List Event}

/-! ## Runs that spare some cells -/

/-- The addresses of `count` cells from a base on. -/
def InBlock (base : Int) (count address : Nat) : Prop := base ≤ address ∧ address < base + count

/-- A run of cycles, one after another, whose records show no store in some cells.  Before, between
and after the cycles anything may happen that leaves the cells of the memory alone.  A cycle that
fails has no record; the general registers hold bytes then. -/
inductive SpareRun (kept : Nat → Prop) : Machine → Machine → Prop where
  | rest {m next : Machine} (cells : next.memory.cells = m.memory.cells) : SpareRun kept m next
  | cycle {m before next : Machine} (cells : before.memory.cells = m.memory.cells)
      (spares : ∀ record, before.finished? = some record →
        ∀ address byte, .write address byte ∈ record.accesses → ¬ kept address)
      (failed : before.finished? = none → before.HoldsBytes)
      (further : SpareRun kept (step before).state next) : SpareRun kept m next

/-- **What a run spares stays as it is.** -/
theorem SpareRun.same {kept : Nat → Prop} {next : Machine} (run : SpareRun kept m next) :
    next.memory.size = m.memory.size ∧
      ∀ address, kept address → next.memory.byte address = m.memory.byte address := by
  induction run with
  | rest cells =>
      refine ⟨congrArg Array.size cells, fun address _ => ?_⟩
      rw [Memory.byte, Memory.byte, cells]
  | @cycle m before next cells spares failed _ ih =>
      obtain ⟨size, bytes⟩ := ih
      refine ⟨?_, fun address inside => ?_⟩
      · rw [size, before.step_changes_only.size]
        exact congrArg Array.size cells
      · have spared := byte_step_of_spared
          (fun record finished byte stored => spares record finished address byte stored inside)
          failed
        rw [bytes address inside, spared, Memory.byte, Memory.byte, cells]

/-! ## Cycles that save and load -/

/-- The fields of a word of the family `0xF`. -/
theorem fields_of_transfer (code : Nat) (small : code < 256)
    (word : m.word = 0xF000 + code + 0x100 * x) :
    m.opcode.family = 0xF000 ∧ m.opcode.x = (x : Nat) ∧ m.opcode.nn = code := by
  have x_small := x.isLt
  simp only [opcode, Opcode.decode, word]
  omega

theorem denotes_store (word : m.word = 0xF055 + 0x100 * x) :
    Instruction.Denotes m.opcode (.storeRegisters (x : Nat)) := by
  obtain ⟨family, register, code⟩ := fields_of_transfer 0x55 (by decide) word
  exact register ▸ .storeRegisters family code

theorem denotes_load (word : m.word = 0xF065 + 0x100 * x) :
    Instruction.Denotes m.opcode (.loadRegisters (x : Nat)) := by
  obtain ⟨family, register, code⟩ := fields_of_transfer 0x65 (by decide) word
  exact register ▸ .loadRegisters family code

theorem denotes_digits (word : m.word = 0xF033 + 0x100 * x) :
    Instruction.Denotes m.opcode (.storeDecimal (x : Nat)) := by
  obtain ⟨family, register, code⟩ := fields_of_transfer 0x33 (by decide) word
  exact register ▸ .storeDecimal family code

/-- What a cycle does that loads registers from the cells that the index points at. -/
structure Loads (m : Machine) (x : Fin 16) (after : Machine) (record : Snapshot Registers) :
    Prop where
  values : ∀ z ≤ x, after.registers.v.get z = m.memory.byte (m.registers.index.toNat + z)
  others : ∀ z, x < z → after.registers.v.get z = m.registers.v.get z
  index : after.registers.index = m.registers.index
  cells : after.memory.cells = m.memory.cells
  accesses : record.accesses = .read m.registers.pc.toNat m.word ::
    (List.range (x + 1)).map fun k =>
      .read (m.registers.index.toNat + k) (m.memory.window (m.registers.index.toNat + k))

/-- **Registers are loaded from any cells that exist.** -/
theorem step_of_load (inside : m.Inside) (word : m.word = 0xF065 + 0x100 * x)
    (nonneg : 0 ≤ m.registers.index) (fits : m.registers.index + (x : Nat) < m.memory.size) :
    ∃ after record, step m = ⟨after, .ok record, []⟩ ∧ m.Loads x after record := by
  have denotes := denotes_load word
  have at_start := (Int.toNat_of_nonneg nonneg).symm
  have count : ((x : Nat) + 1 : Int).toNat = x + 1 := by omega
  have loaded := loadAll_of_fits (m := m.fetched) (isNibble_fin x) at_start
    (show _ ≤ (m.memory.size : Int) by omega)
  rw [count] at loaded
  have same := step_changes_only m
  rw [step_of_effect inside denotes loaded, Opcode.footprint_of_denotes denotes] at same
  refine ⟨_, _, step_of_effect inside denotes loaded, ?_, ?_, ?_, ?_, ?_⟩
  · intro z below
    have inside : (z : Nat) < (m.memory.bytesFrom m.registers.index.toNat (x + 1)).length := by
      rw [Memory.length_bytesFrom]
      omega
    refine (Registers.v_loaded_of_inside ?_ (Nat.zero_add z).symm inside).trans
      (Memory.getElem_bytesFrom _ _ _ _ inside)
    rw [Memory.length_bytesFrom]
    omega
  · intro z above
    refine Registers.v_loaded_of_outside ?_ ?_
    · rw [Memory.length_bytesFrom]
      omega
    · rw [Memory.length_bytesFrom]
      omega
  · exact same.registers.index (by simp [Instruction.footprint])
  · exact same.cells (by simp [Instruction.footprint])
  · refine (Memory.log_visited _ _ _).trans ?_
    rw [List.range'_eq_map_range, List.map_map]
    rfl

/-- Whenever registers are loaded later on from where the index pointed, and nothing was stored in
between in some cells there, the load succeeds and the registers obey a law. -/
def Restores (m : Machine) (index : Int) (count : Nat) (y : Fin 16)
    (law : (Fin 16 → Nat) → Prop) : Prop :=
  ∀ next, SpareRun (InBlock index count) m next → next.Inside →
    next.word = 0xF065 + 0x100 * y → next.registers.index = index →
      ∃ loaded reading, step next = ⟨loaded, .ok reading, []⟩ ∧ next.Loads y loaded reading ∧
        law loaded.registers.v.get

theorem Restores.mono {index : Int} {count : Nat} {y : Fin 16} {law weaker : (Fin 16 → Nat) → Prop}
    (restores : m.Restores index count y law) (implied : ∀ new, law new → weaker new) :
    m.Restores index count y weaker := by
  intro next run inside word same
  obtain ⟨loaded, reading, cycle, loads, holds⟩ := restores next run inside word same
  exact ⟨loaded, reading, cycle, loads, implied _ holds⟩

/-- **What a machine holds in some cells is what is loaded from them later on.** -/
theorem restores_of_reaches {start count : Nat} {y : Fin 16} (reaches : start + y < m.memory.size) :
    m.Restores start count y fun new =>
      ∀ z ≤ y, (z : Nat) < count → new z = m.memory.byte (start + z) := by
  intro next run inside word same
  obtain ⟨size, spared⟩ := run.same
  obtain ⟨loaded, reading, cycle, loads⟩ := step_of_load inside word (by omega) (by omega)
  refine ⟨loaded, reading, cycle, loads, fun z below small => ?_⟩
  rw [loads.values z below, same, Int.toNat_natCast]
  exact spared (start + z) ⟨by omega, by omega⟩

/-- What a cycle does that stores registers in the cells that the index points at. -/
structure Saves (m : Machine) (x : Fin 16) (after : Machine) (record : Snapshot Registers) :
    Prop where
  registers : after.registers = m.registers.advance
  accesses : record.accesses = .read m.registers.pc.toNat m.word ::
    (List.range (x + 1)).map fun k : Nat =>
      .write (m.registers.index.toNat + k) (m.registers.get k)
  /-- The registers come back with their values. -/
  restores : after.Restores m.registers.index (x + 1) x fun new =>
    ∀ z ≤ x, new z = m.registers.v.get z

/-- **Registers that were stored can be loaded.** -/
theorem saves_of_store (word : m.word = 0xF055 + 0x100 * x)
    (cycle : step m = ⟨after, .ok record, events⟩) : m.Saves x after record := by
  have denotes := denotes_store word
  obtain ⟨executed, _, stored, rfl, rfl⟩ := executed_of_cycle denotes cycle
  obtain ⟨start, at_start, fits, bytes, left⟩ := storeAll_ok (isNibble_fin x) stored
  have count : ((x : Nat) + 1 : Int).toNat = x + 1 := by omega
  have index : m.registers.index = start := at_start
  have size : m.fetched.memory.size = m.memory.size := rfl
  have length := m.fetched.registers.length_bytes 0 (x + 1)
  rw [count] at left
  rw [Int.toNat_natCast] at bytes
  refine ⟨?_, ?_, ?_⟩
  · rw [left]
    rfl
  · rw [left, List.range_eq_range', index, Int.toNat_natCast]
    exact m.fetched.memory.log_stored_bytes m.fetched.registers start 0 (x + 1)
      fun k _ below => bytes k (by omega)
  · have reaches : start + x < executed.counted.memory.size := by
      rw [left]
      refine Nat.lt_of_lt_of_eq ?_ (m.fetched.memory.size_stored start _).symm
      omega
    rw [index]
    refine (restores_of_reaches reaches).mono fun new loaded z below => ?_
    have inside : (z : Nat) < (m.fetched.registers.bytes 0 (x + 1)).length := by omega
    have byte : (m.fetched.memory.stored start
        (m.fetched.registers.bytes 0 (x + 1))).byte (start + z) = _ :=
      m.fetched.memory.byte_stored_of_inside inside (by omega)
    rw [Registers.getElem_bytes, Nat.zero_add, UInt8.toNat_ofNat',
      Nat.mod_eq_of_lt (bytes z (by omega)), get_fetched] at byte
    rw [loaded z below (by omega), left]
    exact byte

/-- **Registers that are bytes can be stored in any cells that exist.** -/
theorem step_of_store (inside : m.Inside) (word : m.word = 0xF055 + 0x100 * x)
    (nonneg : 0 ≤ m.registers.index) (fits : m.registers.index + (x : Nat) < m.memory.size)
    (bytes : ∀ z ≤ x, m.registers.v.get z < 256) :
    ∃ after record, step m = ⟨after, .ok record, []⟩ := by
  have denotes := denotes_store word
  have at_start := (Int.toNat_of_nonneg nonneg).symm
  refine ⟨_, _, step_of_effect inside denotes (storeAll_of_fits (isNibble_fin x) at_start ?_ ?_)⟩
  · intro k small
    rw [Int.toNat_natCast] at small
    have named := get_fetched m ⟨k, by omega⟩
    rw [named]
    exact bytes _ small
  · show _ ≤ (m.memory.size : Int)
    omega

/-! ## Decimal digits -/

/-- What a cycle does that stores the decimal digits of a register: three digits that make the last
byte of its value, which in a register that holds a byte is the value itself. -/
structure SavesDigits (m : Machine) (x : Fin 16) (after : Machine) (hundreds tens ones : Nat) :
    Prop where
  digits : hundreds < 10 ∧ tens < 10 ∧ ones < 10
  value : 100 * hundreds + 10 * tens + ones = m.registers.v.get x % 256
  registers : after.registers = m.registers.advance
  cells : after.memory.byte m.registers.index.toNat = hundreds ∧
    after.memory.byte (m.registers.index.toNat + 1) = tens ∧
    after.memory.byte (m.registers.index.toNat + 2) = ones
  /-- The digits come back in the first three registers. -/
  restores : ∀ y : Fin 16, 2 ≤ (y : Nat) → m.registers.index + (y : Nat) < m.memory.size →
    after.Restores m.registers.index 3 y fun new => new 0 = hundreds ∧ new 1 = tens ∧ new 2 = ones

/-- **The decimal digits of a register can be stored in any three cells that exist.** -/
theorem step_of_digits (inside : m.Inside) (word : m.word = 0xF033 + 0x100 * x)
    (nonneg : 0 ≤ m.registers.index) (fits : m.registers.index + 2 < m.memory.size) :
    ∃ after record, step m = ⟨after, .ok record, []⟩ := by
  have denotes := denotes_digits word
  have at_start := (Int.toNat_of_nonneg nonneg).symm
  refine ⟨_, _, step_of_effect inside denotes (storeDigits_of_fits (x : Nat) at_start ?_)⟩
  show _ ≤ m.memory.size
  omega

/-- **Decimal digits that were stored can be loaded.** -/
theorem savesDigits_of_store (word : m.word = 0xF033 + 0x100 * x)
    (cycle : step m = ⟨after, .ok record, events⟩) :
    ∃ hundreds tens ones, m.SavesDigits x after hundreds tens ones := by
  have denotes := denotes_digits word
  obtain ⟨executed, _, stored, rfl, rfl⟩ := executed_of_cycle denotes cycle
  obtain ⟨start, at_start, fits, left⟩ := storeDigits_ok stored
  rw [get_fetched] at left
  have index : m.registers.index = start := at_start
  have size : m.fetched.memory.size = m.memory.size := rfl
  have stored_size := m.fetched.memory.size_stored start
  have byte : m.registers.v.get x % 256 < 256 := Nat.mod_lt _ (by decide)
  generalize named : m.registers.v.get x % 256 = value at left byte
  have digits : value / 100 < 10 ∧ value / 10 % 10 < 10 ∧ value % 10 < 10 := by omega
  have cells : executed.counted.memory.byte start = value / 100 ∧
      executed.counted.memory.byte (start + 1) = value / 10 % 10 ∧
      executed.counted.memory.byte (start + 2) = value % 10 := by
    rw [left]
    exact m.fetched.memory.byte_stored_digits digits (by omega)
  refine ⟨value / 100, value / 10 % 10, value % 10, digits, by omega, ?_, ?_, ?_⟩
  · rw [left]
    rfl
  · rw [index]
    exact cells
  · intro y two reaches
    obtain ⟨first, second, third⟩ := cells
    rw [index]
    refine (restores_of_reaches ?_).mono fun new loaded => ⟨?_, ?_, ?_⟩
    · rw [left]
      refine Nat.lt_of_lt_of_eq ?_ (stored_size _).symm
      omega
    · exact (loaded 0 (Nat.zero_le _) (by decide)).trans first
    · exact (loaded 1 (Nat.le_of_succ_le two) (by decide)).trans second
    · exact (loaded 2 two (by decide)).trans third

/-! ## The laws of saving -/

/-- The laws of the words that store registers, load them and store decimal digits. -/
structure SaveLaws (m : Machine) (x : Fin 16) : Prop where
  stores : m.Inside → m.word = 0xF055 + 0x100 * x → 0 ≤ m.registers.index →
    m.registers.index + (x : Nat) < m.memory.size → (∀ z ≤ x, m.registers.v.get z < 256) →
      ∃ after record, step m = ⟨after, .ok record, []⟩
  saves : m.word = 0xF055 + 0x100 * x → ∀ after record events,
    step m = ⟨after, .ok record, events⟩ → m.Saves x after record
  loads : m.Inside → m.word = 0xF065 + 0x100 * x → 0 ≤ m.registers.index →
    m.registers.index + (x : Nat) < m.memory.size →
      ∃ after record, step m = ⟨after, .ok record, []⟩ ∧ m.Loads x after record
  storesDigits : m.Inside → m.word = 0xF033 + 0x100 * x → 0 ≤ m.registers.index →
    m.registers.index + 2 < m.memory.size → ∃ after record, step m = ⟨after, .ok record, []⟩
  savesDigits : m.word = 0xF033 + 0x100 * x → ∀ after record events,
    step m = ⟨after, .ok record, events⟩ →
      ∃ hundreds tens ones, m.SavesDigits x after hundreds tens ones

/-- **Registers and digits that a program saves it can get back**, from any cells that exist, after
any run that spares these cells. -/
theorem save_laws (m : Machine) (x : Fin 16) : m.SaveLaws x where
  stores := step_of_store
  saves := fun word _ _ _ => saves_of_store word
  loads := step_of_load
  storesDigits := step_of_digits
  savesDigits := fun word _ _ _ => savesDigits_of_store word

/-- A machine that stores its first two registers in its last two cells, clears them and loads
them. -/
def saving : Machine :=
  { ofWord 0xF1 0x55 .everyCycle with
    registers := { (Registers.initial.set 0 7).set 1 200 with pc := 0, index := 8 }
    memory := ⟨#[0xF1, 0x55, 0x60, 0x00, 0x61, 0x00, 0xF1, 0x65, 0, 0], ⟨1, []⟩, []⟩ }

/-- The same machine after so many cycles. -/
def savingAfter : Nat → Machine
  | 0 => saving
  | k + 1 => (step (savingAfter k)).state

/-- It clears the two registers in two cycles that store nothing, and gets their values back. -/
theorem saving_gets_back : saving.SaveLaws 1 ∧
    (savingAfter 3).registers.v.get 0 = 0 ∧ (savingAfter 3).registers.v.get 1 = 0 ∧
    ∃ loaded reading, step (savingAfter 3) = ⟨loaded, .ok reading, []⟩ ∧
      loaded.registers.v.get 0 = 7 ∧ loaded.registers.v.get 1 = 200 := by
  have laws := save_laws saving 1
  obtain ⟨after, record, cycle⟩ := laws.stores (by decide) (by decide) (by decide) (by decide)
    (by decide)
  have saves := laws.saves (by decide) after record [] cycle
  have stored : after = savingAfter 1 := by
    rw [savingAfter, savingAfter, cycle]
  have spares {m : Machine} {read : Snapshot Registers} (finished : m.finished? = some read)
      (only_reads : read.accesses.all fun access => access matches .read _ _) :
      ∀ record, m.finished? = some record → ∀ address byte,
        .write address byte ∈ record.accesses → ¬ InBlock 8 2 address := by
    intro record same address byte written
    rw [finished] at same
    cases same
    cases List.all_eq_true.mp only_reads _ written
  have run : SpareRun (InBlock 8 2) after (savingAfter 3) := by
    rw [stored]
    exact .cycle rfl (spares rfl rfl) nofun (.cycle rfl (spares rfl rfl) nofun (.rest rfl))
  obtain ⟨loaded, reading, again, _, values⟩ :=
    saves.restores (savingAfter 3) run (by decide) (by decide) rfl
  exact ⟨laws, rfl, rfl, loaded, reading, again, values 0 (by decide), values 1 (by decide)⟩

end Machine

end Chip8
