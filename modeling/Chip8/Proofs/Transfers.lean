import Chip8.Proofs.Decoding
import Chip8.Proofs.Evaluation
import Chip8.Proofs.MemoryBlocks

/-!
# Transfers that fit

Storing registers, loading registers and drawing a sprite go through the cells from the index
on, one after another.  If the cells exist, none of these loops can fail, and each leaves the
machine that a loop without failures leaves: `stored` and `visited` for the memory, `loaded`
for the registers, `drawnRows` for the screen.
-/

namespace Chip8

set_option autoImplicit false

namespace Registers

/-- The registers after consecutive ones took values, from number `place` on. -/
def loaded (r : Registers) (place : Nat) : List Nat → Registers
  | [] => r
  | value :: rest => (r.set place value).loaded (place + 1) rest

/-- The bytes of consecutive registers. -/
def bytes (r : Registers) (place count : Nat) : List UInt8 :=
  (List.range' place count).map fun k : Nat => UInt8.ofNat (r.get k)

theorem get_initial (x : Int) : initial.get x = 0 := by
  simp only [get, initial, Fin.getElem_fin, Vector.getElem_replicate]

theorem get_set (r : Registers) (x y : Int) (value : Nat) :
    (r.set x value).get y = if place y = place x then value else r.get y := by
  simp only [get, set, Fin.getElem_fin, Vector.getElem_set, Fin.ext_iff, eq_comm]

theorem get_setFlag (r : Registers) (y value : Int) :
    (r.setFlag value).get y = if place y = flagPlace then (value % 256).toNat else r.get y := by
  simp only [get, setFlag, Fin.getElem_fin, Vector.getElem_set, Fin.ext_iff, eq_comm]

@[simp] theorem index_set (r : Registers) (x : Int) (value : Nat) :
    (r.set x value).index = r.index := rfl

@[simp] theorem pc_set (r : Registers) (x : Int) (value : Nat) : (r.set x value).pc = r.pc := rfl

@[simp] theorem index_setFlag (r : Registers) (value : Int) :
    (r.setFlag value).index = r.index := rfl

@[simp] theorem pc_setFlag (r : Registers) (value : Int) : (r.setFlag value).pc = r.pc := rfl

@[simp] theorem v_elapse (r : Registers) (ticks : Int) : (r.elapse ticks).v = r.v := by
  unfold elapse
  split <;> rfl

@[simp] theorem pc_elapse (r : Registers) (ticks : Int) : (r.elapse ticks).pc = r.pc := by
  unfold elapse
  split <;> rfl

@[simp] theorem index_elapse (r : Registers) (ticks : Int) :
    (r.elapse ticks).index = r.index := by
  unfold elapse
  split <;> rfl

@[simp] theorem index_loaded (r : Registers) (place : Nat) (values : List Nat) :
    (r.loaded place values).index = r.index := by
  induction values generalizing r place with
  | nil => rfl
  | cons value rest ih => rw [loaded, ih, index_set]

@[simp] theorem pc_loaded (r : Registers) (place : Nat) (values : List Nat) :
    (r.loaded place values).pc = r.pc := by
  induction values generalizing r place with
  | nil => rfl
  | cons value rest ih => rw [loaded, ih, pc_set]

theorem bytes_succ (r : Registers) (place count : Nat) :
    r.bytes place (count + 1) = UInt8.ofNat (r.get place) :: r.bytes (place + 1) count := by
  simp only [bytes, List.range'_succ, List.map_cons]

@[simp] theorem length_bytes (r : Registers) (place count : Nat) :
    (r.bytes place count).length = count := by
  simp [bytes]

theorem getElem_bytes (r : Registers) (place count k : Nat)
    (inside : k < (r.bytes place count).length) :
    (r.bytes place count)[k] = UInt8.ofNat (r.get (place + k : Nat)) := by
  simp [bytes]

end Registers

namespace Memory

/-- The bytes of consecutive cells. -/
def bytesFrom (memory : Memory) (start count : Nat) : List Nat :=
  (List.range' start count).map memory.byte

theorem bytesFrom_succ (memory : Memory) (start count : Nat) :
    memory.bytesFrom start (count + 1) =
      memory.byte start :: memory.bytesFrom (start + 1) count := by
  simp only [bytesFrom, List.range'_succ, List.map_cons]

@[simp] theorem length_bytesFrom (memory : Memory) (start count : Nat) :
    (memory.bytesFrom start count).length = count := by
  simp [bytesFrom]

theorem getElem_bytesFrom (memory : Memory) (start count k : Nat)
    (inside : k < (memory.bytesFrom start count).length) :
    (memory.bytesFrom start count)[k] = memory.byte (start + k) := by
  simp [bytesFrom]

@[simp] theorem bytesFrom_visited (memory : Memory) (place steps start count : Nat) :
    (memory.visited place steps).bytesFrom start count = memory.bytesFrom start count := by
  simp only [bytesFrom, List.map_inj_left, byte_visited, implies_true]

end Memory

namespace Machine

open Processor

variable {m : Machine} {start : Nat}

theorem require_of_holds {condition : Bool} (holds : condition = true) (fault : Fault) :
    require condition fault = pure () := by
  rw [require, if_pos holds]

theorem isPlace_of_lt {k : Nat} (small : k < 16) : Registers.isPlace (k : Int) = true :=
  IsNibble.isPlace ⟨by omega, by omega⟩

theorem checkRange_of_fits {length : Int} (at_start : m.registers.index = start)
    (fits : length ≤ 0 ∨ start + length ≤ m.memory.size) :
    checkRange m.registers.index length m = ⟨m, .ok (), []⟩ := by
  rw [checkRange, Memory.checkRange_of_fits (by omega) (by omega)]

theorem write_of_inside {place datum : Nat} (inside : place < m.memory.size) (byte : datum < 256) :
    write place datum m =
      ⟨{ m with memory := m.memory.stored place [UInt8.ofNat datum] }, .ok (), []⟩ :=
  changeMemory_of_ok (Memory.write_of_inside inside byte)

theorem fetch_of_inside {place : Nat} (inside : place < m.memory.size) :
    fetch place m =
      ⟨{ m with memory := m.memory.visited place 1 }, .ok (m.memory.window place), []⟩ :=
  withMemory_of_ok (Memory.fetch_of_inside inside)

/-! ## Storing and loading registers -/

/-- **Storing registers that are bytes into cells that exist succeeds.** -/
theorem storeFrom_of_fits (count place : Nat) (at_start : m.registers.index = start)
    (fits : start + place + count ≤ m.memory.size) (places : place + count ≤ 16)
    (bytes : ∀ k < place + count, m.registers.get (k : Nat) < 256) :
    storeFrom count place m =
      ⟨{ m with memory := m.memory.stored (start + place) (m.registers.bytes place count) },
        .ok (), []⟩ := by
  induction count generalizing place m with
  | zero => simp only [storeFrom, Action.pure_apply]; rfl
  | succ count ih =>
      have address : m.registers.index + (place : Int) = ((start + place : Nat) : Int) := by
        omega
      rw [storeFrom, require_of_holds (isPlace_of_lt (by omega)), pure_bind, Action.state_bind,
        address, Action.bind_of_ok (write_of_inside (by omega) (bytes place (by omega))),
        ih (place + 1)]
      · rw [Registers.bytes_succ]
        rfl
      · exact at_start
      · simp only [Memory.size_stored]
        omega
      · omega
      · intro k small
        exact bytes k (by omega)

/-- A write that succeeds puts a byte into a cell that exists. -/
theorem write_ok {address datum : Int} {after : Machine} {events : List Event}
    (ran : write address datum m = ⟨after, .ok (), events⟩) :
    ∃ place value : Nat, address = place ∧ datum = value ∧ value < 256 ∧
      after = { m with memory := m.memory.stored place [UInt8.ofNat value] } := by
  cases written : m.memory.write address datum with
  | error fault =>
      rw [write, changeMemory_of_error written] at ran
      cases ran
  | ok memory =>
      obtain ⟨place, byte, at_place, value, _, rfl⟩ := Memory.stored_of_write written
      rw [write, changeMemory_of_ok written] at ran
      cases ran
      refine ⟨place, byte.toNat, at_place, value, byte.toNat_lt, ?_⟩
      rw [UInt8.ofNat_toNat]

/-- **Storing that succeeds stored registers that are bytes.** -/
theorem storeFrom_ok (count place : Nat) {after : Machine} {events : List Event}
    (at_start : m.registers.index = start)
    (ran : storeFrom count place m = ⟨after, .ok (), events⟩) :
    after = { m with memory := m.memory.stored (start + place) (m.registers.bytes place count) } ∧
      ∀ k : Nat, place ≤ k → k < place + count → m.registers.get k < 256 := by
  induction count generalizing place m events with
  | zero =>
      cases ran
      exact ⟨rfl, fun k _ _ => by omega⟩
  | succ count ih =>
      have address : m.registers.index + (place : Int) = ((start + place : Nat) : Int) := by
        omega
      by_cases named : Registers.isPlace place = true
      · rw [storeFrom, require_of_holds named, pure_bind, Action.state_bind, address] at ran
        obtain ⟨middle, _, _, _, written, rest, _⟩ := Action.ok_of_bind ran
        obtain ⟨cell, value, at_cell, datum, small, rfl⟩ := write_ok written
        obtain rfl : start + place = cell := by omega
        obtain rfl : m.registers.get (place : Nat) = value := by omega
        obtain ⟨stored, bytes⟩ := ih (place + 1) (by exact at_start) rest
        refine ⟨?_, fun k from_place below => ?_⟩
        · rw [stored, Registers.bytes_succ]
          rfl
        · rcases Nat.eq_or_lt_of_le from_place with rfl | later
          · exact small
          · exact bytes k later (by omega)
      · rw [storeFrom, require, if_neg named] at ran
        cases ran

/-- **Loading registers from cells that exist succeeds.** -/
theorem loadFrom_of_fits (count place : Nat) (at_start : m.registers.index = start)
    (fits : start + place + count ≤ m.memory.size) (places : place + count ≤ 16) :
    loadFrom count place m =
      ⟨{ m with
          memory := m.memory.visited (start + place) count
          registers := m.registers.loaded place (m.memory.bytesFrom (start + place) count) },
        .ok (), []⟩ := by
  induction count generalizing place m with
  | zero => simp only [loadFrom, Action.pure_apply]; rfl
  | succ count ih =>
      have address : m.registers.index + (place : Int) = ((start + place : Nat) : Int) := by
        omega
      rw [loadFrom, Action.state_bind, address, Action.bind_of_ok (fetch_of_inside (by omega)),
        require_of_holds (isPlace_of_lt (by omega)), pure_bind, changeRegisters_bind,
        ih (place + 1)]
      · rw [Memory.bytesFrom_succ, Memory.window_div, Memory.bytesFrom_visited]
        rfl
      · exact at_start
      · simp only [Memory.size_visited]
        omega
      · omega

/-! ## Drawing -/

/-- The machine after one row of a sprite, which lies at `place`, was drawn. -/
def drawnRow (column row place : Nat) (m : Machine) : Machine :=
  let drawn := m.devices.screen.flipByte row column (m.memory.byte place)
  { m with
    memory := m.memory.visited place 1
    devices := { m.devices with screen := drawn.1 }
    registers := if drawn.2 then m.registers.setFlag 1 else m.registers }

/-- The machine after up to `count` rows of a sprite were drawn, of which the next one is
number `row`, until the bottom edge. -/
def drawnRows (column top start : Nat) : Nat → Nat → Machine → Machine
  | 0, _, m => m
  | count + 1, row, m =>
    if m.devices.screen.height ≤ (top : Int) + row then m
    else drawnRows column top start count (row + 1) (drawnRow column (top + row) (start + row) m)

@[simp] theorem size_drawnRow (column row place : Nat) (m : Machine) :
    (drawnRow column row place m).memory.size = m.memory.size :=
  Memory.size_visited m.memory place 1

@[simp] theorem index_drawnRow (column row place : Nat) (m : Machine) :
    (drawnRow column row place m).registers.index = m.registers.index := by
  simp only [drawnRow]
  split <;> rfl

/-- **Drawing rows that exist succeeds.** -/
theorem drawRows_of_fits (column top count row : Nat) (at_start : m.registers.index = start)
    (fits : start + row + count ≤ m.memory.size) :
    drawRows column top count row m =
      ⟨drawnRows column top start count row m, .ok (), []⟩ := by
  induction count generalizing row m with
  | zero => rfl
  | succ count ih =>
      have address : m.registers.index + (row : Int) = ((start + row : Nat) : Int) := by omega
      have line : ((top : Int) + (row : Int)).toNat = top + row := by omega
      rw [drawRows, drawnRows, Action.state_bind]
      by_cases bottom : m.devices.screen.height ≤ (top : Int) + row
      · rw [if_pos bottom, if_pos bottom]
        rfl
      · rw [if_neg bottom, if_neg bottom, address,
          Action.bind_of_ok (fetch_of_inside (by omega)), line, Memory.window_div, ← ih (row + 1)]
        · simp only [drawnRow, changeDevices_bind]
          split <;> rfl
        · rw [index_drawnRow, at_start]
        · rw [size_drawnRow]
          omega

end Machine

end Chip8
