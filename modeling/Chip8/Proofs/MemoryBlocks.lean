import Chip8.Memory

/-!
# Blocks of cells

Instructions that work on several cells first test that the whole block exists and then go
through it cell by cell.  Once the test has passed, no access of the block can fail: the
memory afterwards is `stored`, where a block was written, or `visited`, where it was read,
and both are functions without a failure.

The test looks at the first and the last cell only.  For an address that is not negative this
is the same as asking for all of them (`checkRange_of_fits`), and a block that does not fit is
refused with the first of the two that does not exist (`checkRange_of_reaches`).
-/

namespace Chip8.Memory

set_option autoImplicit false

/-! ## Testing a block -/

theorem holds_iff (memory : Memory) (address : Int) :
    memory.holds address = true ↔ 0 ≤ address ∧ address < memory.size := by
  simp [holds]

theorem checkAddress_of_holds {memory : Memory} {address : Int}
    (inside : 0 ≤ address ∧ address < memory.size) : memory.checkAddress address = .ok () := by
  rw [checkAddress, if_pos ((holds_iff memory address).mpr inside)]

theorem checkAddress_of_not_holds {memory : Memory} {address : Int}
    (outside : ¬ (0 ≤ address ∧ address < memory.size)) :
    memory.checkAddress address = .error (.addressOutOfRange address memory.size) := by
  rw [checkAddress, if_neg (fun held => outside ((holds_iff memory address).mp held))]

/-- The first of the two tested addresses of a block that does not exist. -/
def firstOutside (memory : Memory) (address length : Int) : Int :=
  if memory.size ≤ address then address else address + length - 1

theorem checkRange_of_fits {memory : Memory} {address length : Int} (nonneg : 0 ≤ address)
    (fits : length ≤ 0 ∨ address + length ≤ memory.size) :
    memory.checkRange address length = .ok () := by
  unfold checkRange
  split
  · rfl
  · rw [checkAddress_of_holds (by omega)]
    exact checkAddress_of_holds (by omega)

theorem checkRange_of_reaches {memory : Memory} {address length : Int} (nonneg : 0 ≤ address)
    (positive : 0 < length) (reaches : memory.size < address + length) :
    memory.checkRange address length =
      .error (.addressOutOfRange (memory.firstOutside address length) memory.size) := by
  unfold checkRange firstOutside
  rw [if_neg (by omega)]
  by_cases first : (memory.size : Int) ≤ address
  · rw [if_pos first, checkAddress_of_not_holds (by omega)]
  · rw [if_neg first, checkAddress_of_holds (by omega)]
    exact checkAddress_of_not_holds (by omega)

/-- The cells of a range that passed its test exist. -/
theorem fits_of_checkRange {memory : Memory} {address length : Int} (positive : 0 < length)
    (passed : memory.checkRange address length = .ok ()) :
    0 ≤ address ∧ address + length ≤ memory.size := by
  rw [checkRange, if_neg (Int.not_le.mpr positive)] at passed
  by_cases first : 0 ≤ address ∧ address < memory.size
  · rw [checkAddress_of_holds first] at passed
    by_cases last : 0 ≤ address + length - 1 ∧ address + length - 1 < memory.size
    · omega
    · simp only [checkAddress_of_not_holds last] at passed
      cases passed
  · rw [checkAddress_of_not_holds first] at passed
    cases passed

/-! ## Single accesses inside the memory -/

/-- The memory after bytes were written to consecutive cells, each with its record. -/
def stored (memory : Memory) (start : Nat) : List UInt8 → Memory
  | [] => memory
  | byte :: rest =>
    ((memory.setByte start byte).record (.write start byte.toNat)).stored (start + 1) rest

/-- The memory after the windows at consecutive cells were read, each with its record. -/
def visited (memory : Memory) (start : Nat) : Nat → Memory
  | 0 => memory
  | count + 1 => (memory.record (.read start (memory.window start))).visited (start + 1) count

theorem peek_of_inside {memory : Memory} {address : Nat} (inside : address < memory.size) :
    memory.peek address = .ok (memory.window address) := by
  rw [peek, checkAddress_of_holds (by omega)]
  rfl

theorem peek_of_outside {memory : Memory} {address : Int}
    (outside : ¬ (0 ≤ address ∧ address < memory.size)) :
    memory.peek address = .error (.addressOutOfRange address memory.size) := by
  rw [peek, checkAddress_of_not_holds outside]

theorem fetch_of_inside {memory : Memory} {address : Nat} (inside : address < memory.size) :
    memory.fetch address = .ok (memory.window address, memory.visited address 1) := by
  rw [fetch, peek_of_inside inside]
  rfl

theorem fetch_of_outside {memory : Memory} {address : Int}
    (outside : ¬ (0 ≤ address ∧ address < memory.size)) :
    memory.fetch address = .error (.addressOutOfRange address memory.size) := by
  rw [fetch, peek_of_outside outside]

theorem write_of_inside {memory : Memory} {address datum : Nat} (inside : address < memory.size)
    (byte : datum < 256) :
    memory.write address datum = .ok (memory.stored address [UInt8.ofNat datum]) := by
  have datum_isByte : isByte (datum : Int) = true := by
    simp only [isByte, Bool.and_eq_true, decide_eq_true_eq]
    omega
  have back : (UInt8.ofNat datum).toNat = datum := by
    rw [UInt8.toNat_ofNat']
    exact Nat.mod_eq_of_lt byte
  rw [write, checkAddress_of_holds (by omega)]
  simp only [datum_isByte, if_true, Int.toNat_natCast, stored, back]

theorem word_of_peek {memory : Memory} {address : Int} {word : Nat}
    (found : memory.peek address = .ok word) : word = memory.window address.toNat := by
  unfold peek at found
  split at found
  · cases found
    rfl
  · cases found

/-- A write that succeeds puts a byte into a cell. -/
theorem stored_of_write {memory later : Memory} {address datum : Int}
    (written : memory.write address datum = .ok later) :
    ∃ (place : Nat) (byte : UInt8), address = place ∧ datum = byte.toNat ∧ place < memory.size ∧
      later = memory.stored place [byte] := by
  by_cases inside : 0 ≤ address ∧ address < memory.size
  · rw [write, checkAddress_of_holds inside] at written
    by_cases small : isByte datum = true
    · simp only [if_pos small, Except.ok.injEq] at written
      simp only [isByte, Bool.and_eq_true, decide_eq_true_eq] at small
      have back : (UInt8.ofNat datum.toNat).toNat = datum.toNat := by
        rw [UInt8.toNat_ofNat']
        omega
      refine ⟨address.toNat, UInt8.ofNat datum.toNat, by omega, by omega, by omega, ?_⟩
      rw [← written, stored, stored, back]
    · simp only [if_neg small] at written
      cases written
  · rw [write, checkAddress_of_not_holds inside] at written
    cases written

/-! ## What an access leaves alone -/

@[simp] theorem byte_record (memory : Memory) (access : Access) (address : Nat) :
    (memory.record access).byte address = memory.byte address := rfl

@[simp] theorem window_record (memory : Memory) (access : Access) (address : Nat) :
    (memory.record access).window address = memory.window address := rfl

@[simp] theorem stack_record (memory : Memory) (access : Access) :
    (memory.record access).stack = memory.stack := rfl

@[simp] theorem stack_setByte (memory : Memory) (address : Nat) (byte : UInt8) :
    (memory.setByte address byte).stack = memory.stack := rfl

@[simp] theorem stack_setBytes (memory : Memory) (address : Nat) (bytes : List UInt8) :
    (memory.setBytes address bytes).stack = memory.stack := by
  induction bytes generalizing memory address with
  | nil => rfl
  | cons byte rest ih => rw [setBytes, ih, stack_setByte]

@[simp] theorem log_setBytes (memory : Memory) (address : Nat) (bytes : List UInt8) :
    (memory.setBytes address bytes).log = memory.log := by
  induction bytes generalizing memory address with
  | nil => rfl
  | cons byte rest ih => rw [setBytes, ih, setByte]

theorem byte_setBytes_of_outside (memory : Memory) {start place : Nat} {bytes : List UInt8}
    (outside : place < start ∨ start + bytes.length ≤ place) :
    (memory.setBytes start bytes).byte place = memory.byte place := by
  induction bytes generalizing memory start with
  | nil => rfl
  | cons byte rest ih =>
      rw [List.length_cons] at outside
      rw [setBytes, ih _ (by omega), byte_setByte, if_neg (by omega)]

theorem byte_setBytes_of_inside (memory : Memory) {start k : Nat} {bytes : List UInt8}
    (inside : k < bytes.length) (fits : start + bytes.length ≤ memory.size) :
    (memory.setBytes start bytes).byte (start + k) = bytes[k].toNat := by
  induction bytes generalizing memory start k with
  | nil => cases inside
  | cons byte rest ih =>
      rw [List.length_cons] at fits
      rw [setBytes]
      cases k with
      | zero =>
          -- the bytes that are placed later lie behind this one
          rw [byte_setBytes_of_outside _ (by omega), byte_setByte, if_pos (by omega)]
          rfl
      | succ k =>
          have further : k < rest.length := Nat.lt_of_succ_lt_succ inside
          rw [show start + (k + 1) = start + 1 + k by omega,
            ih _ further (by rw [size_setByte]; omega)]
          rfl

/-- Two bytes that are placed next to each other make the window there. -/
theorem window_setBytes (memory : Memory) {start k : Nat} {bytes : List UInt8} {high low : UInt8}
    (fits : start + bytes.length ≤ memory.size)
    (first : bytes[k]? = some high) (second : bytes[k + 1]? = some low) :
    (memory.setBytes start bytes).window (start + k) = 256 * high.toNat + low.toNat := by
  obtain ⟨first_inside, first_byte⟩ := List.getElem?_eq_some_iff.mp first
  obtain ⟨second_inside, second_byte⟩ := List.getElem?_eq_some_iff.mp second
  rw [window, memory.byte_setBytes_of_inside first_inside fits, first_byte, Nat.add_assoc,
    memory.byte_setBytes_of_inside second_inside fits, second_byte]

@[simp] theorem size_stored (memory : Memory) (start : Nat) (bytes : List UInt8) :
    (memory.stored start bytes).size = memory.size := by
  induction bytes generalizing memory start with
  | nil => rfl
  | cons byte rest ih => rw [stored, ih, size_record, size_setByte]

@[simp] theorem stack_stored (memory : Memory) (start : Nat) (bytes : List UInt8) :
    (memory.stored start bytes).stack = memory.stack := by
  induction bytes generalizing memory start with
  | nil => rfl
  | cons byte rest ih => rw [stored, ih, stack_record, stack_setByte]

theorem setBytes_record (memory : Memory) (access : Access) (start : Nat) (bytes : List UInt8) :
    (memory.record access).setBytes start bytes = (memory.setBytes start bytes).record access := by
  induction bytes generalizing memory start with
  | nil => rfl
  | cons byte rest ih => exact ih (memory.setByte start byte) (start + 1)

/-- Bytes that are written reach the cells that bytes without records would reach. -/
theorem cells_stored (memory : Memory) (start : Nat) (bytes : List UInt8) :
    (memory.stored start bytes).cells = (memory.setBytes start bytes).cells := by
  induction bytes generalizing memory start with
  | nil => rfl
  | cons byte rest ih =>
      rw [stored, ih, setBytes_record]
      rfl

theorem byte_stored_of_outside (memory : Memory) {start place : Nat} {bytes : List UInt8}
    (outside : place < start ∨ start + bytes.length ≤ place) :
    (memory.stored start bytes).byte place = memory.byte place := by
  rw [byte, cells_stored]
  exact memory.byte_setBytes_of_outside outside

theorem byte_stored_of_inside (memory : Memory) {start k : Nat} {bytes : List UInt8}
    (inside : k < bytes.length) (fits : start + bytes.length ≤ memory.size) :
    (memory.stored start bytes).byte (start + k) = bytes[k].toNat := by
  rw [byte, cells_stored]
  exact memory.byte_setBytes_of_inside inside fits

@[simp] theorem cells_visited (memory : Memory) (start count : Nat) :
    (memory.visited start count).cells = memory.cells := by
  induction count generalizing memory start with
  | zero => rfl
  | succ count ih => exact ih _ _

@[simp] theorem stack_visited (memory : Memory) (start count : Nat) :
    (memory.visited start count).stack = memory.stack := by
  induction count generalizing memory start with
  | zero => rfl
  | succ count ih => exact ih _ _

@[simp] theorem size_visited (memory : Memory) (start count : Nat) :
    (memory.visited start count).size = memory.size := by
  simp only [size, cells_visited]

@[simp] theorem byte_visited (memory : Memory) (start count address : Nat) :
    (memory.visited start count).byte address = memory.byte address := by
  simp only [byte, cells_visited]

/-- Each visited cell has its record, in order. -/
theorem log_visited (memory : Memory) (start count : Nat) :
    (memory.visited start count).log =
      memory.log ++
        (List.range' start count).map fun place => .read place (memory.window place) := by
  induction count generalizing memory start with
  | zero => exact (List.append_nil _).symm
  | succ count ih =>
      rw [visited, ih, List.range'_succ, List.map_cons, record, List.append_assoc]
      rfl

theorem window_of_cells {memory later : Memory} (same : later.cells = memory.cells)
    (address : Nat) : later.window address = memory.window address := by
  simp only [window, byte, same]

/-- The byte at an address is the upper half of the window there. -/
theorem window_div (memory : Memory) (address : Nat) :
    memory.window address / 256 = memory.byte address := by
  have below := memory.byte_lt (address + 1)
  unfold window
  omega

theorem window_lt (memory : Memory) (address : Nat) : memory.window address < 65536 := by
  have high := memory.byte_lt address
  have low := memory.byte_lt (address + 1)
  unfold window
  omega

end Chip8.Memory
