import Chip8.Proofs.Bounds

/-!
# Data placed from outside

A host places programs and data in the memory, and the machine places its glyphs there when it
is built or reset.  What is placed changes cells only, so that it keeps the bounds of the memory,
and what fits is placed without a failure.  So a machine can be built on every memory of 4096
cells, and it is in its bounds from the start (`create_of_cells`).
-/

namespace Chip8

set_option autoImplicit false

/-! ## Placing data in memory -/

theorem Font.length_small : Font.small.length = 80 := rfl

theorem Font.length_large : Font.large.length = 160 := by decide +kernel

namespace Memory

variable {capacity : Nat} {memory later : Memory}

theorem eq_setBytes_of_loadBytes {base : Int} {bytes : List UInt8}
    (loaded : memory.loadBytes base bytes = .ok later) :
    later = memory.setBytes base.toNat bytes := by
  unfold loadBytes at loaded
  split at loaded
  · cases loaded
    rfl
  · cases loaded

theorem Bounded.loadBytes (bounded : memory.Bounded capacity) {base : Int} {bytes : List UInt8}
    (loaded : memory.loadBytes base bytes = .ok later) : later.Bounded capacity := by
  rw [eq_setBytes_of_loadBytes loaded]
  exact bounded.setBytes base.toNat bytes

theorem Bounded.write (bounded : memory.Bounded capacity) {address datum : Int}
    (written : memory.write address datum = .ok later) : later.Bounded capacity := by
  unfold Memory.write at written
  split at written
  · split at written
    · cases written
      exact bounded.of_same (by rw [size_record, size_setByte])
        (by rw [stack_record, stack_setByte])
    · cases written
  · cases written

theorem loadBytes_of_room {start : Nat} {bytes : List UInt8}
    (room : start + bytes.length ≤ memory.size) :
    memory.loadBytes start bytes = .ok (memory.setBytes start bytes) := by
  rw [Memory.loadBytes, checkRange_of_fits (by omega) (.inr (by omega))]
  rfl

/-- The memory with nothing but the glyphs in it. -/
def prepared (memory : Memory) : Memory :=
  (memory.clear.setBytes Font.smallStart Font.small).setBytes Font.largeStart Font.large

@[simp] theorem size_prepared (memory : Memory) : memory.prepared.size = memory.size := by
  rw [prepared, size_setBytes, size_setBytes, size_clear]

@[simp] theorem stack_prepared (memory : Memory) :
    memory.prepared.stack = memory.stack.clear := by
  rw [prepared, stack_setBytes, stack_setBytes, clear]

/-- Two memories of the same sizes are prepared alike, whatever they hold. -/
theorem prepared_congr {other : Memory} (size : memory.size = other.size)
    (capacity : memory.stack.capacity = other.stack.capacity) :
    memory.prepared = other.prepared := by
  rw [prepared, prepared, clear, clear, CallStack.clear, CallStack.clear, size, capacity]

theorem byte_clear (memory : Memory) (address : Nat) : memory.clear.byte address = 0 := by
  simp only [clear, byte, Array.getElem?_replicate]
  split <;> rfl

/-- The glyphs are in their places, and all other cells are zero. -/
structure OnlyGlyphs (memory : Memory) : Prop where
  small : ∀ k (inside : k < Font.small.length),
    memory.byte (Font.smallStart + k) = Font.small[k].toNat
  large : ∀ k (inside : k < Font.large.length),
    memory.byte (Font.largeStart + k) = Font.large[k].toNat
  zero : ∀ address, address < 0x050 ∨ 0x140 ≤ address → memory.byte address = 0

/-- **A prepared memory holds the glyphs and nothing else**, if it has room for them. -/
theorem onlyGlyphs_prepared {memory : Memory} (room : 0x140 ≤ memory.size) :
    memory.prepared.OnlyGlyphs where
  small := by
    intro k inside
    have below := Font.length_small
    rw [prepared, byte_setBytes_of_outside _ (.inl ?_), byte_setBytes_of_inside _ inside]
    · rw [size_clear, Font.smallStart]
      omega
    · rw [Font.smallStart, Font.largeStart]
      omega
  large := by
    intro k inside
    have below := Font.length_large
    rw [prepared, byte_setBytes_of_inside _ inside]
    rw [size_setBytes, size_clear, Font.largeStart]
    omega
  zero := by
    intro address outside
    have below := Font.length_small
    have below_large := Font.length_large
    rw [prepared, byte_setBytes_of_outside, byte_setBytes_of_outside, byte_clear]
    · rw [Font.smallStart]
      omega
    · rw [Font.largeStart]
      omega

theorem bounded_prepared (cells : memory.size = 4096) :
    memory.prepared.Bounded memory.stack.capacity := by
  have cleared : memory.clear.Bounded memory.stack.capacity :=
    { size := by rw [size_clear, cells]
      room := rfl
      depth := Nat.zero_le _
      returns := by
        intro address inside
        cases inside }
  exact (cleared.setBytes _ _).setBytes _ _

end Memory

namespace Machine

open Processor

variable {m : Machine}

/-- Preparing a memory that holds the glyphs succeeds. -/
theorem prepareMemory_of_room (small : Font.smallStart + Font.small.length ≤ m.memory.size)
    (large : Font.largeStart + Font.large.length ≤ m.memory.size) :
    prepareMemory m = ⟨{ m with memory := m.memory.prepared }, .ok (), []⟩ := by
  rw [prepareMemory, Action.update_bind,
    Action.bind_of_ok (changeMemory_of_ok (Memory.loadBytes_of_room (by
      rw [Memory.size_clear]
      exact small))),
    changeMemory_of_ok (Memory.loadBytes_of_room (by
      rw [Memory.size_setBytes, Memory.size_clear]
      exact large))]
  rfl

/-- The glyphs need the cells up to the end of the large ones. -/
theorem prepareMemory_of_size (room : 0x140 ≤ m.memory.size) :
    prepareMemory m = ⟨{ m with memory := m.memory.prepared }, .ok (), []⟩ := by
  refine prepareMemory_of_room ?_ ?_
  · rw [Font.length_small, Font.smallStart]
    omega
  · rw [Font.length_large, Font.largeStart]
    omega

/-- A machine can be built on every memory that has room for the glyphs. -/
theorem create_of_size {memory : Memory} (room : 0x140 ≤ memory.size) (devices : Devices) :
    Machine.create memory devices = .ok ⟨Registers.initial, memory.prepared, 0, devices⟩ := by
  rw [create, prepareMemory_of_size (m := ⟨Registers.initial, memory, 0, devices⟩) room]

/-- A new machine is in its bounds. -/
theorem create_of_cells {memory : Memory} (cells : memory.size = 4096) (devices : Devices) :
    ∃ m, Machine.create memory devices = .ok m ∧
      m.Bounded memory.stack.capacity devices.screen.width devices.screen.height :=
  ⟨_, create_of_size (by omega) devices,
    ⟨Registers.bounded_initial, Memory.bounded_prepared cells, rfl, rfl⟩⟩

theorem size_defaultMemory : defaultMemory.size = 4096 := Array.size_replicate

/-- The memory of a machine that does not ask for another has room for the glyphs. -/
theorem create_defaultMemory (devices : Devices) :
    Machine.create defaultMemory devices =
      .ok ⟨Registers.initial, defaultMemory.prepared, 0, devices⟩ :=
  create_of_size (by rw [size_defaultMemory]; decide) devices

end Machine

end Chip8
