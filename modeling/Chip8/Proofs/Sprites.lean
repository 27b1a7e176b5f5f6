import Chip8.Proofs.Arithmetic
import Chip8.Proofs.Footprint

/-!
# Sprites

A sprite is drawn row by row, and a row bit by bit.  A bit that is set flips the pixel under it;
beyond the right and the bottom edge there are no pixels, and nothing is drawn.  No pixel is flipped
twice, so a sprite flips a set of pixels, and the flag says whether one of them was on (`Flips`).

Sets that have no pixel in common can be flipped one after the other (`Flips.append`).  In this way
the bits make a row (`flips_flipByte`) and the rows a sprite (`drawnRows_flips`), and the cycle of
a word that draws does what its sprite asks for, pixel by pixel (`sprites_flip_pixels`).
-/

namespace Chip8

set_option autoImplicit false

/-! ## Flipping pixels -/

namespace Framebuffer

/-- From one screen to another, the pixels of a set were flipped and no others.  The answer beside
the other screen says whether one of them was on. -/
structure Flips (pixels : Nat → Nat → Prop) (screen : Framebuffer) (drawn : Framebuffer × Bool) :
    Prop where
  sized : drawn.1.Sized screen.width screen.height
  flipped : ∀ r c : Nat, screen.holds r c → pixels r c → drawn.1.lit r c = !screen.lit r c
  kept : ∀ r c : Nat, ¬ pixels r c → drawn.1.lit r c = screen.lit r c
  erased : drawn.2 = true ↔ ∃ r c : Nat, screen.holds r c ∧ pixels r c ∧ screen.lit r c

variable {first second : Nat → Nat → Prop} {screen middle last : Framebuffer}

theorem Sized.holds_eq (sized : middle.Sized screen.width screen.height) (r c : Int) :
    middle.holds r c = screen.holds r c := by
  simp only [holds, sized.1, sized.2]

theorem holds_iff (screen : Framebuffer) (r c : Nat) :
    screen.holds r c ↔ r < screen.height.toNat ∧ c < screen.width.toNat := by
  simp only [holds, Bool.and_eq_true, decide_eq_true_eq]
  omega

theorem flips_nothing (apart : ∀ r c : Nat, screen.holds r c → ¬ first r c) :
    Flips first screen (screen, false) where
  sized := ⟨rfl, rfl⟩
  flipped := fun r c held covered => (apart r c held covered).elim
  kept := fun _ _ _ => rfl
  erased := by
    refine ⟨fun answer => (Bool.false_ne_true answer).elim, ?_⟩
    rintro ⟨r, c, held, covered, _⟩
    exact (apart r c held covered).elim

/-- Two sets without a common pixel, one after the other. -/
theorem Flips.append {early late : Bool} (one : Flips first screen (middle, early))
    (two : Flips second middle (last, late)) (apart : ∀ r c, first r c → ¬ second r c) :
    Flips (fun r c => first r c ∨ second r c) screen (last, early || late) where
  sized := ⟨two.sized.1.trans one.sized.1, two.sized.2.trans one.sized.2⟩
  flipped := by
    rintro r c held (covered | covered)
    · exact (two.kept r c (apart r c covered)).trans (one.flipped r c held covered)
    · have before := one.kept r c fun earlier => apart r c earlier covered
      rw [← before]
      exact two.flipped r c ((one.sized.holds_eq r c).trans held) covered
  kept := by
    intro r c uncovered
    obtain ⟨no_first, no_second⟩ := not_or.mp uncovered
    exact (two.kept r c no_second).trans (one.kept r c no_first)
  erased := by
    rw [Bool.or_eq_true, one.erased, two.erased]
    constructor
    · rintro (⟨r, c, held, covered, on⟩ | ⟨r, c, held, covered, on⟩)
      · exact ⟨r, c, held, .inl covered, on⟩
      · have before := one.kept r c fun earlier => apart r c earlier covered
        exact ⟨r, c, (one.sized.holds_eq r c).symm.trans held, .inr covered, before ▸ on⟩
    · rintro ⟨r, c, held, covered | covered, on⟩
      · exact .inl ⟨r, c, held, covered, on⟩
      · have before := one.kept r c fun earlier => apart r c earlier covered
        exact .inr ⟨r, c, (one.sized.holds_eq r c).trans held, covered, before.trans on⟩

theorem Flips.congr {drawn : Framebuffer × Bool} (flips : Flips first screen drawn)
    (same : ∀ r c, first r c ↔ second r c) : Flips second screen drawn := by
  obtain rfl : first = second := funext fun r => funext fun c => propext (same r c)
  exact flips

/-- A pixel that is on in one screen is off in the other. -/
def Loses (screen later : Framebuffer) : Prop :=
  ∃ r c : Nat, screen.holds r c ∧ screen.lit r c ∧ ¬ later.lit r c

theorem Flips.erased_iff {drawn : Framebuffer × Bool} (flips : Flips first screen drawn) :
    drawn.2 = true ↔ screen.Loses drawn.1 := by
  rw [flips.erased]
  constructor
  · rintro ⟨r, c, held, covered, on⟩
    refine ⟨r, c, held, on, ?_⟩
    rw [flips.flipped r c held covered, on]
    decide
  · rintro ⟨r, c, held, on, off⟩
    by_cases covered : first r c
    · exact ⟨r, c, held, covered, on⟩
    · rw [flips.kept r c covered] at off
      exact (off on).elim

/-! ## The bits of a row -/

/-- Flips the pixel under one bit, if the bit is set and the pixel exists. -/
def flipBit (row column byte : Nat) (drawn : Framebuffer × Bool) (bit : Nat) :
    Framebuffer × Bool :=
  if column + bit < drawn.1.width.toNat ∧ byte.testBit (7 - bit) then
    (drawn.1.put row (column + bit) (!drawn.1.lit row (column + bit)),
      drawn.2 || drawn.1.lit row (column + bit))
  else drawn

theorem flipByte_eq (row column byte : Nat) :
    screen.flipByte row column byte =
      (List.range 8).foldl (flipBit row column byte) (screen, false) :=
  rfl

theorem flipBit_of_answer (row column byte bit : Nat) (answer : Bool) :
    flipBit row column byte (screen, answer) bit =
      ((flipBit row column byte (screen, false) bit).1,
        answer || (flipBit row column byte (screen, false) bit).2) := by
  unfold flipBit
  split
  · rw [Bool.false_or]
  · rw [Bool.or_false]

theorem flips_flipBit {row : Nat} (below : row < screen.height) (column byte bit : Nat) :
    Flips (fun r c => r = row ∧ c = column + bit ∧ byte.testBit (7 - bit)) screen
      (flipBit row column byte (screen, false) bit) := by
  have line : row < screen.height.toNat := by omega
  by_cases set : column + bit < screen.width.toNat ∧ byte.testBit (7 - bit)
  · obtain ⟨inside, one⟩ := id set
    rw [flipBit, if_pos set]
    refine ⟨⟨rfl, rfl⟩, ?_, ?_, ?_⟩
    · rintro r c held ⟨rfl, rfl, _⟩
      rw [lit_put, if_pos ⟨rfl, rfl, line, inside⟩]
    · intro r c uncovered
      rw [lit_put, if_neg fun here => uncovered ⟨here.1, here.2.1, one⟩]
    · rw [Bool.false_or]
      constructor
      · exact fun on =>
          ⟨row, column + bit, (screen.holds_iff _ _).mpr ⟨line, inside⟩, ⟨rfl, rfl, one⟩, on⟩
      · rintro ⟨r, c, _, ⟨rfl, rfl, _⟩, on⟩
        exact on
  · rw [flipBit, if_neg set]
    refine flips_nothing ?_
    rintro r c held ⟨rfl, rfl, one⟩
    exact set ⟨((screen.holds_iff _ _).mp held).2, one⟩

theorem flips_bits {row : Nat} (below : row < screen.height) (column byte count : Nat) :
    Flips (fun r c => r = row ∧ ∃ bit < count, c = column + bit ∧ byte.testBit (7 - bit)) screen
      ((List.range count).foldl (flipBit row column byte) (screen, false)) := by
  induction count with
  | zero =>
      refine flips_nothing ?_
      rintro r c _ ⟨_, bit, impossible, _⟩
      exact Nat.not_lt_zero bit impossible
  | succ count ih =>
      rw [List.range_succ, List.foldl_append, List.foldl_cons, List.foldl_nil]
      generalize (List.range count).foldl (flipBit row column byte) (screen, false) = drawn at ih ⊢
      obtain ⟨middle, early⟩ := drawn
      have room : (row : Int) < middle.height := lt_of_lt_of_eq below ih.sized.2.symm
      rw [flipBit_of_answer]
      refine (ih.append (flips_flipBit room column byte count) ?_).congr fun r c => ?_
      · rintro r c ⟨_, bit, earlier, rfl, _⟩ ⟨_, same, _⟩
        omega
      · constructor
        · rintro (⟨rfl, bit, small, place, one⟩ | ⟨rfl, place, one⟩)
          · exact ⟨rfl, bit, by omega, place, one⟩
          · exact ⟨rfl, count, by omega, place, one⟩
        · rintro ⟨rfl, bit, small, place, one⟩
          rcases Nat.lt_succ_iff_lt_or_eq.mp small with earlier | rfl
          · exact .inl ⟨rfl, bit, earlier, place, one⟩
          · exact .inr ⟨rfl, place, one⟩

/-- A byte flips the pixels of its row under the bits that are set. -/
theorem flips_flipByte {row : Nat} (below : row < screen.height) (column byte : Nat) :
    Flips (fun r c => r = row ∧ column ≤ c ∧ c < column + 8 ∧ byte.testBit (7 - (c - column)))
      screen (screen.flipByte row column byte) := by
  rw [flipByte_eq]
  refine (flips_bits below column byte 8).congr fun r c => ?_
  constructor
  · rintro ⟨rfl, bit, small, rfl, one⟩
    rw [Nat.add_sub_cancel_left]
    exact ⟨rfl, by omega, by omega, one⟩
  · rintro ⟨rfl, right, left, one⟩
    exact ⟨rfl, c - column, by omega, by omega, one⟩

end Framebuffer

/-! ## The rows of a sprite -/

/-- A sprite of `count` rows, which lies in memory from `start` on, has a bit set for a pixel if its
upper left corner is at the pixel in row `top` and column `left`. -/
def Memory.Covers (memory : Memory) (start count top left r c : Nat) : Prop :=
  top ≤ r ∧ r < top + count ∧ left ≤ c ∧ c < left + 8 ∧
    (memory.byte (start + (r - top))).testBit (7 - (c - left))

instance (memory : Memory) (start count top left r c : Nat) :
    Decidable (memory.Covers start count top left r c) :=
  inferInstanceAs (Decidable (_ ∧ _))

theorem Memory.covers_succ (memory : Memory) (start count top left r c : Nat) :
    memory.Covers start (count + 1) top left r c ↔
      (r = top ∧ left ≤ c ∧ c < left + 8 ∧ (memory.byte start).testBit (7 - (c - left))) ∨
        memory.Covers (start + 1) count (top + 1) left r c := by
  constructor
  · rintro ⟨above, below, bits⟩
    rcases Nat.eq_or_lt_of_le above with rfl | further
    · rw [Nat.sub_self] at bits
      exact .inl ⟨rfl, bits⟩
    · rw [show start + (r - top) = start + 1 + (r - (top + 1)) by omega] at bits
      exact .inr ⟨further, by omega, bits⟩
  · rintro (⟨rfl, bits⟩ | ⟨above, below, bits⟩)
    · refine ⟨Nat.le_refl r, by omega, ?_⟩
      rwa [Nat.sub_self]
    · refine ⟨by omega, by omega, ?_⟩
      rwa [show start + (r - top) = start + 1 + (r - (top + 1)) by omega]

theorem Memory.covers_visited (memory : Memory) (place steps start count top left r c : Nat) :
    (memory.visited place steps).Covers start count top left r c ↔
      memory.Covers start count top left r c := by
  simp only [Covers, byte_visited]

namespace Registers

theorem setFlag_setFlag (r : Registers) (early late : Int) :
    (r.setFlag early).setFlag late = r.setFlag late := by
  simp only [setFlag, Vector.set_set]

/-- Setting the flag for each of two answers sets it for their disjunction. -/
theorem setFlag_of_answers (r : Registers) (early late : Bool) :
    (if late then (if early then r.setFlag 1 else r).setFlag 1
      else if early then r.setFlag 1 else r) = if early || late then r.setFlag 1 else r := by
  cases early with
  | false => rfl
  | true => cases late with
    | false => rfl
    | true => exact setFlag_setFlag r 1 1

theorem setFlag_of_answer (r : Registers) (answer : Bool) :
    (if answer then (r.setFlag 0).setFlag 1 else r.setFlag 0) =
      r.setFlag (if answer then 1 else 0) := by
  cases answer with
  | false => rfl
  | true => exact setFlag_setFlag r 0 1

theorem flag_of_answer (r : Registers) (answer : Bool) :
    (r.setFlag (if answer then 1 else 0)).flag = answer.toNat := by
  refine (v_setFlag r flagPlace _).trans ?_
  cases answer with
  | false => rfl
  | true => rfl

end Registers

namespace Machine

open Processor
open Framebuffer (Flips)
open Registers (flagPlace)

/-- Drawing rows flips the pixels that the sprite covers and visits its rows until the bottom edge.
The flag is set if a pixel went off; otherwise it stays. -/
theorem drawnRows_flips (column top start count row : Nat) (m : Machine) :
    ∃ screen erased,
      Flips (m.memory.Covers (start + row) count (top + row) column) m.devices.screen
        (screen, erased) ∧
      drawnRows column top start count row m =
        { m with
          memory := m.memory.visited (start + row)
            (min count (m.devices.screen.height.toNat - (top + row)))
          devices := { m.devices with screen := screen }
          registers := if erased then m.registers.setFlag 1 else m.registers } := by
  induction count generalizing row m with
  | zero =>
      refine ⟨m.devices.screen, false, Framebuffer.flips_nothing ?_, ?_⟩
      · rintro r c _ ⟨above, below, _⟩
        omega
      · rw [Nat.zero_min]
        rfl
  | succ count ih =>
      rw [drawnRows]
      by_cases bottom : m.devices.screen.height ≤ (top : Int) + row
      · rw [if_pos bottom]
        refine ⟨m.devices.screen, false, Framebuffer.flips_nothing ?_, ?_⟩
        · rintro r c held ⟨above, _⟩
          rw [Framebuffer.holds_iff] at held
          omega
        · rw [show m.devices.screen.height.toNat - (top + row) = 0 by omega, Nat.min_zero]
          rfl
      · rw [if_neg bottom]
        have below : ((top + row : Nat) : Int) < m.devices.screen.height := by omega
        have one := Framebuffer.flips_flipByte below column (m.memory.byte (start + row))
        obtain ⟨screen, erased, two, rest⟩ :=
          ih (row + 1) (drawnRow column (top + row) (start + row) m)
        have visits : min (count + 1) (m.devices.screen.height.toNat - (top + row)) =
            min count (m.devices.screen.height.toNat - (top + (row + 1))) + 1 := by omega
        rw [rest, visits]
        simp only [drawnRow] at two ⊢
        generalize m.devices.screen.flipByte (top + row) column (m.memory.byte (start + row)) =
          drawn at one two ⊢
        obtain ⟨middle, early⟩ := drawn
        have height : middle.height = m.devices.screen.height := one.sized.2
        have further := two.congr fun r c => m.memory.covers_visited _ _ _ _ _ _ r c
        refine ⟨screen, early || erased, ?_, ?_⟩
        · refine (one.append further ?_).congr fun r c => (m.memory.covers_succ _ _ _ _ r c).symm
          rintro r c ⟨rfl, _⟩ ⟨below, _⟩
          omega
        · rw [height, Registers.setFlag_of_answers]
          rfl

/-! ## Cycles that draw -/

variable {m : Machine}

/-- The pixels that the sprite of a machine covers: `n` rows from the index on, with the upper left
corner at the pixel that two registers point at, modulo the sizes of the screen. -/
def SpriteCovers (m : Machine) (x y : Fin 16) (n : Nat) : Nat → Nat → Prop :=
  m.memory.Covers m.registers.index.toNat n
    (m.registers.v.get y % m.devices.screen.height.toNat)
    (m.registers.v.get x % m.devices.screen.width.toNat)

instance (m : Machine) (x y : Fin 16) (n r c : Nat) : Decidable (m.SpriteCovers x y n r c) :=
  inferInstanceAs (Decidable (m.memory.Covers _ _ _ _ r c))

/-- What a cycle does that draws a sprite of `n` rows. -/
structure Draws (m : Machine) (x y : Fin 16) (n : Nat) (after : Machine)
    (record : Snapshot Registers) : Prop where
  flipped : ∀ r c : Nat, m.devices.screen.holds r c → m.SpriteCovers x y n r c →
    after.devices.screen.lit r c = !m.devices.screen.lit r c
  kept : ∀ r c : Nat, ¬ m.SpriteCovers x y n r c →
    after.devices.screen.lit r c = m.devices.screen.lit r c
  flag : m.devices.screen.Loses after.devices.screen → after.registers.flag = 1
  no_flag : ¬ m.devices.screen.Loses after.devices.screen → after.registers.flag = 0
  others : ∀ z, z ≠ flagPlace → after.registers.v.get z = m.registers.v.get z
  same : m.SameBut [.counter, .general, .screen] after
  accesses : record.accesses =
    .read m.registers.pc.toNat m.word ::
      (List.range' m.registers.index.toNat
        (min n (m.devices.screen.height.toNat -
          m.registers.v.get y % m.devices.screen.height.toNat))).map fun place =>
        .read place (m.memory.window place)

theorem toNat_fmod (value : Nat) {size : Int} (positive : 0 < size) :
    (Int.fmod value size).toNat = value % size.toNat := by
  have whole : (size.toNat : Int) = size := Int.toNat_of_nonneg (Int.le_of_lt positive)
  rw [← whole, ← Int.ofNat_fmod]
  rfl

theorem spriteColumn_eq (wide : 0 < m.devices.screen.width) (x : Fin 16) :
    m.spriteColumn (x : Nat) = m.registers.v.get x % m.devices.screen.width.toNat := by
  rw [spriteColumn, Registers.get_natCast, toNat_fmod _ wide]

theorem spriteRow_eq (high : 0 < m.devices.screen.height) (y : Fin 16) :
    m.spriteRow (y : Nat) = m.registers.v.get y % m.devices.screen.height.toNat := by
  rw [spriteRow, Registers.get_natCast, toNat_fmod _ high]

/-- A sprite that lies in memory is drawn; of one without rows it does not matter where it lies. -/
theorem draw_flips (wide : 0 < m.devices.screen.width) (high : 0 < m.devices.screen.height)
    (x y n : Fin 16)
    (fits : (n : Nat) = 0 ∨ 0 ≤ m.registers.index ∧ m.registers.index + (n : Nat) ≤ m.memory.size) :
    ∃ screen erased, Flips (m.SpriteCovers x y n) m.devices.screen (screen, erased) ∧
      draw (x : Nat) (y : Nat) (n : Nat) m =
        ⟨{ m with
            memory := m.memory.visited m.registers.index.toNat
              (min (n : Nat) (m.devices.screen.height.toNat -
                m.registers.v.get y % m.devices.screen.height.toNat))
            devices := { m.devices with screen := screen }
            registers := m.registers.setFlag (if erased then 1 else 0) }, .ok (), []⟩ := by
  have drawn : draw (x : Nat) (y : Nat) (n : Nat) m =
      ⟨drawnRows (m.spriteColumn (x : Nat)) (m.spriteRow (y : Nat)) m.registers.index.toNat n 0
        { m with registers := m.registers.setFlag 0 }, .ok (), []⟩ := by
    rcases fits with none | ⟨nonneg, fits⟩
    · rw [none]
      exact draw_of_passed (isNibble_fin x) (isNibble_fin y) wide high rfl
    · exact draw_of_fits (isNibble_fin x) (isNibble_fin y) (isNibble_fin n) wide high
        (Int.toNat_of_nonneg nonneg).symm (by omega)
  obtain ⟨screen, erased, flips, rows⟩ :=
    drawnRows_flips (m.spriteColumn (x : Nat)) (m.spriteRow (y : Nat)) m.registers.index.toNat n 0
      { m with registers := m.registers.setFlag 0 }
  rw [spriteColumn_eq wide, spriteRow_eq high] at *
  refine ⟨screen, erased, flips, ?_⟩
  rw [drawn, rows, Registers.setFlag_of_answer]
  rfl

/-- The word that draws a sprite. -/
theorem denotes_sprite (x y n : Fin 16) :
    Instruction.Denotes (Opcode.decode (0xD000 + 0x100 * x + 0x10 * y + n : Nat))
      (.draw (x : Nat) (y : Nat) (n : Nat)) := by
  have x_small := x.isLt
  have y_small := y.isLt
  have n_small := n.isLt
  have fields : (Opcode.decode (0xD000 + 0x100 * x + 0x10 * y + n : Nat)).family = 0xD000 ∧
      (Opcode.decode (0xD000 + 0x100 * x + 0x10 * y + n : Nat)).x = (x : Nat) ∧
      (Opcode.decode (0xD000 + 0x100 * x + 0x10 * y + n : Nat)).y = (y : Nat) ∧
      (Opcode.decode (0xD000 + 0x100 * x + 0x10 * y + n : Nat)).n = (n : Nat) := by
    simp only [Opcode.decode]
    omega
  obtain ⟨family, first, second, rows⟩ := fields
  have named := Instruction.Denotes.draw family
  rwa [first, second, rows] at named

theorem denotes_of_sprite (x y n : Fin 16) (word : m.word = 0xD000 + 0x100 * x + 0x10 * y + n) :
    Instruction.Denotes m.opcode (.draw (x : Nat) (y : Nat) (n : Nat)) := by
  rw [opcode, word]
  exact denotes_sprite x y n

/-- **A cycle that draws flips the pixels that the sprite covers**, as far as they are on the
screen.  The flag says whether one of them was on, and the rows that are on the screen are read. -/
theorem sprites_flip_pixels (inside : m.Inside) (wide : 0 < m.devices.screen.width)
    (high : 0 < m.devices.screen.height) (x y n : Fin 16)
    (word : m.word = 0xD000 + 0x100 * x + 0x10 * y + n)
    (fits : (n : Nat) = 0 ∨ 0 ≤ m.registers.index ∧ m.registers.index + (n : Nat) ≤ m.memory.size) :
    ∃ after record, step m = ⟨after, .ok record, []⟩ ∧ m.Draws x y n after record := by
  have denotes := denotes_of_sprite x y n word
  obtain ⟨screen, erased, flips, drawn⟩ := draw_flips (m := m.fetched) wide high x y n fits
  have cycle := step_of_effect inside denotes drawn
  have same := step_changes_only m
  rw [cycle, Opcode.footprint_of_denotes denotes] at same
  have lost : erased = true ↔ m.devices.screen.Loses screen := flips.erased_iff
  exact ⟨_, _, cycle,
    { flipped := flips.flipped
      kept := flips.kept
      flag := fun on => (Registers.flag_of_answer _ erased).trans
        (congrArg Bool.toNat (lost.mpr on))
      no_flag := fun none => (Registers.flag_of_answer _ erased).trans
        (congrArg Bool.toNat (Bool.eq_false_iff.mpr fun on => none (lost.mp on)))
      others := fun z other => (Registers.v_setFlag _ z _).trans (if_neg other)
      same := same
      accesses := Memory.log_visited _ _ _ }⟩

/-- A word that draws itself as a sprite of two rows on a screen of one row. -/
theorem lower_row_is_left_out :
    (ofWord 0xD0 0x12 .everyCycle).Inside ∧
      ∃ after record, step (ofWord 0xD0 0x12 .everyCycle) = ⟨after, .ok record, []⟩ ∧
        after.devices.screen.lit 0 0 = true ∧ after.devices.screen.lit 0 2 = false ∧
        record.accesses = [.read 0 0xD012, .read 0 0xD012] := by
  have inside : (ofWord 0xD0 0x12 .everyCycle).Inside := by decide
  obtain ⟨after, record, cycle, draws⟩ :=
    sprites_flip_pixels inside (by decide) (by decide) 0 1 2 (by decide) (.inr (by decide))
  refine ⟨inside, after, record, cycle, ?_, ?_, ?_⟩
  · rw [draws.flipped 0 0 (by decide) (by decide)]
    rfl
  · rw [draws.kept 0 2 (by decide)]
    rfl
  · rw [draws.accesses]
    decide

end Machine

end Chip8
