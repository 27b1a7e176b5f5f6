import Chip8.Proofs.Sprites

/-!
# The order of sprites

A sprite that is drawn marks pixels, and each marked pixel changes its state.  Which pixels these
are depends on the registers and on the memory, but not on what is on the screen, so that of many
drawings only their number counts: a pixel has changed in the end if an odd number of them marked it
(`lit_of_drawings`).  So drawings can change places, and drawings that are made twice are undone
(`drawings_commute_and_cancel`).

A sprite that is drawn again at once goes through the same pixels.  It is the registers of its
corner that have to be the same, which is why none of them may take the flag.
-/

namespace Chip8

set_option autoImplicit false

/-! ## Screens as sets of pixels -/

namespace Framebuffer

variable {screen other : Framebuffer}

theorem lit_of_holds {r c : Nat} (line : r < screen.rows.size) (place : c < screen.rows[r].size) :
    screen.lit r c = screen.rows[r][c] := by
  simp [lit, line, place]

/-- There is nothing to be seen outside a screen. -/
theorem holds_of_lit {r c : Nat} (on : screen.lit r c) : screen.holds r c := by
  rw [holds_iff, ← screen.size_rows]
  by_cases line : r < screen.rows.size
  · refine ⟨line, ?_⟩
    rw [← screen.size_row r line]
    refine Decidable.byContradiction fun outside => ?_
    simp [lit, line, outside] at on
  · simp [lit, line] at on

/-- **Screens of one size that show the same are the same.** -/
theorem eq_of_lit (sized : other.Sized screen.width screen.height)
    (same : ∀ r c : Nat, other.lit r c = screen.lit r c) : other = screen := by
  obtain ⟨width, height⟩ := sized
  have lines : other.rows.size = screen.rows.size := by
    rw [other.size_rows, screen.size_rows, height]
  have rows : other.rows = screen.rows := by
    refine Array.ext lines fun r here there => ?_
    have places : other.rows[r].size = screen.rows[r].size := by
      rw [other.size_row, screen.size_row, width]
    refine Array.ext places fun c here' there' => ?_
    rw [← lit_of_holds here here', ← lit_of_holds there there']
    exact same r c
  cases screen
  cases other
  cases width
  cases height
  cases rows
  rfl

end Framebuffer

namespace Machine

open Processor
open Framebuffer (Flips)
open Registers (flagPlace)

variable {m middle after : Machine} {x y n : Fin 16}

/-! ## One drawing -/

/-- A pixel of the screen that the sprite of a machine covers. -/
def Marks (m : Machine) (x y n : Fin 16) (r c : Nat) : Prop :=
  m.devices.screen.holds r c ∧ m.SpriteCovers x y n r c

instance (m : Machine) (x y n : Fin 16) (r c : Nat) : Decidable (m.Marks x y n r c) :=
  inferInstanceAs (Decidable (_ ∧ _))

/-- The rows of a sprite lie in memory. -/
def SpriteFits (m : Machine) (n : Fin 16) : Prop :=
  (n : Nat) = 0 ∨ 0 ≤ m.registers.index ∧ m.registers.index + (n : Nat) ≤ m.memory.size

/-- Machines with the same bytes in memory and a screen of the same size. -/
structure SameCanvas (m other : Machine) : Prop where
  cells : other.memory.cells = m.memory.cells
  sized : other.devices.screen.Sized m.devices.screen.width m.devices.screen.height

theorem SameCanvas.trans (first : m.SameCanvas middle) (second : middle.SameCanvas after) :
    m.SameCanvas after where
  cells := second.cells.trans first.cells
  sized := ⟨second.sized.1.trans first.sized.1, second.sized.2.trans first.sized.2⟩

/-- What a drawing leaves: the pixels that it marks have changed, and the flag says whether one of
them was on. -/
structure Paints (m : Machine) (x y n : Fin 16) (after : Machine) : Prop where
  canvas : m.SameCanvas after
  lit : ∀ r c : Nat, after.devices.screen.lit r c =
    (m.devices.screen.lit r c ^^ decide (m.Marks x y n r c))
  registers : ∃ erased : Bool,
    after.registers = m.registers.setFlag (if erased then 1 else 0) ∧
      (erased = true ↔ ∃ r c, m.Marks x y n r c ∧ m.devices.screen.lit r c)

/-- The word that draws a sprite. -/
def spriteWord (x y n : Fin 16) : Opcode := .decode (0xD000 + 0x100 * x + 0x10 * y + n : Nat)

/-- **A sprite that lies in memory is painted.** -/
theorem paints_of_fits (wide : 0 < m.devices.screen.width) (high : 0 < m.devices.screen.height)
    (fits : m.SpriteFits n) :
    ∃ after, chip8.execute (spriteWord x y n) m = ⟨after, .ok (), []⟩ ∧ m.Paints x y n after := by
  obtain ⟨screen, erased, flips, drawn⟩ := draw_flips wide high x y n fits
  refine ⟨_, execute_of_effect (denotes_sprite x y n) (Opcode.fits_decode _) drawn, ?_, ?_, ?_⟩
  · exact ⟨Memory.cells_visited _ _ _, flips.sized⟩
  · intro r c
    by_cases marked : m.Marks x y n r c
    · rw [decide_eq_true marked, Bool.xor_true]
      exact flips.flipped r c marked.1 marked.2
    · rw [decide_eq_false marked, Bool.xor_false]
      by_cases covered : m.SpriteCovers x y n r c
      · -- the sprite reaches beyond the screen here, and there is nothing to be seen
        have outside : ¬ m.devices.screen.holds r c := fun held => marked ⟨held, covered⟩
        have before := Bool.eq_false_iff.mpr fun on => outside (Framebuffer.holds_of_lit on)
        have later := Bool.eq_false_iff.mpr fun on =>
          outside ((flips.sized.holds_eq r c).symm.trans (Framebuffer.holds_of_lit on))
        exact later.trans before.symm
      · exact flips.kept r c covered
  · refine ⟨erased, rfl, flips.erased.trans ?_⟩
    simp only [Marks, and_assoc]

/-- A sprite whose drawing succeeds lies in memory. -/
theorem fits_of_executed {events : List Event}
    (ran : chip8.execute (spriteWord x y n) m = ⟨after, .ok (), events⟩) : m.SpriteFits n := by
  obtain ⟨_, drawn⟩ := effect_of_execute (denotes_sprite x y n) (Opcode.fits_decode _) ran
  by_cases none : (n : Nat) = 0
  · exact .inl none
  · rw [effect, draw, Action.state_bind] at drawn
    obtain ⟨start, at_start, fits, _⟩ := rest_of_passed (by omega) drawn
    exact .inr ⟨by omega, by omega⟩

/-- What a sprite marks is known from its registers and what is on the canvas does not matter. -/
theorem SameCanvas.marks_iff (same : m.SameCanvas after)
    (index : after.registers.index = m.registers.index)
    (column : after.registers.v.get x = m.registers.v.get x)
    (row : after.registers.v.get y = m.registers.v.get y) (r c : Nat) :
    after.Marks x y n r c ↔ m.Marks x y n r c := by
  obtain ⟨cells, sized⟩ := same
  simp only [Marks, SpriteCovers, Memory.Covers, Memory.byte, cells, sized.holds_eq, sized.1,
    sized.2, index, column, row]

theorem SameCanvas.fits_iff (same : m.SameCanvas after)
    (index : after.registers.index = m.registers.index) :
    after.SpriteFits n ↔ m.SpriteFits n := by
  have size : after.memory.size = m.memory.size := congrArg Array.size same.cells
  rw [SpriteFits, SpriteFits, size, index]

/-- A sprite that is drawn twice at once has left no trace but the flag. -/
theorem paints_again (first : m.Paints x y n middle) (second : middle.Paints x y n after)
    (column : x ≠ flagPlace) (row : y ≠ flagPlace) :
    after.devices.screen = m.devices.screen ∧
      (after.registers.flag = 1 ↔ ∃ r c, m.Marks x y n r c ∧ ¬ m.devices.screen.lit r c) ∧
      (after.registers.flag = 0 ↔ ¬ ∃ r c, m.Marks x y n r c ∧ ¬ m.devices.screen.lit r c) := by
  obtain ⟨_, flagged, _⟩ := first.registers
  obtain ⟨erased, left, erased_iff⟩ := second.registers
  have kept (z : Fin 16) (other : z ≠ flagPlace) :
      middle.registers.v.get z = m.registers.v.get z := by
    rw [flagged, Registers.v_setFlag, if_neg other]
  have marks := first.canvas.marks_iff (n := n) (by rw [flagged]; rfl) (kept x column) (kept y row)
  have flag : after.registers.flag = erased.toNat := by
    rw [left, Registers.flag_of_answer]
  have lost : erased = true ↔ ∃ r c, m.Marks x y n r c ∧ ¬ m.devices.screen.lit r c := by
    rw [erased_iff]
    refine exists_congr fun r => exists_congr fun c => ?_
    rw [marks]
    refine and_congr_right fun marked => ?_
    rw [first.lit, decide_eq_true marked, Bool.xor_true, Bool.not_eq_true', Bool.not_eq_true]
  refine ⟨?_, ?_, ?_⟩
  · refine Framebuffer.eq_of_lit (first.canvas.trans second.canvas).sized fun r c => ?_
    rw [second.lit, first.lit, decide_eq_decide.mpr (marks r c), Bool.xor_assoc, Bool.xor_self,
      Bool.xor_false]
  · rw [flag, Bool.toNat_eq_one, lost]
  · rw [flag, Bool.toNat_eq_zero, ← lost, Bool.not_eq_true]

end Machine

/-! ## Many drawings -/

/-- A drawing: what the registers are set to, and the word that draws. -/
structure Drawing where
  registers : Registers
  x : Fin 16
  y : Fin 16
  n : Fin 16

namespace Drawing

open Machine Processor
open Registers (flagPlace)

/-- Sets the registers and draws. -/
def act (d : Drawing) : Action Machine Unit := do
  changeRegisters fun _ => d.registers
  chip8.execute (spriteWord d.x d.y d.n)

/-- One drawing after another. -/
def actAll : List Drawing → Action Machine Unit
  | [] => pure ()
  | d :: rest => do
    d.act
    actAll rest

/-- The machine when the drawing begins. -/
def placed (d : Drawing) (m : Machine) : Machine := { m with registers := d.registers }

/-- A bit of the sprite is set over a pixel of the screen. -/
def Marks (d : Drawing) (m : Machine) (r c : Nat) : Prop := (d.placed m).Marks d.x d.y d.n r c

instance (d : Drawing) (m : Machine) (r c : Nat) : Decidable (d.Marks m r c) :=
  inferInstanceAs (Decidable (Machine.Marks _ _ _ _ r c))

/-- How many of some drawings mark a pixel. -/
def marking (drawings : List Drawing) (m : Machine) (r c : Nat) : Nat :=
  drawings.countP fun d => d.Marks m r c

variable {d : Drawing} {m after : Machine} {drawings : List Drawing}

theorem act_eq (d : Drawing) (m : Machine) :
    d.act m = chip8.execute (spriteWord d.x d.y d.n) (d.placed m) :=
  changeRegisters_bind _ _ m

theorem sameCanvas_placed (same : m.SameCanvas after) (d : Drawing) :
    SameCanvas (d.placed m) (d.placed after) :=
  ⟨same.cells, same.sized⟩

theorem marks_of_canvas (same : m.SameCanvas after) (d : Drawing) (r c : Nat) :
    d.Marks after r c ↔ d.Marks m r c :=
  (sameCanvas_placed same d).marks_iff rfl rfl rfl r c

theorem fits_of_canvas (same : m.SameCanvas after) (d : Drawing) :
    (d.placed after).SpriteFits d.n ↔ (d.placed m).SpriteFits d.n :=
  (sameCanvas_placed same d).fits_iff rfl

theorem marking_of_canvas (same : m.SameCanvas after) (drawings : List Drawing) (r c : Nat) :
    marking drawings after r c = marking drawings m r c := by
  refine List.countP_congr fun d _ => ?_
  simp only [decide_eq_true_eq]
  exact marks_of_canvas same d r c

/-- One drawing more that marks a pixel makes the other parity. -/
theorem odd_marking_cons (d : Drawing) (rest : List Drawing) (m : Machine) (r c : Nat) :
    decide (marking (d :: rest) m r c % 2 = 1) =
      (decide (d.Marks m r c) ^^ decide (marking rest m r c % 2 = 1)) := by
  rw [marking, List.countP_cons, ← marking]
  by_cases marked : d.Marks m r c
  · by_cases odd : marking rest m r c % 2 = 1
    · have even : (marking rest m r c + 1) % 2 ≠ 1 := by omega
      simp [marked, odd, even]
    · have other : (marking rest m r c + 1) % 2 = 1 := by omega
      simp [marked, odd, other]
  · simp [marked]

/-- **Of many drawings only their number counts.** -/
theorem lit_of_drawings (wide : 0 < m.devices.screen.width) (high : 0 < m.devices.screen.height)
    (fits : ∀ d ∈ drawings, (d.placed m).SpriteFits d.n) :
    ∃ after, actAll drawings m = ⟨after, .ok (), []⟩ ∧ m.SameCanvas after ∧
      ∀ r c : Nat, after.devices.screen.lit r c =
        (m.devices.screen.lit r c ^^ decide (marking drawings m r c % 2 = 1)) := by
  induction drawings generalizing m with
  | nil =>
      refine ⟨m, rfl, ⟨rfl, rfl, rfl⟩, fun r c => ?_⟩
      exact (Bool.xor_false _).symm
  | cons d rest ih =>
      obtain ⟨fits_first, fits_rest⟩ := List.forall_mem_cons.mp fits
      obtain ⟨middle, ran, painted⟩ :=
        paints_of_fits (m := d.placed m) (x := d.x) (y := d.y) wide high fits_first
      have canvas : m.SameCanvas middle := ⟨painted.canvas.cells, painted.canvas.sized⟩
      obtain ⟨width, height⟩ := canvas.sized
      obtain ⟨after, further, last, lit⟩ := ih (width ▸ wide) (height ▸ high) fun other member =>
        (fits_of_canvas canvas other).mpr (fits_rest other member)
      refine ⟨after, ?_, canvas.trans last, fun r c => ?_⟩
      · rw [actAll, Action.bind_of_ok ((act_eq d m).trans ran)]
        exact further
      · rw [lit, painted.lit, marking_of_canvas canvas, odd_marking_cons, Bool.xor_assoc]
        rfl

/-- Drawings that succeed one after another lie in memory. -/
theorem fits_of_performed (wide : 0 < m.devices.screen.width)
    (high : 0 < m.devices.screen.height) (performed : (actAll drawings m).result = .ok ()) :
    ∀ d ∈ drawings, (d.placed m).SpriteFits d.n := by
  induction drawings generalizing m with
  | nil => exact fun d member => nomatch member
  | cons d rest ih =>
      -- a drawing that does not fit fails, and so does the whole
      rcases ran : d.act m with ⟨middle, result, events⟩
      cases result with
      | error fault =>
          rw [actAll, Action.bind_of_error ran] at performed
          cases performed
      | ok _ =>
          have fits := fits_of_executed ((act_eq d m).symm.trans ran)
          obtain ⟨after, executed, painted⟩ :=
            paints_of_fits (m := d.placed m) (x := d.x) (y := d.y) wide high fits
          rw [act_eq, executed] at ran
          cases ran
          have canvas : m.SameCanvas middle := ⟨painted.canvas.cells, painted.canvas.sized⟩
          obtain ⟨width, height⟩ := canvas.sized
          rw [actAll, Action.bind_of_ok ((act_eq d m).trans executed)] at performed
          refine List.forall_mem_cons.mpr ⟨fits, fun other member => ?_⟩
          exact (fits_of_canvas canvas other).mp
            (ih (width ▸ wide) (height ▸ high) performed other member)

/-- A screen that shows what the number of drawings asks for is the screen that they leave. -/
theorem screen_of_parity (wide : 0 < m.devices.screen.width)
    (high : 0 < m.devices.screen.height) (fits : ∀ d ∈ drawings, (d.placed m).SpriteFits d.n)
    {screen : Framebuffer} (sized : screen.Sized m.devices.screen.width m.devices.screen.height)
    (lit : ∀ r c : Nat, screen.lit r c =
      (m.devices.screen.lit r c ^^ decide (marking drawings m r c % 2 = 1))) :
    (actAll drawings m).result = .ok () ∧
      (actAll drawings m).state.devices.screen = screen := by
  obtain ⟨after, ran, canvas, left⟩ := lit_of_drawings wide high fits
  rw [ran]
  refine ⟨rfl, Framebuffer.eq_of_lit ?_ fun r c => (left r c).trans (lit r c).symm⟩
  exact ⟨canvas.sized.1.trans sized.1.symm, canvas.sized.2.trans sized.2.symm⟩

/-- What holds of drawings that succeed one after another. -/
structure Laws (m : Machine) (drawings : List Drawing) : Prop where
  /-- A pixel has changed if an odd number of drawings marks it. -/
  changed : ∀ r c : Nat,
    (actAll drawings m).state.devices.screen.lit r c ≠ m.devices.screen.lit r c ↔
      marking drawings m r c % 2 = 1
  reordered : ∀ order, order.Perm drawings →
    (actAll order m).result = .ok () ∧
      (actAll order m).state.devices.screen = (actAll drawings m).state.devices.screen
  /-- Drawings that are made twice are undone. -/
  cancelled : ∀ order, order.Perm (drawings ++ drawings) →
    (actAll order m).result = .ok () ∧
      (actAll order m).state.devices.screen = m.devices.screen
  /-- If a sprite is drawn again at once, the flag says whether its first drawing switched a pixel
  on. -/
  repeated : ∀ d ∈ drawings, d.x ≠ flagPlace → d.y ≠ flagPlace →
    ∃ middle after, d.act m = ⟨middle, .ok (), []⟩ ∧
      chip8.execute (spriteWord d.x d.y d.n) middle = ⟨after, .ok (), []⟩ ∧
      after.devices.screen = m.devices.screen ∧
      (after.registers.flag = 1 ↔ ∃ r c, d.Marks m r c ∧ ¬ m.devices.screen.lit r c) ∧
      (after.registers.flag = 0 ↔ ¬ ∃ r c, d.Marks m r c ∧ ¬ m.devices.screen.lit r c)

/-- **Drawings commute and cancel.** -/
theorem drawings_commute_and_cancel (wide : 0 < m.devices.screen.width)
    (high : 0 < m.devices.screen.height) (performed : (actAll drawings m).result = .ok ()) :
    Laws m drawings := by
  have fits := fits_of_performed wide high performed
  obtain ⟨after, ran, canvas, lit⟩ := lit_of_drawings wide high fits
  refine ⟨fun r c => ?_, fun order same => ?_, fun order same => ?_, ?_⟩
  · rw [ran, lit]
    cases m.devices.screen.lit r c with
    | false => simp
    | true => simp
  · rw [ran]
    refine screen_of_parity wide high ?_ canvas.sized fun r c => ?_
    · exact fun d member => fits d (same.mem_iff.mp member)
    · rw [lit, marking, marking, same.countP_eq]
  · refine screen_of_parity wide high ?_ ⟨rfl, rfl⟩ fun r c => ?_
    · intro d member
      rcases List.mem_append.mp (same.mem_iff.mp member) with first | second
      · exact fits d first
      · exact fits d second
    · have even : marking order m r c % 2 ≠ 1 := by
        rw [marking, same.countP_eq, List.countP_append]
        omega
      rw [decide_eq_false even, Bool.xor_false]
  · intro d member column row
    obtain ⟨middle, first, painted⟩ := paints_of_fits (m := d.placed m) (x := d.x) (y := d.y) wide
      high (fits d member)
    obtain ⟨_, flagged, _⟩ := painted.registers
    obtain ⟨width, height⟩ := painted.canvas.sized
    have index : middle.registers.index = d.registers.index := by
      rw [flagged]
      rfl
    obtain ⟨last, second, again⟩ := paints_of_fits (x := d.x) (y := d.y) (width.symm ▸ wide)
      (height.symm ▸ high) ((painted.canvas.fits_iff index).mpr (fits d member))
    exact ⟨middle, last, (act_eq d m).trans first, second, paints_again painted again column row⟩

/-- A sprite of one row in the upper left corner. -/
def rowFrom (index : Int) : Drawing :=
  ⟨{ Registers.initial with index := index }, Registers.place 2, Registers.place 3,
    Registers.place 1⟩

/-- Two sprites of one row, one over the other. -/
def overlapping : List Drawing := [rowFrom 0, rowFrom 1]

/-- A machine with the rows `11110000` and `01010101`, and a screen of eight pixels. -/
def striped : Machine := ofWord 0xF0 0x55 .everyCycle

/-- They leave the same screen in the other order, on which a pixel that both mark is as before. -/
theorem overlapping_in_either_order :
    0 < striped.devices.screen.width ∧ 0 < striped.devices.screen.height ∧
      (actAll overlapping striped).result = .ok () ∧
      (actAll overlapping.reverse striped).state.devices.screen =
        (actAll overlapping striped).state.devices.screen ∧
      (actAll overlapping striped).state.devices.screen.lit 0 0 ≠ striped.devices.screen.lit 0 0 ∧
      (actAll overlapping striped).state.devices.screen.lit 0 1 =
        striped.devices.screen.lit 0 1 := by
  have wide : 0 < striped.devices.screen.width := by decide
  have high : 0 < striped.devices.screen.height := by decide
  have performed : (actAll overlapping striped).result = .ok () := by rfl
  have laws := drawings_commute_and_cancel wide high performed
  refine ⟨wide, high, performed, ?_, ?_, ?_⟩
  · exact (laws.reordered overlapping.reverse (List.reverse_perm overlapping)).2
  · exact (laws.changed 0 0).mpr (by decide)
  · exact Decidable.not_not.mp fun other => absurd ((laws.changed 0 1).mp other) (by decide)

end Drawing

end Chip8
