import Chip8.Fault

/-!
# The framebuffer

A grid of pixels that are on or off, addressed by row and column from the top
left corner.  The sizes are kept as they were asked for; a size that is not
positive gives a grid without pixels.  Every access is checked against the
sizes, and one outside them fails and changes nothing.
-/

namespace Chip8

set_option autoImplicit false

/-- A grid of pixels: as many rows as it is high, each as long as it is wide. -/
structure Framebuffer where
  width : Int
  height : Int
  rows : Array (Array Bool)
  size_rows : rows.size = height.toNat
  size_row : ∀ row (h : row < rows.size), rows[row].size = width.toNat
  deriving DecidableEq, Repr

namespace Framebuffer

/-- The width of a screen for which none is asked. -/
def defaultWidth : Nat := 64

/-- The height of a screen for which none is asked. -/
def defaultHeight : Nat := 32

/-- A grid with every pixel off. -/
def blank (width height : Int) : Framebuffer where
  width := width
  height := height
  rows := Array.replicate height.toNat (Array.replicate width.toNat false)
  size_rows := by simp
  size_row := by simp

/-- Every pixel off. -/
def clear (screen : Framebuffer) : Framebuffer := blank screen.width screen.height

/-- Whether a pixel is on; outside the grid none is. -/
def lit (screen : Framebuffer) (row column : Nat) : Bool :=
  (screen.rows[row]?.bind (·[column]?)).getD false

/-- Sets a pixel; outside the grid nothing happens. -/
def put (screen : Framebuffer) (row column : Nat) (on : Bool) : Framebuffer :=
  { screen with
    rows := screen.rows.modify row (·.setIfInBounds column on)
    size_rows := by simp [screen.size_rows]
    size_row := by
      intro r h
      simp only [Array.size_modify] at h
      rw [Array.getElem_modify]
      split <;> simp [screen.size_row r h] }

/-- Whether a row and a column are those of a pixel. -/
def holds (screen : Framebuffer) (row column : Int) : Bool :=
  0 ≤ row && row < screen.height && 0 ≤ column && column < screen.width

/-- Fails unless the row and the column are those of a pixel. -/
def check (screen : Framebuffer) (row column : Int) : Except Fault Unit :=
  if screen.holds row column then .ok ()
  else .error (.pixelOutOfBounds row column screen.width screen.height)

/-- Whether a pixel is on. -/
def get (screen : Framebuffer) (row column : Int) : Except Fault Bool :=
  match screen.check row column with
  | .ok () => .ok (screen.lit row.toNat column.toNat)
  | .error fault => .error fault

/-- Switches a pixel on or off. -/
def set (screen : Framebuffer) (row column : Int) (on : Bool) : Except Fault Framebuffer :=
  match screen.check row column with
  | .ok () => .ok (screen.put row.toNat column.toNat on)
  | .error fault => .error fault

/-- Flips the pixels of a row under the set bits of a byte, the highest bit at the
given column.  Bits beyond the right edge are left out.  The answer also says whether
a pixel went off. -/
def flipByte (screen : Framebuffer) (row column : Nat) (byte : Nat) : Framebuffer × Bool :=
  (List.range 8).foldl
    (fun (screen, erased) bit =>
      if column + bit < screen.width.toNat ∧ byte.testBit (7 - bit) then
        let on := screen.lit row (column + bit)
        (screen.put row (column + bit) (!on), erased || on)
      else (screen, erased))
    (screen, false)

/-- The rows as lists, from the top. -/
def toLists (screen : Framebuffer) : List (List Bool) := screen.rows.toList.map Array.toList

/-- How many pixels are on. -/
def litCount (screen : Framebuffer) : Nat :=
  screen.toLists.foldl (fun found row => found + row.count true) 0

/-! ## Pixels after each operation -/

theorem lit_blank (width height : Int) (row column : Nat) :
    (blank width height).lit row column = false := by
  simp only [lit, blank, Array.getElem?_replicate]
  split
  · simp only [Option.bind_some, Array.getElem?_replicate]
    split <;> rfl
  · rfl

theorem lit_put (screen : Framebuffer) (row column r c : Nat) (on : Bool) :
    (screen.put row column on).lit r c =
      if r = row ∧ c = column ∧ row < screen.height.toNat ∧ column < screen.width.toNat then on
      else screen.lit r c := by
  simp only [lit, put, Array.getElem?_modify]
  by_cases hr : r < screen.rows.size
  · have hw := screen.size_row r hr
    have hh := screen.size_rows
    by_cases h : row = r
    · subst h
      have hrow : screen.rows[row]? = some screen.rows[row] := Array.getElem?_eq_getElem hr
      rw [hrow]
      by_cases hc : column = c
      · subst hc
        by_cases hw' : column < screen.width.toNat <;> simp [hw', hw, hr, ← hh]
      · simp [hc, Ne.symm hc]
    · simp [h, Ne.symm h]
  · have hh := screen.size_rows
    by_cases h : row = r
    · subst h
      simp [← hh, hr]
    · simp [h, Ne.symm h]

end Framebuffer

end Chip8
