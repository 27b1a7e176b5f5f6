import Chip8.Proofs.Decoding
import Mathlib.Data.Int.Bitwise
import Mathlib.Data.Int.ModEq
import Mathlib.Tactic.Positivity
import Mathlib.Tactic.Ring

/-!
# The fields of a word

A field is a run of bits of an integer.  It is cut out with a mask and moved down to the first place
(`masked`), or it is the remainder of a quotient (`decode`).  Both find the same in every integer,
in a negative one as well, whose bits are those of its two's complement (`decode_eq_masked`).

Fields that lie side by side make one field (`field_join`), and a field does not look beyond its own
last bit (`field_emod`).  So a word is put together again from its fields, and of an integer
decoding keeps the low sixteen bits and nothing else (`decoding_keeps_low_bits`).
-/

namespace Chip8

set_option autoImplicit false

namespace Opcode

variable {low width bits : Nat} {v w : Int}

/-! ## Runs of bits -/

/-- The run of bits of an integer from a place on, moved down to the first place. -/
def field (low width : Nat) (w : Int) : Int := w / 2 ^ low % 2 ^ width

/-- Two fields side by side make one field. -/
theorem field_join (low first second : Nat) (w : Int) :
    field low (first + second) w =
      2 ^ first * field (low + first) second w + field low first w := by
  have base (n : Nat) : (0 : Int) ≤ 2 ^ n := by positivity
  -- each remainder is what the quotient leaves, and the quotient by a product is taken in two steps
  simp only [field, pow_add, Int.emod_def, ← Int.ediv_ediv_of_nonneg (base _)]
  ring

/-- A field within the low bits of an integer is a field of these bits. -/
theorem field_emod (within : low + width ≤ bits) (w : Int) :
    field low width (w % 2 ^ bits) = field low width w := by
  obtain ⟨more, rfl⟩ := Nat.exists_eq_add_of_le within
  have split : w = w % 2 ^ (low + width + more) +
      2 ^ low * (2 ^ width * (2 ^ more * (w / 2 ^ (low + width + more)))) := by
    rw [← mul_assoc, ← mul_assoc, ← pow_add, ← pow_add, Int.emod_add_mul_ediv]
  have base : (2 : Int) ^ low ≠ 0 := by positivity
  unfold field
  conv_rhs => rw [split, Int.add_mul_ediv_left _ _ base, Int.add_mul_emod_self_left]

theorem field_natCast (m : Nat) : field low width m = (m / 2 ^ low % 2 ^ width : Nat) := by
  unfold field
  push_cast
  rfl

/-- In two's complement a negative integer has the opposite of each bit of a natural number. -/
theorem field_negSucc (m : Nat) :
    field low width (Int.negSucc m) = (2 ^ width - (m / 2 ^ low % 2 ^ width + 1) : Nat) := by
  have below : m / 2 ^ low % 2 ^ width < 2 ^ width := Nat.mod_lt _ (by positivity)
  have quotient : Int.negSucc m / 2 ^ low = Int.negSucc (m / 2 ^ low) := by
    rw [Int.negSucc_ediv m (by positivity), Int.negSucc_eq]
    push_cast
    rfl
  rw [field, quotient, Int.negSucc_emod _ (by positivity), Nat.cast_sub below]
  push_cast
  ring

/-! ## Masks -/

/-- The mask that keeps the run of bits from a place on. -/
def mask (low width : Nat) : Nat := (2 ^ width - 1) * 2 ^ low

theorem testBit_mask (place : Nat) :
    (mask low width).testBit place = (decide (low ≤ place) && decide (place - low < width)) := by
  rw [mask, Nat.testBit_mul_two_pow, Nat.testBit_two_pow_sub_one]

/-- The bits of a number that a mask keeps. -/
theorem and_mask (m : Nat) : m &&& mask low width = m / 2 ^ low % 2 ^ width * 2 ^ low := by
  apply Nat.eq_of_testBit_eq
  intro place
  rw [Nat.testBit_and, testBit_mask, Nat.testBit_mul_two_pow, Nat.testBit_mod_two_pow,
    Nat.testBit_div_two_pow]
  by_cases above : low ≤ place
  · rw [Nat.sub_add_cancel above]
    simp [above, Bool.and_comm]
  · simp [above]

/-- The bits of a mask that a number does not have. -/
theorem mask_ldiff (m : Nat) :
    (mask low width).ldiff m = (2 ^ width - (m / 2 ^ low % 2 ^ width + 1)) * 2 ^ low := by
  have below : m / 2 ^ low % 2 ^ width < 2 ^ width := Nat.mod_lt _ (by positivity)
  apply Nat.eq_of_testBit_eq
  intro place
  rw [Nat.testBit_ldiff, testBit_mask, Nat.testBit_mul_two_pow, Nat.testBit_two_pow_sub_succ below,
    Nat.testBit_mod_two_pow, Nat.testBit_div_two_pow]
  by_cases above : low ≤ place
  · rw [Nat.sub_add_cancel above]
    by_cases inside : place - low < width
    · simp [above, inside]
    · simp [inside]
  · simp [above]

/-- **A mask keeps the field of an integer**, in place and whatever the sign. -/
theorem land_mask (low width : Nat) (w : Int) :
    Int.land w (mask low width) = field low width w * 2 ^ low := by
  cases w with
  | ofNat m =>
      have kept : Int.land (Int.ofNat m) (mask low width) = (m &&& mask low width : Nat) := rfl
      rw [kept, and_mask, Int.ofNat_eq_natCast, field_natCast, Nat.cast_mul, Nat.cast_pow]
      rfl
  | negSucc m =>
      have kept :
          Int.land (Int.negSucc m) (mask low width) = ((mask low width).ldiff m : Nat) := rfl
      rw [kept, mask_ldiff, field_negSucc, Nat.cast_mul, Nat.cast_pow]
      rfl

theorem land_mask_zero (width : Nat) (w : Int) : Int.land w (mask 0 width) = field 0 width w := by
  rw [land_mask, pow_zero, mul_one]

/-- The bits that a mask keeps are the field once they are moved down. -/
theorem land_mask_shiftRight (low width : Nat) (w : Int) :
    Int.land w (mask low width) >>> low = field low width w := by
  rw [land_mask, ← Int.shiftLeft_eq, Int.shiftLeft_shiftRight_cancel]

/-! ## Decoding as a choice of fields -/

/-- Takes the low sixteen bits of an integer apart with masks. -/
def masked (word : Int) : Opcode where
  word := Int.land word 0xFFFF
  family := Int.land word 0xF000
  x := Int.land word 0x0F00 >>> (8 : Nat)
  y := Int.land word 0x00F0 >>> (4 : Nat)
  n := Int.land word 0x000F
  nn := Int.land word 0x00FF
  nnn := Int.land word 0x0FFF

theorem decode_eq_fields (w : Int) :
    decode w = ⟨field 0 16 w, field 12 4 w * 2 ^ 12, field 8 4 w, field 4 4 w, field 0 4 w,
      field 0 8 w, field 0 12 w⟩ := by
  simp only [decode, field, mk.injEq]
  omega

/-- **Masks and remainders find the same fields.** -/
theorem decode_eq_masked (w : Int) : decode w = masked w := by
  rw [decode_eq_fields, ← land_mask_zero 16, ← land_mask 12 4, ← land_mask_shiftRight 8 4,
    ← land_mask_shiftRight 4 4, ← land_mask_zero 4, ← land_mask_zero 8, ← land_mask_zero 12]
  rfl

/-! ## What decoding keeps -/

/-- The word is its family and its address. -/
theorem word_decode (w : Int) : (decode w).word = (decode w).family + (decode w).nnn := by
  rw [decode_eq_fields, mul_comm]
  exact field_join 0 12 4 w

/-- The address is the first register number and the byte. -/
theorem nnn_decode (w : Int) : (decode w).nnn = 256 * (decode w).x + (decode w).nn := by
  rw [decode_eq_fields]
  exact field_join 0 8 4 w

/-- The byte is the second register number and the last nibble. -/
theorem nn_decode (w : Int) : (decode w).nn = 16 * (decode w).y + (decode w).n := by
  rw [decode_eq_fields]
  exact field_join 0 4 4 w

/-- The family is a nibble in the top place. -/
theorem family_decode (w : Int) :
    4096 ∣ (decode w).family ∧ 0 ≤ (decode w).family ∧ (decode w).family ≤ 0xF000 := by
  have nonneg : 0 ≤ field 12 4 w := Int.emod_nonneg _ (by decide)
  have below : field 12 4 w < 16 := Int.emod_lt_of_pos _ (by decide)
  rw [decode_eq_fields]
  dsimp only
  omega

/-- Decoding does not look beyond the low sixteen bits. -/
theorem decode_emod (w : Int) : decode (w % 65536) = decode w := by
  have low_bits (low width : Nat) (within : low + width ≤ 16) :
      field low width (w % 65536) = field low width w := field_emod within w
  simp (disch := decide) only [decode_eq_fields, low_bits]

/-- Integers that are decoded alike have the same low sixteen bits, as these are the word. -/
theorem decode_eq_decode_iff : decode v = decode w ↔ v ≡ w [ZMOD 65536] := by
  constructor
  · intro same
    exact congrArg word same
  · intro congruent
    rw [← decode_emod v, congruent, decode_emod]

/-- **Decoding keeps the low sixteen bits of an integer, and nothing else.**  It takes them apart as
masks do, its fields make up the word again, and two integers are decoded alike exactly if they
agree in these bits. -/
theorem decoding_keeps_low_bits (w : Int) :
    decode w = masked w ∧ decode w = decode (w % 65536) ∧
      (decode w).word = w % 65536 ∧
      (decode w).word = (decode w).family + (decode w).nnn ∧
      (decode w).nnn = 256 * (decode w).x + (decode w).nn ∧
      (decode w).nn = 16 * (decode w).y + (decode w).n ∧
      IsNibble (decode w).x ∧ IsNibble (decode w).y ∧ IsNibble (decode w).n ∧
      (4096 ∣ (decode w).family ∧ 0 ≤ (decode w).family ∧ (decode w).family ≤ 0xF000) ∧
      ∀ v, decode v = decode w ↔ v ≡ w [ZMOD 65536] := by
  have fits := fits_decode w
  exact ⟨decode_eq_masked w, (decode_emod w).symm, rfl, word_decode w, nnn_decode w, nn_decode w,
    fits.x, fits.y, fits.n, family_decode w, fun _ => decode_eq_decode_iff⟩

/-- A negative integer with the low bits of a word that draws. -/
example : decode (-0x2C5B) = ⟨0xD3A5, 0xD000, 0x3, 0xA, 0x5, 0xA5, 0x3A5⟩ := by decide

end Opcode

end Chip8
