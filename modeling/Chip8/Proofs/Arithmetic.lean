import Chip8.Proofs.Cycle

/-!
# The laws of arithmetic

The words of arithmetic take one or two registers and leave a result in the first of them.  Some of
them leave a flag besides, in the last register.  This register may itself be an operand, and it may
be the one that takes the result, so that the order in which result and flag are written can be
seen: an addition writes the flag last, subtractions and shifts write it first.

There are three shapes: a result without a flag (`computes_of_result`), a flag before the result
(`computes_of_flag_first`) and a flag after it (`computes_of_flag_last`).  The operands are the
registers as the cycle finds them in all three, whichever registers they are, and the laws of the
nine words follow (`arithmetic_laws`).
-/

namespace Chip8

set_option autoImplicit false

namespace Registers

variable (r : Registers) (x z : Fin 16)

theorem place_natCast : place (x : Nat) = x := by
  apply Fin.ext
  simp only [place]
  omega

theorem get_natCast : r.get (x : Nat) = r.v.get x :=
  congrArg r.v.get (place_natCast x)

theorem v_set (value : Nat) :
    (r.set (x : Nat) value).v.get z = if z = x then value else r.v.get z := by
  rw [← get_natCast, ← get_natCast, get_set, place_natCast, place_natCast]

theorem v_setFlag (flag : Int) :
    (r.setFlag flag).v.get z = if z = flagPlace then (flag % 256).toNat else r.v.get z := by
  rw [← get_natCast, ← get_natCast, get_setFlag, place_natCast]

end Registers

namespace Machine

open Processor
open Registers (flagPlace)

variable {m : Machine} {instruction : Instruction} {x : Fin 16} {result : Nat}

/-! ## Cycles that compute -/

/-- The cycle of a machine succeeds, and the general registers before and after it obey a law.  Of
these registers it changes at most one and the flag register. -/
def Computes (m : Machine) (x : Fin 16) (law : (Fin 16 → Nat) → (Fin 16 → Nat) → Prop) : Prop :=
  ∃ after record, step m = ⟨after, .ok record, []⟩ ∧
    law m.registers.v.get after.registers.v.get ∧
    ∀ z, z ≠ x → z ≠ flagPlace → after.registers.v.get z = m.registers.v.get z

theorem Computes.mono {law weaker : (Fin 16 → Nat) → (Fin 16 → Nat) → Prop}
    (computes : m.Computes x law) (implied : ∀ new, law m.registers.v.get new →
      weaker m.registers.v.get new) : m.Computes x weaker := by
  obtain ⟨after, record, cycle, holds, others⟩ := computes
  exact ⟨after, record, cycle, implied _ holds, others⟩

/-- A cycle whose instruction changes registers only succeeds with the changed registers. -/
theorem step_of_change (inside : m.Inside) (denotes : Instruction.Denotes m.opcode instruction)
    {change : Registers → Registers}
    (changes : effect instruction m.fetched = changeRegisters change m.fetched) :
    ∃ after record, step m = ⟨after, .ok record, []⟩ ∧
      after.registers = change m.registers.advance :=
  ⟨_, _, step_of_effect inside denotes changes, rfl⟩

/-- A result without a flag leaves the flag register alone, unless it is put there. -/
theorem computes_of_result (inside : m.Inside)
    (denotes : Instruction.Denotes m.opcode instruction)
    (changes : effect instruction m.fetched =
      changeRegisters (fun r => r.set (x : Nat) result) m.fetched) :
    m.Computes x fun old new =>
      new x = result ∧ (x ≠ flagPlace → new flagPlace = old flagPlace) := by
  obtain ⟨after, record, cycle, registers⟩ := step_of_change inside denotes changes
  refine ⟨after, record, cycle, ?_, fun z other _ => ?_⟩
  · rw [registers]
    refine ⟨?_, fun apart => ?_⟩
    · rw [Registers.v_set, if_pos rfl]
    · rw [Registers.v_set, if_neg apart.symm]
      rfl
  · rw [registers, Registers.v_set, if_neg other]
    rfl

/-- Of a flag that is written before the result, the result is what stays in the flag register. -/
theorem computes_of_flag_first {flag : Int} (inside : m.Inside)
    (denotes : Instruction.Denotes m.opcode instruction)
    (changes : effect instruction m.fetched =
      changeRegisters (fun r => (r.setFlag flag).set (x : Nat) result) m.fetched) :
    m.Computes x fun _ new =>
      new x = result ∧ (x ≠ flagPlace → new flagPlace = (flag % 256).toNat) := by
  obtain ⟨after, record, cycle, registers⟩ := step_of_change inside denotes changes
  refine ⟨after, record, cycle, ?_, fun z other no_flag => ?_⟩
  · rw [registers]
    refine ⟨?_, fun apart => ?_⟩
    · rw [Registers.v_set, if_pos rfl]
    · rw [Registers.v_set, if_neg apart.symm, Registers.v_setFlag, if_pos rfl]
  · rw [registers, Registers.v_set, if_neg other, Registers.v_setFlag, if_neg no_flag]
    rfl

/-- A flag that is written after the result stays in the flag register in any case. -/
theorem computes_of_flag_last {flag : Int} (inside : m.Inside)
    (denotes : Instruction.Denotes m.opcode instruction)
    (changes : effect instruction m.fetched =
      changeRegisters (fun r => (r.set (x : Nat) result).setFlag flag) m.fetched) :
    m.Computes x fun _ new =>
      (x ≠ flagPlace → new x = result) ∧ new flagPlace = (flag % 256).toNat := by
  obtain ⟨after, record, cycle, registers⟩ := step_of_change inside denotes changes
  refine ⟨after, record, cycle, ?_, fun z other no_flag => ?_⟩
  · rw [registers]
    refine ⟨fun apart => ?_, ?_⟩
    · rw [Registers.v_setFlag, if_neg apart, Registers.v_set, if_pos rfl]
    · rw [Registers.v_setFlag, if_pos rfl]
  · rw [registers, Registers.v_setFlag, if_neg no_flag, Registers.v_set, if_neg other]
    rfl

/-! ## The words of arithmetic -/

/-- The operands of an instruction are the registers as the cycle found them. -/
theorem get_fetched (m : Machine) (x : Fin 16) :
    m.fetched.registers.get (x : Nat) = m.registers.v.get x :=
  Registers.get_natCast _ x

theorem flag_of_condition (condition : Prop) [Decidable condition] :
    ((if condition then (1 : Int) else 0) % 256).toNat = if condition then 1 else 0 := by
  split
  · rfl
  · rfl

/-- The fields of a word of the family `0x8`. -/
theorem fields_of_pair {y : Fin 16} (kind : Nat) (small : kind < 16)
    (word : m.word = 0x8000 + kind + 0x100 * x + 0x10 * y) :
    m.opcode.family = 0x8000 ∧ m.opcode.x = (x : Nat) ∧ m.opcode.y = (y : Nat) ∧
      m.opcode.n = kind := by
  have x_small := x.isLt
  have y_small := y.isLt
  simp only [opcode, Opcode.decode, word]
  omega

/-- The laws of the words of arithmetic that name the registers `x` and `y`, and a byte.  The
operands are the registers before the cycle, also where the cycle writes one of them first. -/
structure ArithmeticLaws (m : Machine) (x y : Fin 16) (byte : Fin 256) : Prop where
  addByte : m.word = 0x7000 + 0x100 * x + byte → m.Computes x fun old new =>
    new x = (old x + byte) % 256 ∧ (x ≠ flagPlace → new flagPlace = old flagPlace)
  or : m.word = 0x8001 + 0x100 * x + 0x10 * y → m.Computes x fun old new =>
    new x = old x ||| old y ∧ (x ≠ flagPlace → new flagPlace = old flagPlace)
  and : m.word = 0x8002 + 0x100 * x + 0x10 * y → m.Computes x fun old new =>
    new x = old x &&& old y ∧ (x ≠ flagPlace → new flagPlace = old flagPlace)
  xor : m.word = 0x8003 + 0x100 * x + 0x10 * y → m.Computes x fun old new =>
    new x = old x ^^^ old y ∧ (x ≠ flagPlace → new flagPlace = old flagPlace)
  /-- The carry stays also where the sum would be. -/
  add : m.word = 0x8004 + 0x100 * x + 0x10 * y → m.Computes x fun old new =>
    (x ≠ flagPlace → new x = (old x + old y) % 256) ∧
      new flagPlace = if 255 < old x + old y then 1 else 0
  subtract : m.word = 0x8005 + 0x100 * x + 0x10 * y → m.Computes x fun old new =>
    (new x : Int) = ((old x : Int) - old y) % 256 ∧
      (x ≠ flagPlace → new flagPlace = if old y < old x then 1 else 0)
  subtractFrom : m.word = 0x8007 + 0x100 * x + 0x10 * y → m.Computes x fun old new =>
    (new x : Int) = ((old y : Int) - old x) % 256 ∧
      (x ≠ flagPlace → new flagPlace = if old x < old y then 1 else 0)
  /-- No bit is lost: result and flag are the operand. -/
  shiftRight : m.word = 0x8006 + 0x100 * x + 0x10 * y → m.Computes x fun old new =>
    new x = old x / 2 ∧
      (x ≠ flagPlace → new flagPlace ≤ 1 ∧ 2 * new x + new flagPlace = old x)
  /-- No bit of a byte is lost: result and flag are twice the operand. -/
  shiftLeft : m.word = 0x800E + 0x100 * x + 0x10 * y → m.Computes x fun old new =>
    new x = 2 * old x % 256 ∧
      (x ≠ flagPlace → new flagPlace ≤ 1 ∧
        (old x < 256 → 256 * new flagPlace + new x = 2 * old x))

/-- **The laws of arithmetic hold of every cycle**, whichever registers its word names: the same one
twice, or the flag register. -/
theorem arithmetic_laws (inside : m.Inside) (x y : Fin 16) (byte : Fin 256) :
    m.ArithmeticLaws x y byte where
  addByte := by
    intro word
    have denotes : Instruction.Denotes m.opcode (.addByte m.opcode.x m.opcode.nn) :=
      .addByte (by rw [opcode_family]; omega)
    have register : m.opcode.x = (x : Nat) := by rw [opcode_x]; omega
    have operand : m.opcode.nn = (byte : Nat) := by rw [opcode_nn]; omega
    rw [register, operand] at denotes
    refine (computes_of_result inside denotes rfl).mono fun new law => ?_
    rw [get_fetched] at law
    obtain ⟨sum, flag⟩ := law
    exact ⟨by omega, flag⟩
  or := by
    intro word
    obtain ⟨family, first, second, kind⟩ := fields_of_pair 1 (by decide) word
    have denotes := first ▸ second ▸ Instruction.Denotes.or family kind
    refine (computes_of_result inside denotes rfl).mono fun new law => ?_
    rwa [get_fetched, get_fetched] at law
  and := by
    intro word
    obtain ⟨family, first, second, kind⟩ := fields_of_pair 2 (by decide) word
    have denotes := first ▸ second ▸ Instruction.Denotes.and family kind
    refine (computes_of_result inside denotes rfl).mono fun new law => ?_
    rwa [get_fetched, get_fetched] at law
  xor := by
    intro word
    obtain ⟨family, first, second, kind⟩ := fields_of_pair 3 (by decide) word
    have denotes := first ▸ second ▸ Instruction.Denotes.xor family kind
    refine (computes_of_result inside denotes rfl).mono fun new law => ?_
    rwa [get_fetched, get_fetched] at law
  add := by
    intro word
    obtain ⟨family, first, second, kind⟩ := fields_of_pair 4 (by decide) word
    have denotes := first ▸ second ▸ Instruction.Denotes.add family kind
    refine (computes_of_flag_last inside denotes rfl).mono fun new law => ?_
    rwa [get_fetched, get_fetched, flag_of_condition] at law
  subtract := by
    intro word
    obtain ⟨family, first, second, kind⟩ := fields_of_pair 5 (by decide) word
    have denotes := first ▸ second ▸ Instruction.Denotes.subtract family kind
    refine (computes_of_flag_first inside denotes rfl).mono fun new law => ?_
    rw [get_fetched, get_fetched, flag_of_condition] at law
    obtain ⟨difference, flag⟩ := law
    exact ⟨by omega, flag⟩
  subtractFrom := by
    intro word
    obtain ⟨family, first, second, kind⟩ := fields_of_pair 7 (by decide) word
    have denotes := first ▸ second ▸ Instruction.Denotes.subtractFrom family kind
    refine (computes_of_flag_first inside denotes rfl).mono fun new law => ?_
    rw [get_fetched, get_fetched, flag_of_condition] at law
    obtain ⟨difference, flag⟩ := law
    exact ⟨by omega, flag⟩
  shiftRight := by
    intro word
    obtain ⟨family, first, _, kind⟩ := fields_of_pair 6 (by decide) word
    have denotes := first ▸ Instruction.Denotes.shiftRight family kind
    refine (computes_of_flag_first inside denotes rfl).mono fun new law => ?_
    rw [get_fetched] at law
    obtain ⟨half, flag⟩ := law
    refine ⟨half, fun apart => ?_⟩
    have bit := flag apart
    omega
  shiftLeft := by
    intro word
    obtain ⟨family, first, _, kind⟩ := fields_of_pair 14 (by decide) word
    have denotes := first ▸ Instruction.Denotes.shiftLeft family kind
    refine (computes_of_flag_first inside denotes rfl).mono fun new law => ?_
    rw [get_fetched] at law
    obtain ⟨twice, flag⟩ := law
    refine ⟨by omega, fun apart => ?_⟩
    have bit := flag apart
    omega

/-- A machine that is about to add a register to the flag register, with a carry. -/
def carrying : Machine :=
  { ofWord 0x8F 0x14 .everyCycle with
    registers := { (Registers.initial.set 15 200).set 1 100 with pc := 0 } }

/-- The law of addition applies, and the carry is what stays. -/
theorem carry_stays_in_flag_register :
    carrying.Inside ∧ carrying.Computes 15 fun _ new => new 15 = 1 := by
  have inside : carrying.Inside := by decide
  have word : carrying.word = 0x8004 + 0x100 * (15 : Fin 16) + 0x10 * (1 : Fin 16) := by decide
  refine ⟨inside, ((arithmetic_laws inside 15 1 0).add word).mono fun new law => ?_⟩
  exact law.2.trans (by decide)

end Machine

end Chip8
