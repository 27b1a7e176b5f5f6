import Chip8.Machine.Execute

/-!
# The instruction table

The search for the instruction of a word goes through the families in order.  Read as a
relation the table has one entry for each instruction, with the fields that select it and the
fields that become its operands (`Denotes`); the search finds exactly what the table says
(`ofOpcode?_eq_some_iff`).

The fields of a word fit their widths, and so do the operands of its instruction
(`Denotes.fits`): register numbers and heights are nibbles, bytes are bytes and addresses have
twelve bits.  So no instruction of a word names a register that does not exist, and executing
it is its effect (`execute_of_fits`).
-/

namespace Chip8

set_option autoImplicit false

namespace Instruction

/-! ## The table as a relation -/

/-- The fields of a word denote an instruction. -/
inductive Denotes (op : Opcode) : Instruction → Prop where
  | clearScreen : op.family = 0x0000 → op.nnn = 0x0E0 → Denotes op .clearScreen
  | leave : op.family = 0x0000 → op.nnn = 0x0EE → Denotes op .leave
  | system : op.family = 0x0000 → op.nnn ≠ 0x0E0 → op.nnn ≠ 0x0EE → Denotes op (.system op.nnn)
  | jump : op.family = 0x1000 → Denotes op (.jump op.nnn)
  | call : op.family = 0x2000 → Denotes op (.call op.nnn)
  | skipIfByte : op.family = 0x3000 → Denotes op (.skipIfByte op.x op.nn)
  | skipUnlessByte : op.family = 0x4000 → Denotes op (.skipUnlessByte op.x op.nn)
  | skipIfEqual : op.family = 0x5000 → Denotes op (.skipIfEqual op.x op.y)
  | setByte : op.family = 0x6000 → Denotes op (.setByte op.x op.nn)
  | addByte : op.family = 0x7000 → Denotes op (.addByte op.x op.nn)
  | copy : op.family = 0x8000 → op.n = 0x0 → Denotes op (.copy op.x op.y)
  | or : op.family = 0x8000 → op.n = 0x1 → Denotes op (.or op.x op.y)
  | and : op.family = 0x8000 → op.n = 0x2 → Denotes op (.and op.x op.y)
  | xor : op.family = 0x8000 → op.n = 0x3 → Denotes op (.xor op.x op.y)
  | add : op.family = 0x8000 → op.n = 0x4 → Denotes op (.add op.x op.y)
  | subtract : op.family = 0x8000 → op.n = 0x5 → Denotes op (.subtract op.x op.y)
  | shiftRight : op.family = 0x8000 → op.n = 0x6 → Denotes op (.shiftRight op.x)
  | subtractFrom : op.family = 0x8000 → op.n = 0x7 → Denotes op (.subtractFrom op.x op.y)
  | shiftLeft : op.family = 0x8000 → op.n = 0xE → Denotes op (.shiftLeft op.x)
  | skipUnlessEqual : op.family = 0x9000 → Denotes op (.skipUnlessEqual op.x op.y)
  | setIndex : op.family = 0xA000 → Denotes op (.setIndex op.nnn)
  | jumpOffset : op.family = 0xB000 → Denotes op (.jumpOffset op.nnn)
  | random : op.family = 0xC000 → Denotes op (.random op.x op.nn)
  | draw : op.family = 0xD000 → Denotes op (.draw op.x op.y op.n)
  | skipIfPressed : op.family = 0xE000 → op.nn = 0x9E → Denotes op (.skipIfPressed op.x)
  | skipUnlessPressed : op.family = 0xE000 → op.nn = 0xA1 → Denotes op (.skipUnlessPressed op.x)
  | readDelay : op.family = 0xF000 → op.nn = 0x07 → Denotes op (.readDelay op.x)
  | awaitKey : op.family = 0xF000 → op.nn = 0x0A → Denotes op (.awaitKey op.x)
  | setDelay : op.family = 0xF000 → op.nn = 0x15 → Denotes op (.setDelay op.x)
  | setSound : op.family = 0xF000 → op.nn = 0x18 → Denotes op (.setSound op.x)
  | addIndex : op.family = 0xF000 → op.nn = 0x1E → Denotes op (.addIndex op.x)
  | smallGlyph : op.family = 0xF000 → op.nn = 0x29 → Denotes op (.smallGlyph op.x)
  | largeGlyph : op.family = 0xF000 → op.nn = 0x30 → Denotes op (.largeGlyph op.x)
  | storeDecimal : op.family = 0xF000 → op.nn = 0x33 → Denotes op (.storeDecimal op.x)
  | storeRegisters : op.family = 0xF000 → op.nn = 0x55 → Denotes op (.storeRegisters op.x)
  | loadRegisters : op.family = 0xF000 → op.nn = 0x65 → Denotes op (.loadRegisters op.x)

variable {op : Opcode} {instruction : Instruction}

theorem of_ite {condition : Prop} [Decidable condition] {first second : Option Instruction}
    (found : (if condition then first else second) = some instruction) :
    (condition ∧ first = some instruction) ∨ (¬ condition ∧ second = some instruction) := by
  by_cases holds : condition
  · rw [if_pos holds] at found
    exact .inl ⟨holds, found⟩
  · rw [if_neg holds] at found
    exact .inr ⟨holds, found⟩

theorem denotes_ofSystem (family : op.family = 0x0000) : Denotes op (ofSystem op) := by
  unfold ofSystem
  by_cases clear : op.nnn = 0x0E0
  · rw [if_pos clear]
    exact .clearScreen family clear
  · rw [if_neg clear]
    by_cases leaves : op.nnn = 0x0EE
    · rw [if_pos leaves]
      exact .leave family leaves
    · rw [if_neg leaves]
      exact .system family clear leaves

theorem denotes_ofArithmetic? (family : op.family = 0x8000)
    (found : ofArithmetic? op = some instruction) : Denotes op instruction := by
  unfold ofArithmetic? at found
  iterate 9
    rcases of_ite found with ⟨selected, here⟩ | ⟨_, found⟩
    · cases here
      constructor <;> assumption
  cases found

theorem denotes_ofKeys? (family : op.family = 0xE000)
    (found : ofKeys? op = some instruction) : Denotes op instruction := by
  unfold ofKeys? at found
  iterate 2
    rcases of_ite found with ⟨selected, here⟩ | ⟨_, found⟩
    · cases here
      constructor <;> assumption
  cases found

theorem denotes_ofTransfer? (family : op.family = 0xF000)
    (found : ofTransfer? op = some instruction) : Denotes op instruction := by
  unfold ofTransfer? at found
  iterate 10
    rcases of_ite found with ⟨selected, here⟩ | ⟨_, found⟩
    · cases here
      constructor <;> assumption
  cases found

/-- What the search finds is in the table. -/
theorem denotes_of_found (found : ofOpcode? op = some instruction) : Denotes op instruction := by
  unfold ofOpcode? at found
  rcases of_ite found with ⟨family, here⟩ | ⟨_, found⟩
  · cases here
    exact denotes_ofSystem family
  iterate 7
    rcases of_ite found with ⟨family, here⟩ | ⟨_, found⟩
    · cases here
      constructor
      exact family
  rcases of_ite found with ⟨family, here⟩ | ⟨_, found⟩
  · exact denotes_ofArithmetic? family here
  iterate 5
    rcases of_ite found with ⟨family, here⟩ | ⟨_, found⟩
    · cases here
      constructor
      exact family
  rcases of_ite found with ⟨family, here⟩ | ⟨_, found⟩
  · exact denotes_ofKeys? family here
  rcases of_ite found with ⟨family, here⟩ | ⟨_, found⟩
  · exact denotes_ofTransfer? family here
  cases found

/-- **The search finds the instruction that the table gives.** -/
theorem ofOpcode?_eq_some_iff : ofOpcode? op = some instruction ↔ Denotes op instruction := by
  refine ⟨denotes_of_found, fun denotes => ?_⟩
  cases denotes <;> simp only [ofOpcode?, ofSystem, ofArithmetic?, ofKeys?, ofTransfer?, *] <;> rfl

/-- A word without an entry in the table has no instruction. -/
theorem ofOpcode?_eq_none_iff : ofOpcode? op = none ↔ ∀ instruction, ¬ Denotes op instruction := by
  constructor
  · intro absent instruction denotes
    rw [ofOpcode?_eq_some_iff.mpr denotes] at absent
    cases absent
  · intro absent
    cases found : ofOpcode? op with
    | none => rfl
    | some instruction => exact (absent instruction (denotes_of_found found)).elim

end Instruction

/-! ## Widths -/

/-- Four bits. -/
def IsNibble (n : Int) : Prop := 0 ≤ n ∧ n < 16

/-- Eight bits. -/
def IsByte (n : Int) : Prop := 0 ≤ n ∧ n < 256

/-- Twelve bits. -/
def IsAddress (n : Int) : Prop := 0 ≤ n ∧ n < 4096

/-- The fields of a word fit their widths. -/
structure Opcode.Fits (op : Opcode) : Prop where
  x : IsNibble op.x
  y : IsNibble op.y
  n : IsNibble op.n
  nn : IsByte op.nn
  nnn : IsAddress op.nnn

theorem Opcode.fits_decode (word : Int) : (Opcode.decode word).Fits := by
  constructor <;> simp only [Opcode.decode, IsNibble, IsByte, IsAddress] <;> omega

theorem isNibble_fin (x : Fin 16) : IsNibble (x : Nat) := ⟨by omega, by omega⟩

theorem IsNibble.isPlace {x : Int} (nibble : IsNibble x) : Registers.isPlace x = true := by
  obtain ⟨nonneg, below⟩ := nibble
  simp only [Registers.isPlace, Bool.and_eq_true, decide_eq_true_eq]
  omega

namespace Instruction

/-- The operands of an instruction fit their widths. -/
def Fits : Instruction → Prop
  | clearScreen | leave => True
  | system address | jump address | call address | setIndex address | jumpOffset address =>
      IsAddress address
  | skipIfByte x byte | skipUnlessByte x byte | setByte x byte | addByte x byte
  | random x byte => IsNibble x ∧ IsByte byte
  | skipIfEqual x y | copy x y | or x y | and x y | xor x y | add x y | subtract x y
  | subtractFrom x y | skipUnlessEqual x y => IsNibble x ∧ IsNibble y
  | draw x y height => IsNibble x ∧ IsNibble y ∧ IsNibble height
  | shiftRight x | shiftLeft x | skipIfPressed x | skipUnlessPressed x | readDelay x
  | awaitKey x | setDelay x | setSound x | addIndex x | smallGlyph x | largeGlyph x
  | storeDecimal x | storeRegisters x | loadRegisters x => IsNibble x

/-- **The operands of the instruction of a word fit their widths.** -/
theorem Denotes.fits {op : Opcode} {instruction : Instruction} (denotes : Denotes op instruction)
    (fits : op.Fits) : instruction.Fits := by
  obtain ⟨x, y, n, nn, nnn⟩ := fits
  -- each operand is one of the fields, so that its width is at hand
  cases denotes <;> trivial

end Instruction

namespace Machine

/-- An instruction whose register numbers fit their widths names no missing register. -/
theorem missingRegister?_of_fits {instruction : Instruction} (fits : instruction.Fits) :
    missingRegister? instruction = none := by
  have places : ∀ use ∈ registerUses instruction, Registers.isPlace use.2 = true := by
    intro use used
    cases instruction <;>
      simp only [registerUses, List.mem_cons, List.not_mem_nil, or_false] at used <;>
      simp only [Instruction.Fits] at fits
    all_goals first
      | (subst used; exact fits.isPlace)
      | (subst used; exact fits.1.isPlace)
      | (rcases used with rfl | rfl <;> first
          | exact fits.1.isPlace
          | exact fits.2.isPlace)
  have absent : (registerUses instruction).find? (fun use => !Registers.isPlace use.2) = none := by
    rw [List.find?_eq_none]
    intro use used
    simp [places use used]
  rw [missingRegister?, absent]
  rfl

theorem execute_of_fits {instruction : Instruction} (fits : instruction.Fits) :
    execute instruction = effect instruction := by
  rw [execute, missingRegister?_of_fits fits]

theorem perform_of_denotes {op : Opcode} {instruction : Instruction}
    (denotes : Instruction.Denotes op instruction) (fits : op.Fits) :
    perform op = (effect instruction >>= fun _ => pure true) := by
  rw [perform, Instruction.ofOpcode?_eq_some_iff.mpr denotes]
  simp only [execute_of_fits (denotes.fits fits)]

theorem perform_of_unknown {op : Opcode}
    (unknown : ∀ instruction, ¬ Instruction.Denotes op instruction) :
    perform op = pure false := by
  rw [perform, Instruction.ofOpcode?_eq_none_iff.mpr unknown]

end Machine

end Chip8
