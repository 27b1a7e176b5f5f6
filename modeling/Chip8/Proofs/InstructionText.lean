import Chip8.Proofs.Cycle
import Chip8.Proofs.WrittenDigits

/-!
# What the text of an instruction says

An instruction is shown by its name and its operands.  Several instructions share a name, and words
that differ in unused bits are shown alike.  Still the text says everything that matters: read back
(`assemble?`), it gives the instruction that was written (`assemble?_text`).  So two words that are
shown alike have the same instruction, and a word without an instruction is shown by its own
digits, so that no other word looks like it.

Executing a word is executing its instruction (`execute_of_found`).  Words that are shown alike
therefore do the same to every machine.
-/

namespace Chip8

set_option autoImplicit false

namespace Instruction

open Text (valueIn)

/-! ## Reading operands -/

/-- An operand as it is read: its first character tells its kind. -/
inductive Operand where
  | register (x : Int)
  | byte (byte : Int)
  | address (address : Int)
  | number (n : Int)
  /-- The name of a special register, of a device, or of the cells at the index. -/
  | name (text : String)
  deriving DecidableEq, Repr

/-- Reads an operand. -/
def Operand.ofText (text : String) : Operand :=
  match text.toList with
  | 'V' :: digits => register (valueIn 16 digits)
  | '#' :: digits => byte (valueIn 16 digits)
  | '$' :: digits => address (valueIn 16 digits)
  | first :: rest => if first.isDigit then number (valueIn 10 (first :: rest)) else name text
  | [] => name text

/-- The operands of an instruction before they are written. -/
def parts : Instruction → List Operand
  | clearScreen | leave => []
  | system a | jump a | call a => [.address a]
  | skipIfByte x byte | skipUnlessByte x byte | setByte x byte | addByte x byte
  | random x byte => [.register x, .byte byte]
  | skipIfEqual x y | copy x y | or x y | and x y | xor x y | add x y | subtract x y
  | subtractFrom x y | skipUnlessEqual x y => [.register x, .register y]
  | shiftRight x | shiftLeft x | skipIfPressed x | skipUnlessPressed x => [.register x]
  | setIndex a => [.name "I", .address a]
  | jumpOffset a => [.register 0, .address a]
  | draw x y height => [.register x, .register y, .number height]
  | readDelay x => [.register x, .name "DT"]
  | awaitKey x => [.register x, .name "K"]
  | setDelay x => [.name "DT", .register x]
  | setSound x => [.name "ST", .register x]
  | addIndex x => [.name "I", .register x]
  | smallGlyph x => [.name "F", .register x]
  | largeGlyph x => [.name "HF", .register x]
  | storeDecimal x => [.name "B", .register x]
  | storeRegisters x => [.name "[I]", .register x]
  | loadRegisters x => [.register x, .name "[I]"]

theorem ofText_register {x : Int} (nibble : IsNibble x) :
    Operand.ofText (register x) = .register x := by
  rw [Operand.ofText, register, String.toList_append]
  exact congrArg Operand.register (Text.valueIn_upperHex 1 nibble.1)

theorem ofText_byteOperand {b : Int} (byte : IsByte b) :
    Operand.ofText (byteOperand b) = .byte b := by
  rw [Operand.ofText, byteOperand, String.toList_append]
  exact congrArg Operand.byte (Text.valueIn_upperHex 2 byte.1)

theorem ofText_addressOperand {a : Int} (address : IsAddress a) :
    Operand.ofText (addressOperand a) = .address a := by
  rw [Operand.ofText, addressOperand, String.toList_append]
  exact congrArg Operand.address (Text.valueIn_upperHex 3 address.1)

theorem ofText_toString_fin : ∀ k : Fin 16,
    Operand.ofText (toString ((k.val : Nat) : Int)) = .number k.val := by
  decide

theorem ofText_toString {n : Int} (nibble : IsNibble n) :
    Operand.ofText (toString n) = .number n := by
  obtain ⟨nonneg, below⟩ := nibble
  have read := ofText_toString_fin ⟨n.toNat, by omega⟩
  rwa [show ((n.toNat : Nat) : Int) = n from Int.toNat_of_nonneg nonneg] at read

/-- **The operands that are written are the ones that are read.** -/
theorem map_ofText_operands {instruction : Instruction} (fits : instruction.Fits) :
    instruction.operands.map Operand.ofText = instruction.parts := by
  cases instruction with
  | clearScreen | leave => rfl
  | system a | jump a | call a | setIndex a | jumpOffset a =>
      simp only [operands, List.map_cons, List.map_nil, ofText_addressOperand fits]
      rfl
  | skipIfByte x b | skipUnlessByte x b | setByte x b | addByte x b | random x b =>
      simp only [operands, List.map_cons, List.map_nil, ofText_register fits.1,
        ofText_byteOperand fits.2]
      rfl
  | skipIfEqual x y | copy x y | or x y | and x y | xor x y | add x y | subtract x y
  | subtractFrom x y | skipUnlessEqual x y =>
      simp only [operands, List.map_cons, List.map_nil, ofText_register fits.1,
        ofText_register fits.2]
      rfl
  | draw x y height =>
      simp only [operands, List.map_cons, List.map_nil, ofText_register fits.1,
        ofText_register fits.2.1, ofText_toString fits.2.2]
      rfl
  | shiftRight x | shiftLeft x | skipIfPressed x | skipUnlessPressed x | readDelay x
  | awaitKey x | setDelay x | setSound x | addIndex x | smallGlyph x | largeGlyph x
  | storeDecimal x | storeRegisters x | loadRegisters x =>
      simp only [operands, List.map_cons, List.map_nil, ofText_register fits]
      rfl

/-! ## Reading instructions -/

/-- The instruction with a name and operands. -/
def ofParts? (mnemonic : String) (parts : List Operand) : Option Instruction :=
  match mnemonic, parts with
  | "CLS", [] => some clearScreen
  | "RET", [] => some leave
  | "SYS", [.address a] => some (system a)
  | "JP", [.address a] => some (jump a)
  | "JP", [.register _, .address a] => some (jumpOffset a)
  | "CALL", [.address a] => some (call a)
  | "SE", [.register x, .byte b] => some (skipIfByte x b)
  | "SE", [.register x, .register y] => some (skipIfEqual x y)
  | "SNE", [.register x, .byte b] => some (skipUnlessByte x b)
  | "SNE", [.register x, .register y] => some (skipUnlessEqual x y)
  | "LD", [.register x, .byte b] => some (setByte x b)
  | "LD", [.register x, .register y] => some (copy x y)
  | "LD", [.name "I", .address a] => some (setIndex a)
  | "LD", [.register x, .name "DT"] => some (readDelay x)
  | "LD", [.register x, .name "K"] => some (awaitKey x)
  | "LD", [.register x, .name "[I]"] => some (loadRegisters x)
  | "LD", [.name "DT", .register x] => some (setDelay x)
  | "LD", [.name "ST", .register x] => some (setSound x)
  | "LD", [.name "F", .register x] => some (smallGlyph x)
  | "LD", [.name "HF", .register x] => some (largeGlyph x)
  | "LD", [.name "B", .register x] => some (storeDecimal x)
  | "LD", [.name "[I]", .register x] => some (storeRegisters x)
  | "ADD", [.register x, .byte b] => some (addByte x b)
  | "ADD", [.register x, .register y] => some (add x y)
  | "ADD", [.name "I", .register x] => some (addIndex x)
  | "OR", [.register x, .register y] => some (or x y)
  | "AND", [.register x, .register y] => some (and x y)
  | "XOR", [.register x, .register y] => some (xor x y)
  | "SUB", [.register x, .register y] => some (subtract x y)
  | "SHR", [.register x] => some (shiftRight x)
  | "SUBN", [.register x, .register y] => some (subtractFrom x y)
  | "SHL", [.register x] => some (shiftLeft x)
  | "RND", [.register x, .byte b] => some (random x b)
  | "DRW", [.register x, .register y, .number height] => some (draw x y height)
  | "SKP", [.register x] => some (skipIfPressed x)
  | "SKNP", [.register x] => some (skipUnlessPressed x)
  | _, _ => none

/-- The instruction that a text stands for. -/
def assemble? (mnemonic : String) (operands : List String) : Option Instruction :=
  ofParts? mnemonic (operands.map Operand.ofText)

theorem ofParts?_parts (instruction : Instruction) :
    ofParts? instruction.mnemonic instruction.parts = some instruction := by
  cases instruction <;> rfl

/-- **The text of an instruction is read as the instruction.** -/
theorem assemble?_text {instruction : Instruction} (fits : instruction.Fits) :
    assemble? instruction.mnemonic instruction.operands = some instruction := by
  rw [assemble?, map_ofText_operands fits, ofParts?_parts]

/-- No instruction has the name that stands for words without one. -/
theorem mnemonic_ne_unknown (instruction : Instruction) : instruction.mnemonic ≠ "UNKNOWN" := by
  cases instruction <;> simp [mnemonic]

end Instruction

/-! ## Words that are shown alike -/

/-- Two words are shown with the same name and the same operands. -/
structure ShownAlike (v w : Int) : Prop where
  mnemonic : (Operation.ofOpcode (.decode v)).mnemonic = (Operation.ofOpcode (.decode w)).mnemonic
  operands : (Operation.ofOpcode (.decode v)).operands = (Operation.ofOpcode (.decode w)).operands

theorem ShownAlike.symm {v w : Int} (alike : ShownAlike v w) : ShownAlike w v :=
  ⟨alike.mnemonic.symm, alike.operands.symm⟩

theorem Operation.ofOpcode_of_found {op : Opcode} {instruction : Instruction}
    (found : Instruction.ofOpcode? op = some instruction) :
    ofOpcode op = ⟨Text.upperHex 4 op.word, instruction.mnemonic, instruction.operands, 2⟩ := by
  rw [ofOpcode, found]

theorem Operation.ofOpcode_of_unknown {op : Opcode} (unknown : Instruction.ofOpcode? op = none) :
    ofOpcode op =
      ⟨Text.upperHex 4 op.word, "UNKNOWN", ["$" ++ Text.upperHex 4 op.word], 2⟩ := by
  rw [ofOpcode, unknown]

/-- The instruction of a decoded word is read from its text. -/
theorem Operation.assemble?_of_found {w : Int} {instruction : Instruction}
    (found : Instruction.ofOpcode? (.decode w) = some instruction) :
    Instruction.assemble? (ofOpcode (.decode w)).mnemonic (ofOpcode (.decode w)).operands =
      some instruction := by
  rw [ofOpcode_of_found found]
  exact Instruction.assemble?_text
    ((Instruction.denotes_of_found found).fits (Opcode.fits_decode w))

/-- A word that is shown like one with an instruction has that instruction. -/
theorem ShownAlike.found {v w : Int} (alike : ShownAlike v w) {instruction : Instruction}
    (found : Instruction.ofOpcode? (.decode v) = some instruction) :
    Instruction.ofOpcode? (.decode w) = some instruction := by
  cases other : Instruction.ofOpcode? (.decode w) with
  | none =>
      have name := alike.mnemonic
      rw [Operation.ofOpcode_of_found found, Operation.ofOpcode_of_unknown other] at name
      exact (instruction.mnemonic_ne_unknown name).elim
  | some second =>
      rw [← Operation.assemble?_of_found found, ← Operation.assemble?_of_found other,
        alike.mnemonic, alike.operands]

/-- **Words that are shown alike have the same instruction, or they are the same word.** -/
theorem ShownAlike.instruction {v w : Int} (alike : ShownAlike v w) :
    (∃ instruction, Instruction.ofOpcode? (.decode v) = some instruction ∧
      Instruction.ofOpcode? (.decode w) = some instruction) ∨
    (Instruction.ofOpcode? (.decode v) = none ∧ Instruction.ofOpcode? (.decode w) = none ∧
      (Opcode.decode v).word = (Opcode.decode w).word) := by
  cases first : Instruction.ofOpcode? (.decode v) with
  | some instruction => exact .inl ⟨instruction, rfl, alike.found first⟩
  | none =>
      cases second : Instruction.ofOpcode? (.decode w) with
      | some instruction =>
          rw [alike.symm.found second] at first
          cases first
      | none =>
          refine .inr ⟨rfl, rfl, ?_⟩
          have digits := alike.operands
          rw [Operation.ofOpcode_of_unknown first, Operation.ofOpcode_of_unknown second,
            List.cons.injEq, String.append_right_inj] at digits
          have nonneg (u : Int) : 0 ≤ (Opcode.decode u).word := Int.emod_nonneg u (by decide)
          rw [← Text.valueIn_upperHex 4 (nonneg v), digits.1, Text.valueIn_upperHex 4 (nonneg w)]

/-! ## Executing a word -/

namespace Machine

theorem perform_of_found {op : Opcode} {instruction : Instruction}
    (found : Instruction.ofOpcode? op = some instruction) :
    perform op = (execute instruction >>= fun _ => pure true) := by
  rw [perform, found]

/-- A word with an instruction is executed as its instruction. -/
theorem execute_of_found {op : Opcode} {instruction : Instruction}
    (found : Instruction.ofOpcode? op = some instruction) :
    chip8.execute op = execute instruction := by
  simp only [chip8, perform_of_found found, bind_assoc, pure_bind, if_true, bind_pure_unit]

/-- A word without an instruction is reported. -/
theorem execute_of_unknown {op : Opcode} (unknown : Instruction.ofOpcode? op = none) (m : Machine) :
    chip8.execute op m =
      ⟨m, .ok (), [.unmappedWord op.word.toNat m.registers.retreat.pc]⟩ := by
  simp only [chip8, perform, unknown]
  rfl

/-- **The text of a word determines what the word does.**  Two words that are shown with the same
name and the same operands leave every machine in the same state, with the same answer or the same
fault and the same reports. -/
theorem shown_alike_execute_alike {v w : Int} (alike : ShownAlike v w) (m : Machine) :
    perform (.decode v) m = perform (.decode w) m ∧
      chip8.execute (.decode v) m = chip8.execute (.decode w) m := by
  rcases alike.instruction with ⟨instruction, first, second⟩ | ⟨first, second, same⟩
  · rw [perform_of_found first, perform_of_found second, execute_of_found first,
      execute_of_found second]
    exact ⟨rfl, rfl⟩
  · refine ⟨by rw [perform, perform, first, second], ?_⟩
    rw [execute_of_unknown first, execute_of_unknown second, same]

/-- Words that differ in a nibble that their instruction does not use. -/
theorem unused_nibble_executes_alike :
    ShownAlike 0x8126 0x81A6 ∧
      chip8.execute (.decode 0x8126) (ofWord 0x81 0x26 .everyCycle) =
        chip8.execute (.decode 0x81A6) (ofWord 0x81 0x26 .everyCycle) := by
  have alike : ShownAlike 0x8126 0x81A6 := ⟨rfl, rfl⟩
  exact ⟨alike, (shown_alike_execute_alike alike _).2⟩

end Machine

end Chip8
