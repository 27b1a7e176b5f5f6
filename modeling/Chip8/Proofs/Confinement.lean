import Chip8.Proofs.HeldKeys
import Chip8.Proofs.InstructionText
import Chip8.Proofs.RandomBytes
import Chip8.Proofs.SavedRegisters
import Chip8.Proofs.Timers

/-!
# What a cycle leaves alone

A footprint tells parts of a machine apart.  Within some of these parts an instruction reaches only
so far: of the general registers it assigns those that its word names (`effect_assigns_only`), of
the cells those that its transfer goes through, and the program counter leaves the next word only
after a jump, a skip or a wait (`counter_of_effect`).

So it is known from the word alone what a cycle that succeeds has left as it was
(`cycle_is_confined`), whatever the machine.
-/

namespace Chip8

set_option autoImplicit false

open Registers (flagPlace)

/-! ## General registers -/

/-- The general registers that an instruction may assign. -/
def Instruction.Assigns : Instruction → Fin 16 → Prop
  | .setByte x _ | .addByte x _ | .copy x _ | .or x _ | .and x _ | .xor x _ | .random x _
  | .readDelay x | .awaitKey x => fun z => z = Registers.place x
  | .add x _ | .subtract x _ | .shiftRight x | .subtractFrom x _ | .shiftLeft x =>
    fun z => z = Registers.place x ∨ z = flagPlace
  | .draw .. | .addIndex _ => fun z => z = flagPlace
  | .loadRegisters x => fun z => (z : Nat) ≤ x
  | _ => fun _ => False

/-- The instructions that go on somewhere else. -/
def Instruction.Jumps : Instruction → Prop
  | .leave | .system _ | .jump _ | .call _ | .jumpOffset _ => True
  | _ => False

namespace Registers

variable {r : Registers} {x : Int} {z : Fin 16}

theorem v_set_of_ne (apart : z ≠ place x) (value : Nat) :
    (r.set x value).v.get z = r.v.get z := by
  rw [← get_natCast, ← get_natCast, get_set, place_natCast, if_neg apart]

theorem v_setFlag_of_ne (apart : z ≠ flagPlace) (flag : Int) :
    (r.setFlag flag).v.get z = r.v.get z := by
  rw [v_setFlag, if_neg apart]

end Registers

namespace Machine

open Processor
open Chip8.Action (Keeps)

variable {m after : Machine} {instruction : Instruction} {z : Fin 16} {value : Nat}
  {record : Snapshot Registers} {events : List Event}

/-- A general register has a value. -/
def Holds (z : Fin 16) (value : Nat) (m : Machine) : Prop := m.registers.v.get z = value

theorem holds_changeRegisters {change : Registers → Registers}
    (same : ∀ r : Registers, (change r).v.get z = r.v.get z) :
    Keeps (Holds z value) (changeRegisters change) :=
  fun m held => (same m.registers).trans held

/-- An action without general registers in its footprint keeps them all. -/
theorem holds_of_footprint {α : Type} {action : Action Machine α} (parts : List Part)
    (absent : .general ∉ parts) (same : ∀ origin, Keeps (SameBut parts origin) action) :
    Keeps (Holds z value) action := by
  intro m held
  have registers := (same m m (.refl m)).registers.general absent
  rw [Holds, registers]
  exact held

theorem holds_fetch (address : Int) : Keeps (Holds z value) (fetch address) :=
  holds_of_footprint [] List.not_mem_nil fun _ => keeps_fetch address

theorem holds_require (condition : Bool) (fault : Fault) :
    Keeps (Holds z value) (require condition fault) :=
  holds_of_footprint [] List.not_mem_nil fun _ => keeps_require condition fault

theorem holds_checkRange (address length : Int) :
    Keeps (Holds z value) (checkRange address length) :=
  holds_of_footprint [] List.not_mem_nil fun _ => keeps_checkRange address length

theorem holds_drawRows (apart : z ≠ flagPlace) (column : Nat) (top : Int) (count row : Nat) :
    Keeps (Holds z value) (drawRows column top count row) := by
  induction count generalizing row with
  | zero => exact .pure ()
  | succ count ih =>
      refine .look fun m => ?_
      split
      · exact .pure ()
      · refine .bind (holds_fetch _) fun word => ?_
        rcases m.devices.screen.flipByte (top + row).toNat column (word / 256) with ⟨next, erased⟩
        refine .bind (fun _ held => held) fun _ => ?_
        cases erased with
        | false => exact ih (row + 1)
        | true =>
            exact .bind (holds_changeRegisters fun _ => Registers.v_setFlag_of_ne apart _)
              fun _ => ih (row + 1)

theorem holds_loadFrom (count place : Nat) (above : place + count ≤ z) :
    Keeps (Holds z value) (loadFrom count place) := by
  induction count generalizing place with
  | zero => exact .pure ()
  | succ count ih =>
      have apart : z ≠ Registers.place (place : Nat) := by
        intro same
        have here := congrArg Fin.val same
        simp only [Registers.place] at here
        omega
      exact .look fun _ => .bind (holds_fetch _) fun _ =>
        .bind (holds_require _ _) fun _ =>
        .bind (holds_changeRegisters fun _ => Registers.v_set_of_ne apart _) fun _ =>
        ih (place + 1) (by omega)

theorem holds_effect (spared : ¬ instruction.Assigns z) :
    Keeps (Holds z value) (effect instruction) := by
  cases instruction with
  | setByte x byte | addByte x byte =>
      exact holds_changeRegisters fun _ => Registers.v_set_of_ne spared _
  | copy x y | or x y | and x y | xor x y =>
      exact holds_changeRegisters fun _ => Registers.v_set_of_ne spared _
  | readDelay x => exact holds_changeRegisters fun _ => Registers.v_set_of_ne spared _
  | add x y =>
      obtain ⟨apart, no_flag⟩ := not_or.mp spared
      exact holds_changeRegisters fun _ =>
        (Registers.v_setFlag_of_ne no_flag _).trans (Registers.v_set_of_ne apart _)
  | subtract x y | subtractFrom x y =>
      obtain ⟨apart, no_flag⟩ := not_or.mp spared
      exact holds_changeRegisters fun _ =>
        (Registers.v_set_of_ne apart _).trans (Registers.v_setFlag_of_ne no_flag _)
  | shiftRight x | shiftLeft x =>
      obtain ⟨apart, no_flag⟩ := not_or.mp spared
      exact holds_changeRegisters fun _ =>
        (Registers.v_set_of_ne apart _).trans (Registers.v_setFlag_of_ne no_flag _)
  | random x mask =>
      exact .bind (fun _ held => held) fun _ =>
        .bind (holds_require _ _) fun _ =>
        holds_changeRegisters fun _ => Registers.v_set_of_ne spared _
  | draw x y height =>
      exact .look fun _ => .bind (holds_checkRange _ _) fun _ =>
        .bind (holds_require _ _) fun _ =>
        .bind (holds_require _ _) fun _ =>
        .bind (holds_require _ _) fun _ =>
        .bind (holds_require _ _) fun _ =>
        .bind (holds_changeRegisters fun _ => Registers.v_setFlag_of_ne spared _) fun _ =>
        holds_drawRows spared _ _ _ _
  | awaitKey x =>
      refine .look fun m => ?_
      split
      · exact .bind (holds_require _ _) fun _ =>
          holds_changeRegisters fun _ => Registers.v_set_of_ne spared _
      · exact holds_changeRegisters fun _ => rfl
  | addIndex x => exact holds_changeRegisters fun _ => Registers.v_setFlag_of_ne spared _
  | loadRegisters x =>
      have above : ¬ ((z : Nat) : Int) ≤ x := spared
      exact .look fun _ => .bind (holds_checkRange _ _) fun _ =>
        holds_loadFrom _ _ (by omega)
  | _ =>
      exact holds_of_footprint _ (by simp [Instruction.footprint]) fun _ =>
        keeps_effect (List.Subset.refl _)

/-- **An instruction assigns no other register**, also if it fails. -/
theorem effect_assigns_only (spared : ¬ instruction.Assigns z) :
    (effect instruction m).state.registers.v.get z = m.registers.v.get z :=
  holds_effect spared m rfl

/-- The words that write a flag. -/
def WritesFlag (m : Machine) : Prop :=
  (m.word / 0x1000 = 0x8 ∧ m.word % 0x10 ∈ [0x4, 0x5, 0x6, 0x7, 0xE]) ∨ m.EndsIn 0x1E ∨
    m.word / 0x1000 = 0xD

theorem place_opcode_x (m : Machine) : (Registers.place m.opcode.x : Nat) = m.place := by
  rw [opcode_x, place]
  simp only [Registers.place]
  omega

theorem writesFlag_of_fields {kind : Nat} (family : m.opcode.family = (0x8 * 0x1000 : Nat))
    (last : m.opcode.n = kind) (flagged : kind ∈ [0x4, 0x5, 0x6, 0x7, 0xE]) : m.WritesFlag := by
  rw [opcode_n] at last
  exact .inl ⟨head_of_family family, Int.ofNat_inj.mp last ▸ flagged⟩

/-- **The registers that a word may assign**: the one that it names, the flag, and those below the
one that it names if it loads them. -/
theorem place_of_assigns (denotes : Instruction.Denotes m.opcode instruction)
    (assigned : instruction.Assigns z) :
    (z : Nat) = m.place ∨ (z = flagPlace ∧ m.WritesFlag) ∨
      (m.EndsIn 0x65 ∧ (z : Nat) ≤ m.place) := by
  have named (same : z = Registers.place m.opcode.x) : (z : Nat) = m.place :=
    same ▸ m.place_opcode_x
  cases denotes with
  | setByte _ | addByte _ => exact .inl (named assigned)
  | copy _ _ | or _ _ | and _ _ | xor _ _ => exact .inl (named assigned)
  | random _ | readDelay _ _ | awaitKey _ _ => exact .inl (named assigned)
  | add family last | subtract family last | subtractFrom family last =>
      rcases assigned with same | flag
      · exact .inl (named same)
      · exact .inr (.inl ⟨flag, writesFlag_of_fields family last (by decide)⟩)
  | shiftRight family last | shiftLeft family last =>
      rcases assigned with same | flag
      · exact .inl (named same)
      · exact .inr (.inl ⟨flag, writesFlag_of_fields family last (by decide)⟩)
  | draw family => exact .inr (.inl ⟨assigned, .inr (.inr (head_of_family family))⟩)
  | addIndex family low =>
      exact .inr (.inl ⟨assigned, .inr (.inl (endsIn_of_fields family low))⟩)
  | loadRegisters family low =>
      have below : ((z : Nat) : Int) ≤ m.opcode.x := assigned
      rw [opcode_x] at below
      exact .inr (.inr ⟨endsIn_of_fields family low, Int.ofNat_le.mp below⟩)
  | _ => exact assigned.elim

/-- The registers that a cycle leaves alone if it succeeds. -/
theorem general_of_cycle (cycle : step m = ⟨after, .ok record, events⟩)
    (other : (z : Nat) ≠ m.place) (no_flag : z = flagPlace → ¬ m.WritesFlag)
    (no_load : m.EndsIn 0x65 → m.place < z) :
    after.registers.v.get z = m.registers.v.get z := by
  obtain ⟨executed, rfl, ⟨_, rfl⟩ | ⟨instruction, _, denotes, done⟩⟩ := effect_of_cycle cycle
  · rfl
  · have spared : ¬ instruction.Assigns z := by
      intro assigned
      rcases place_of_assigns denotes assigned with named | ⟨flag, writes⟩ | ⟨loads, below⟩
      · exact other named
      · exact no_flag flag writes
      · exact Nat.not_lt.mpr below (no_load loads)
    have same := effect_assigns_only (m := m.fetched) spared
    rw [done] at same
    exact same

/-! ## The program counter -/

/-- The condition on which an instruction leaves out the next word, if it has one. -/
def condition? (m : Machine) : Instruction → Option Bool
  | .skipIfByte x byte => some ((m.registers.get x : Int) == byte)
  | .skipUnlessByte x byte => some ((m.registers.get x : Int) != byte)
  | .skipIfEqual x y => some (m.registers.get x == m.registers.get y)
  | .skipUnlessEqual x y => some (m.registers.get x != m.registers.get y)
  | .skipIfPressed x => some (m.keyDown x)
  | .skipUnlessPressed x => some (!m.keyDown x)
  | _ => none

theorem effect_of_condition {condition : Bool} (found : m.condition? instruction = some condition) :
    effect instruction m =
      ⟨{ m with registers := m.registers.skipIf condition }, .ok (), []⟩ := by
  cases instruction with
  | skipIfByte x byte | skipUnlessByte x byte =>
      cases found
      rfl
  | skipIfEqual x y | skipUnlessEqual x y =>
      cases found
      rfl
  | skipIfPressed x | skipUnlessPressed x =>
      cases found
      rfl
  | _ => cases found

/-- **An instruction goes on with the next word** unless it jumps, skips or waits. -/
theorem counter_of_effect (fits : instruction.Fits)
    (done : effect instruction m = ⟨after, .ok (), events⟩) (no_jump : ¬ instruction.Jumps)
    (no_skip : m.condition? instruction ≠ some true)
    (no_wait : ∀ x, instruction = .awaitKey x → m.devices.keypad.firstPressed? ≠ none) :
    after.registers.pc = m.registers.pc := by
  have untested (condition : Bool) (found : m.condition? instruction = some condition) :
      after.registers.pc = m.registers.pc := by
    rw [effect_of_condition found] at done
    cases done
    cases condition with
    | false => rfl
    | true => exact (no_skip found).elim
  have same := effect_changes_only instruction m
  rw [done] at same
  cases instruction with
  | leave | system a | jump a | call a | jumpOffset a => exact (no_jump trivial).elim
  | skipIfByte x byte | skipUnlessByte x byte => exact untested _ rfl
  | skipIfEqual x y | skipUnlessEqual x y => exact untested _ rfl
  | skipIfPressed x | skipUnlessPressed x => exact untested _ rfl
  | awaitKey x =>
      obtain ⟨key, pressed⟩ := Option.ne_none_iff_exists'.mp (no_wait x rfl)
      rw [effect, takeKey_of_key fits pressed] at done
      cases done
      rfl
  | _ => exact same.registers.counter (by simp [Instruction.footprint])

/-- The words that go on somewhere else. -/
def GoesElsewhere (m : Machine) : Prop :=
  (m.word / 0x1000 = 0x0 ∧ m.word ≠ 0x00E0) ∨ m.word / 0x1000 = 0x1 ∨ m.word / 0x1000 = 0x2 ∨
    m.word / 0x1000 = 0xB

/-- The word leaves out the next one, as its condition holds. -/
def Skips (m : Machine) : Prop :=
  (m.word / 0x1000 = 0x3 ∧ m.named = m.word % 0x100) ∨
  (m.word / 0x1000 = 0x4 ∧ m.named ≠ m.word % 0x100) ∨
  (m.word / 0x1000 = 0x5 ∧ m.named = m.registers.get (m.word / 0x10 % 0x10 : Nat)) ∨
  (m.word / 0x1000 = 0x9 ∧ m.named ≠ m.registers.get (m.word / 0x10 % 0x10 : Nat)) ∨
  (m.word / 0x1000 = 0xE ∧ m.word % 0x100 = 0x9E ∧ m.keyDown m.place) ∨
  (m.word / 0x1000 = 0xE ∧ m.word % 0x100 = 0xA1 ∧ ¬ m.keyDown m.place)

/-- The word waits for a key, and none is down. -/
def Waits (m : Machine) : Prop :=
  m.EndsIn 0x0A ∧ ∀ key, m.devices.keypad.isDown key = false

instance (m : Machine) : Decidable m.GoesElsewhere := inferInstanceAs (Decidable (_ ∨ _))

instance (m : Machine) : Decidable m.Skips := inferInstanceAs (Decidable (_ ∨ _))

instance (m : Machine) : Decidable m.Waits := inferInstanceAs (Decidable (_ ∧ _))

theorem goesElsewhere_of_jumps (denotes : Instruction.Denotes m.opcode instruction)
    (jumps : instruction.Jumps) : m.GoesElsewhere := by
  cases denotes with
  | leave family last =>
      have word : m.word = 0x0EE := word_of_system family last
      exact .inl ⟨head_of_family family, by omega⟩
  | system family other _ =>
      refine .inl ⟨head_of_family family, fun word => other ?_⟩
      rw [opcode_nnn, word]
      rfl
  | jump family => exact .inr (.inl (head_of_family family))
  | call family => exact .inr (.inr (.inl (head_of_family family)))
  | jumpOffset family => exact .inr (.inr (.inr (head_of_family family)))
  | _ => exact jumps.elim

theorem skips_of_condition (denotes : Instruction.Denotes m.opcode instruction)
    (holds : m.fetched.condition? instruction = some true) : m.Skips := by
  cases denotes with
  | skipIfByte family =>
      have same := beq_iff_eq.mp (Option.some.inj holds)
      rw [opcode_x, opcode_nn] at same
      exact .inl ⟨head_of_family family, Int.ofNat_inj.mp same⟩
  | skipUnlessByte family =>
      have apart := bne_iff_ne.mp (Option.some.inj holds)
      rw [opcode_x, opcode_nn] at apart
      exact .inr (.inl ⟨head_of_family family, fun same => apart (congrArg Int.ofNat same)⟩)
  | skipIfEqual family =>
      have same := beq_iff_eq.mp (Option.some.inj holds)
      rw [opcode_x, opcode_y] at same
      exact .inr (.inr (.inl ⟨head_of_family family, same⟩))
  | skipUnlessEqual family =>
      have apart := bne_iff_ne.mp (Option.some.inj holds)
      rw [opcode_x, opcode_y] at apart
      exact .inr (.inr (.inr (.inl ⟨head_of_family family, apart⟩)))
  | skipIfPressed family low =>
      have down := Option.some.inj holds
      rw [opcode_x] at down
      rw [opcode_nn] at low
      exact .inr (.inr (.inr (.inr (.inl
        ⟨head_of_family family, Int.ofNat_inj.mp low, down⟩))))
  | skipUnlessPressed family low =>
      have up := Option.some.inj holds
      rw [opcode_x, Bool.not_eq_true'] at up
      rw [opcode_nn] at low
      exact .inr (.inr (.inr (.inr (.inr
        ⟨head_of_family family, Int.ofNat_inj.mp low, Bool.eq_false_iff.mp up⟩))))
  | _ => cases holds

theorem condition_of_skips (skips : m.Skips) :
    ∃ instruction, Instruction.Denotes m.opcode instruction ∧
      m.fetched.condition? instruction = some true := by
  rcases skips with ⟨head, same⟩ | ⟨head, apart⟩ | ⟨head, same⟩ | ⟨head, apart⟩ |
    ⟨head, low, down⟩ | ⟨head, low, up⟩
  · refine ⟨_, .skipIfByte (family_of_head head), congrArg some (beq_iff_eq.mpr ?_)⟩
    rw [opcode_x, opcode_nn]
    exact congrArg Int.ofNat same
  · refine ⟨_, .skipUnlessByte (family_of_head head), congrArg some (bne_iff_ne.mpr ?_)⟩
    rw [opcode_x, opcode_nn]
    exact fun same => apart (Int.ofNat_inj.mp same)
  · refine ⟨_, .skipIfEqual (family_of_head head), congrArg some (beq_iff_eq.mpr ?_)⟩
    rw [opcode_x, opcode_y]
    exact same
  · refine ⟨_, .skipUnlessEqual (family_of_head head), congrArg some (bne_iff_ne.mpr ?_)⟩
    rw [opcode_x, opcode_y]
    exact apart
  · refine ⟨_, .skipIfPressed (family_of_head head) (nn_of_low low), congrArg some ?_⟩
    rw [opcode_x]
    exact down
  · refine ⟨_, .skipUnlessPressed (family_of_head head) (nn_of_low low), congrArg some ?_⟩
    rw [opcode_x, Bool.not_eq_true']
    exact Bool.eq_false_iff.mpr up

theorem counter_of_straight (cycle : step m = ⟨after, .ok record, events⟩)
    (stays : ¬ m.GoesElsewhere) (no_skip : ¬ m.Skips) (no_wait : ¬ m.Waits) :
    after.registers.pc = (m.registers.pc + 2) % 65536 := by
  obtain ⟨executed, rfl, ⟨_, rfl⟩ | ⟨instruction, _, denotes, done⟩⟩ := effect_of_cycle cycle
  · rfl
  · refine counter_of_effect (denotes.fits m.opcode_fits) done
      (fun jumps => stays (goesElsewhere_of_jumps denotes jumps))
      (fun holds => no_skip (skips_of_condition denotes holds)) ?_
    rintro x rfl idle
    cases denotes with
    | awaitKey family low =>
        exact no_wait ⟨endsIn_of_fields family low, Keypad.firstPressed?_eq_none_iff.mp idle⟩

theorem counter_of_skip (cycle : step m = ⟨after, .ok record, events⟩) (skips : m.Skips) :
    after.registers.pc = (m.registers.pc + 4) % 65536 := by
  obtain ⟨instruction, denotes, holds⟩ := condition_of_skips skips
  rw [step_of_effect (step_ok cycle).1 denotes (effect_of_condition holds)] at cycle
  cases cycle
  show ((m.registers.pc + 2) % 65536 + 2) % 65536 = (m.registers.pc + 4) % 65536
  omega

theorem counter_of_wait (cycle : step m = ⟨after, .ok record, events⟩) (waits : m.Waits) :
    after.registers.pc = m.registers.pc % 65536 := by
  obtain ⟨⟨head, low⟩, up⟩ := waits
  have denotes : Instruction.Denotes m.opcode (.awaitKey m.opcode.x) :=
    .awaitKey (family_of_head head) (nn_of_low low)
  have idle : m.fetched.devices.keypad.firstPressed? = none :=
    Keypad.firstPressed?_eq_none_iff.mpr up
  rw [step_of_effect (step_ok cycle).1 denotes (takeKey_of_none idle)] at cycle
  cases cycle
  show ((m.registers.pc + 2) % 65536 - 2) % 65536 = m.registers.pc % 65536
  omega

/-! ## Cells -/

/-- The cells that a cycle leaves alone if it succeeds. -/
theorem byte_of_cycle (cycle : step m = ⟨after, .ok record, events⟩) {address : Nat}
    (digits : m.EndsIn 0x33 → ¬ InBlock m.registers.index 3 address)
    (registers : m.EndsIn 0x55 → ¬ InBlock m.registers.index (m.place + 1) address) :
    after.memory.byte address = m.memory.byte address := by
  obtain ⟨executed, rfl, ⟨_, rfl⟩ | ⟨instruction, _, denotes, done⟩⟩ := effect_of_cycle cycle
  · rfl
  · have fits := denotes.fits m.opcode_fits
    have same := effect_changes_only instruction m.fetched
    rw [done] at same
    cases denotes with
    | storeDecimal family low =>
        have outside := digits (endsIn_of_fields family low)
        obtain ⟨start, index, _, rfl⟩ := storeDigits_ok done
        rw [show m.registers.index = start from index, InBlock] at outside
        refine m.fetched.memory.byte_stored_of_outside ?_
        simp only [List.length_cons, List.length_nil]
        omega
    | storeRegisters family low =>
        have outside := registers (endsIn_of_fields family low)
        obtain ⟨start, index, _, _, rfl⟩ := storeAll_ok fits done
        rw [show m.registers.index = start from index, InBlock, place] at outside
        refine m.fetched.memory.byte_stored_of_outside ?_
        rw [Registers.length_bytes, opcode_x]
        omega
    | _ =>
        have cells := same.cells (by simp [Instruction.footprint])
        exact congrArg (fun cells : Array UInt8 => (cells[address]?.getD 0).toNat) cells

/-! ## Words without an instruction -/

/-- Performing a word answers that there is nothing to do exactly if the word is shown as
unknown. -/
theorem performs_nothing_iff (op : Opcode) (m : Machine) :
    (perform op m).result = .ok false ↔ (Operation.ofOpcode op).mnemonic = "UNKNOWN" := by
  cases found : Instruction.ofOpcode? op with
  | none =>
      rw [Operation.ofOpcode_of_unknown found, perform, found]
      exact iff_of_true rfl rfl
  | some instruction =>
      rw [Operation.ofOpcode_of_found found, perform_of_found found]
      refine iff_of_false (fun answer => ?_) instruction.mnemonic_ne_unknown
      rcases ran : execute instruction m with ⟨last, fault | _, reported⟩
      · rw [Action.bind_of_error ran] at answer
        cases answer
      · rw [Action.bind_of_events ran] at answer
        cases answer

theorem cycle_of_unknown (cycle : step m = ⟨after, .ok record, events⟩)
    (unknown : (Operation.ofOpcode m.opcode).mnemonic = "UNKNOWN") :
    after = m.fetched.counted ∧ record = recordOf m.opcode m.fetched := by
  cases found : Instruction.ofOpcode? m.opcode with
  | none =>
      have undenoted := Instruction.ofOpcode?_eq_none_iff.mp found
      rw [step_of_unknown (step_ok cycle).1 undenoted] at cycle
      cases cycle
      exact ⟨rfl, rfl⟩
  | some instruction =>
      rw [Operation.ofOpcode_of_found found] at unknown
      exact (instruction.mnemonic_ne_unknown unknown).elim

/-! ## All words -/

/-- What a cycle leaves alone, and where it goes on. -/
structure Confined (m after : Machine) (record : Snapshot Registers) : Prop where
  general : ∀ z : Fin 16, (z : Nat) ≠ m.place → z ≠ flagPlace → ¬ m.EndsIn 0x65 →
    after.registers.v.get z = m.registers.v.get z
  loaded : m.EndsIn 0x65 → ∀ z : Fin 16, m.place < z →
    after.registers.v.get z = m.registers.v.get z
  flag : m.place ≠ 0xF → ¬ m.WritesFlag → after.registers.flag = m.registers.flag
  index : ¬ m.MayChange .index → after.registers.index = m.registers.index
  delay : ¬ m.MayChange .delay → after.registers.delay = m.registers.delay
  sound : ¬ m.MayChange .sound → after.registers.sound = m.registers.sound
  stack : ¬ m.MayChange .stack → after.memory.stack = m.memory.stack
  screen : ¬ m.MayChange .screen → after.devices.screen = m.devices.screen
  cells : ∀ address : Nat, (m.EndsIn 0x33 → ¬ InBlock m.registers.index 3 address) →
    (m.EndsIn 0x55 → ¬ InBlock m.registers.index (m.place + 1) address) →
      after.memory.byte address = m.memory.byte address
  size : after.memory.size = m.memory.size
  random : after.devices.random =
    if m.word / 0x1000 = 0xC then m.devices.random.draw.2 else m.devices.random
  keypad : after.devices.keypad = m.devices.keypad
  ticks : after.devices.ticks = m.devices.ticks
  straight : ¬ m.GoesElsewhere → ¬ m.Skips → ¬ m.Waits →
    after.registers.pc = (m.registers.pc + 2) % 65536
  skipped : m.Skips → after.registers.pc = (m.registers.pc + 4) % 65536
  waited : m.Waits → after.registers.pc = m.registers.pc % 65536
  /-- The word has no instruction exactly if it is shown as unknown. -/
  undone : (perform m.opcode m.fetched).result = .ok false ↔
    (Operation.ofOpcode m.opcode).mnemonic = "UNKNOWN"
  /-- Then the program counter and the cycle count move on, and the fetch is logged. -/
  unknown : (Operation.ofOpcode m.opcode).mnemonic = "UNKNOWN" →
    after = { m with
      registers.pc := (m.registers.pc + 2) % 65536
      memory.log := []
      cycles := m.cycles + 1 } ∧
    record.accesses = [.read m.registers.pc.toNat m.word]

/-- **A cycle is confined by its word**, whatever the machine. -/
theorem cycle_is_confined (cycle : step m = ⟨after, .ok record, events⟩) :
    m.Confined after record := by
  have same := m.step_changes_only
  have random := m.random_step
  rw [cycle] at same random
  have inside := (step_ok cycle).1
  have place_small : m.place < 16 := Nat.mod_lt _ (by decide)
  refine
    { general := fun z other no_flag no_load =>
        general_of_cycle cycle other (fun flag => (no_flag flag).elim)
          fun load => (no_load load).elim
      loaded := fun load z above => ?_
      flag := fun other no_flag => ?_
      index := fun other => same.registers.index (not_touched other nofun)
      delay := fun other => same.registers.delay (not_touched other nofun)
      sound := fun other => same.registers.sound (not_touched other nofun)
      stack := fun other => same.stack (not_touched other nofun)
      screen := fun other => same.screen (not_touched other nofun)
      cells := fun address => byte_of_cycle cycle
      size := same.size
      random := ?_
      keypad := same.keypad
      ticks := same.ticks
      straight := counter_of_straight cycle
      skipped := counter_of_skip cycle
      waited := counter_of_wait cycle
      undone := performs_nothing_iff m.opcode m.fetched
      unknown := fun unknown => ?_ }
  · refine general_of_cycle cycle (by omega) (fun _ writes => ?_) fun _ => above
    -- the word that loads registers writes no flag
    unfold WritesFlag EndsIn at *
    omega
  · refine general_of_cycle (z := flagPlace) cycle other.symm (fun _ => no_flag) fun _ => ?_
    show m.place < 15
    omega
  · rw [random]
    exact if_congr (and_iff_right inside) rfl rfl
  · obtain ⟨rfl, rfl⟩ := cycle_of_unknown cycle unknown
    exact ⟨rfl, rfl⟩

/-- A word that loads a byte into a register leaves the others alone, and goes on. -/
theorem load_is_confined : ∃ after record,
    step (ofWord 0x6A 0x07 .everyCycle) = ⟨after, .ok record, []⟩ ∧
      after.registers.v.get 0xA = 0x07 ∧ after.registers.v.get 0xB = 0 ∧
      after.registers.pc = 2 := by
  obtain ⟨record, cycle⟩ : ∃ record, step (ofWord 0x6A 0x07 .everyCycle) =
      ⟨(step (ofWord 0x6A 0x07 .everyCycle)).state, .ok record, []⟩ := ⟨_, rfl⟩
  have confined := cycle_is_confined cycle
  refine ⟨_, record, cycle, by decide, ?_, ?_⟩
  · exact confined.general 0xB (by decide) (by decide) (by decide)
  · exact confined.straight (by decide) (by decide) (by decide)

end Machine

end Chip8
