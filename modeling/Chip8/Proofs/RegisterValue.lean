import Chip8.Proofs.RegisterChange

/-!
# Waiting for a register to have a value

A breakpoint on the value of a register finds the register by its name, and a machine shows its
registers by name.  The two were meant to know the same names.  They do with two exceptions: the
depth of the call stack is shown as `SP` and cannot be waited for, and a name that no register has
is read as the value that is absent, so that a breakpoint without a value is met by every cycle.

A breakpoint agrees with what is shown exactly where neither exception applies
(`agrees_iff`).
-/

namespace Chip8

set_option autoImplicit false

/-! ## Names in ASCII -/

/-- All characters of a text are ASCII characters. -/
def IsAscii (text : String) : Prop := ∀ c ∈ text.toList, c.toNat < 128

instance (text : String) : Decidable (IsAscii text) :=
  List.decidableBAll (fun c : Char => c.toNat < 128) text.toList

/-- The upper case of ASCII text is that of its characters. -/
theorem IsAscii.toList_upper {text : String} (ascii : IsAscii text) :
    (Text.upper text).toList = text.toList.map Char.toUpper := by
  rw [Text.upper, String.toList_ofList]
  unfold IsAscii at ascii
  generalize text.toList = chars at ascii
  induction chars with
  | nil => rfl
  | cons c rest ih =>
      have first : Text.upperChar c = [c.toUpper] := if_pos (ascii c (.head _))
      rw [List.flatMap_cons, List.map_cons, first, ih fun d inside => ascii d (.tail _ inside)]
      rfl

/-- What holds of the first 128 characters holds of every ASCII character. -/
theorem forall_ascii (property : Char → Prop) (holds : ∀ code : Fin 128, property (.ofNat code))
    {c : Char} (ascii : c.toNat < 128) : property c := by
  have here := holds ⟨c.toNat, ascii⟩
  rwa [Char.ofNat_toNat] at here

/-- The capital of a character, if it is a digit in base sixteen, ends the name of a register. -/
def EndsRegister (c : Char) : Prop :=
  (Text.digit? 16 c.toUpper).all (fun k =>
    k < 16 && (Instruction.register (Int.ofNat k)).toList == ['V', c.toUpper]) = true

instance (c : Char) : Decidable (EndsRegister c) := instDecidableEqBool _ true

theorem endsRegister_ofNat : ∀ code : Fin 128, EndsRegister (.ofNat code) := by decide +kernel

theorem register_of_digit? {c : Char} {k : Nat} (ascii : c.toNat < 128)
    (digit : Text.digit? 16 c.toUpper = some k) :
    k < 16 ∧ (Instruction.register (Int.ofNat k)).toList = ['V', c.toUpper] := by
  have ends := forall_ascii EndsRegister endsRegister_ofNat ascii
  rw [EndsRegister, digit, Option.all_some, Bool.and_eq_true, decide_eq_true_eq, beq_iff_eq] at ends
  exact ends

/-- The names under which a value is found. -/
theorem Registers.names_of_named? {r : Registers} {name : String}
    (found : (r.named? name).isSome) :
    (∃ digit, (Text.upper name).toList = ['V', digit]) ∨
      Text.upper name ∈ ["PC", "I", "DT", "ST"] := by
  refine Classical.byContradiction fun unnamed => ?_
  rw [not_or, not_exists] at unnamed
  rw [r.named?_other unnamed.1 unnamed.2] at found
  cases found

/-- **An ASCII name under which a breakpoint finds a value is the name of a register.** -/
theorem Registers.mem_names_of_named? {r : Registers} {name : String} (ascii : IsAscii name)
    (found : (r.named? name).isSome) : Text.upper name ∈ Registers.names := by
  rcases names_of_named? found with ⟨digit, letters⟩ | special
  · have chars : ['V', digit] = name.toList.map Char.toUpper := letters ▸ ascii.toList_upper
    obtain ⟨c, inside, rfl⟩ : ∃ c ∈ name.toList, c.toUpper = digit :=
      List.mem_map.mp (chars ▸ .tail _ (.head _))
    rw [r.named?_general letters] at found
    obtain ⟨_, value⟩ := Option.isSome_iff_exists.mp found
    obtain ⟨_, lifted, _⟩ := Option.map_eq_some_iff.mp value
    obtain ⟨k, digit, _⟩ := Option.bind_eq_some_iff.mp lifted
    obtain ⟨small, same⟩ := register_of_digit? (ascii c inside) digit
    rw [String.toList_inj.mp (letters.trans same.symm)]
    exact List.mem_append_left _ (List.mem_map.mpr ⟨⟨k, small⟩, List.mem_finRange _, rfl⟩)
  · exact List.mem_append_right _ special

/-! ## Names that are shown -/

namespace Machine

variable {m : Machine} {name : String}

/-- The depth of the call stack is shown as a register. -/
theorem shown?_depth (m : Machine) : m.shown? "SP" = some (m.memory.stack.depth : Int) := rfl

/-- What is shown besides the registers that can be watched is the depth of the call stack. -/
theorem names_of_shown? {key : String} {value : Int} (shown : m.shown? key = some value) :
    key ∈ Registers.names ∨ key = "SP" := by
  have found : (m.namedValues.lookup key).isSome := Option.isSome_of_eq_some shown
  obtain ⟨entry, listed, same⟩ := List.lookup_isSome_iff.mp found
  rw [beq_iff_eq.mp same]
  rcases List.mem_append.mp listed with general | special
  · obtain ⟨k, inside, rfl⟩ := List.mem_map.mp general
    exact .inl (List.mem_append_left _ (List.mem_map_of_mem inside))
  · simp only [List.mem_cons, List.not_mem_nil, or_false] at special
    rcases special with rfl | rfl | rfl | rfl | rfl
    · exact .inl (List.mem_append_right _ (.head _))
    · exact .inl (List.mem_append_right _ (.tail _ (.head _)))
    · exact .inr rfl
    · exact .inl (List.mem_append_right _ (.tail _ (.tail _ (.head _))))
    · exact .inl (List.mem_append_right _ (.tail _ (.tail _ (.tail _ (.head _)))))

/-- The depth of the call stack is not found by its name. -/
theorem named?_depth {r : Registers} (depth : Text.upper name = "SP") : r.named? name = none := by
  refine r.named?_other (fun digit general => ?_) (depth ▸ by decide)
  rw [depth] at general
  cases general

/-- An ASCII name that is not shown is not found. -/
theorem named?_of_not_shown (ascii : IsAscii name) (hidden : m.shown? (Text.upper name) = none) :
    m.registers.named? name = none := by
  cases found : m.registers.named? name with
  | none => rfl
  | some value =>
      have named := Registers.mem_names_of_named? ascii (Option.isSome_of_eq_some found)
      rw [(m.named?_eq_shown? named).1, hidden] at found
      cases found

end Machine

/-! ## Agreement -/

namespace Breakpoint

open Machine (step)

variable {b : Breakpoint} {name : String} {before : Registers} {cycle : Snapshot Registers}

/-- What a breakpoint on the value of the register with a name ought to say of a cycle, given the
machine after it: whether the value that is shown is the one that is waited for, and nothing if no
register has the name. -/
structure Agrees (b : Breakpoint) (name : String) (before : Registers) (cycle : Snapshot Registers)
    (after : Machine) : Prop where
  shown : ∀ value wanted, after.shown? (Text.upper name) = some value → b.value = some wanted →
    (b.matchesCycle before cycle = true ↔ value = wanted)
  hidden : IsAscii name → after.shown? (Text.upper name) = none →
    ¬ b.matchesCycle before cycle = true

/-- A breakpoint on the value of a register is met if the name is found with the value, or is not
found and there is no value. -/
theorem matchesCycle_value_iff (kind : b.kind = .registerValue)
    (register : b.register = some name) :
    b.matchesCycle before cycle = true ↔
      name ≠ "" ∧ cycle.registers.named? name = b.value := by
  rw [matchesCycle_iff]
  constructor
  · intro holds
    cases holds with
    | value _ other_register not_empty same =>
        rw [register] at other_register
        cases other_register
        exact ⟨not_empty, same⟩
    | read other_kind | write other_kind | change other_kind =>
        rw [kind] at other_kind
        cases other_kind
  · rintro ⟨not_empty, same⟩
    exact .value kind register not_empty same

/-- **Where a breakpoint on the value of a register agrees with what is shown after a cycle.**  It
does unless it waits for the depth of the call stack, which is shown and not found, or has no value
under an ASCII name that no register has, which is met by every cycle. -/
theorem agrees_iff {m after : Machine} {events : List Event}
    (stepped : step m = ⟨after, .ok cycle, events⟩) (kind : b.kind = .registerValue)
    (register : b.register = some name) (before : Registers) :
    b.Agrees name before cycle after ↔
      (Text.upper name = "SP" → b.value ≠ some (after.memory.stack.depth : Int)) ∧
      (IsAscii name → after.shown? (Text.upper name) = none → name ≠ "" → b.value ≠ none) := by
  have record : cycle.registers = after.registers := by
    obtain ⟨_, executed, _, rfl, rfl⟩ := Machine.step_ok stepped
    rfl
  have met : b.matchesCycle before cycle = true ↔
      name ≠ "" ∧ after.registers.named? name = b.value := by
    rw [matchesCycle_value_iff kind register, record]
  constructor
  · intro agrees
    refine ⟨fun depth value => ?_, fun ascii hidden not_empty value => ?_⟩
    · have shown := depth ▸ after.shown?_depth
      have found := (met.mp ((agrees.shown _ _ shown value).mpr rfl)).2
      rw [Machine.named?_depth depth, value] at found
      cases found
    · refine agrees.hidden ascii hidden (met.mpr ⟨not_empty, ?_⟩)
      rw [Machine.named?_of_not_shown ascii hidden, value]
  · rintro ⟨no_depth, no_absence⟩
    refine ⟨fun value wanted shown waits => ?_, fun ascii hidden found => ?_⟩
    · rw [met, waits]
      rcases Machine.names_of_shown? shown with named | depth
      · have not_empty : name ≠ "" := by
          rintro rfl
          revert named
          decide
        rw [(after.named?_eq_shown? named).1, shown, Option.some_inj]
        exact and_iff_right not_empty
      · rw [Machine.named?_depth depth]
        have different := no_depth depth
        rw [depth, after.shown?_depth] at shown
        cases shown
        rw [waits] at different
        constructor
        · rintro ⟨_, found⟩
          cases found
        · rintro rfl
          exact (different rfl).elim
    · obtain ⟨not_empty, same⟩ := met.mp found
      rw [Machine.named?_of_not_shown ascii hidden] at same
      exact no_absence ascii hidden not_empty same.symm

/-- A machine sets its first register to five, and that is what the breakpoint waits for. -/
theorem first_register_agrees :
    ∃ cycle, (step (.ofWord 0x60 0x05 .everyCycle)).result = .ok cycle ∧
      Breakpoint.Agrees ⟨.registerValue, some 5, none, some "v0", true⟩ "v0" .initial cycle
        (step (.ofWord 0x60 0x05 .everyCycle)).state ∧
      Breakpoint.matchesCycle ⟨.registerValue, some 5, none, some "v0", true⟩ .initial cycle =
        true := by
  obtain ⟨cycle, stepped⟩ : ∃ cycle, step (.ofWord 0x60 0x05 .everyCycle) =
      ⟨(step (.ofWord 0x60 0x05 .everyCycle)).state, .ok cycle, []⟩ := ⟨_, rfl⟩
  have agrees : Breakpoint.Agrees ⟨.registerValue, some 5, none, some "v0", true⟩ "v0" .initial
      cycle (step (.ofWord 0x60 0x05 .everyCycle)).state :=
    (agrees_iff stepped rfl rfl .initial).mpr ⟨by decide, fun _ _ _ => nofun⟩
  refine ⟨cycle, congrArg Outcome.result stepped, agrees, ?_⟩
  exact (agrees.shown 5 5 (by decide) rfl).mpr rfl

/-- **The depth of the call stack cannot be waited for**: it is shown as zero, and a breakpoint that
waits for zero is not met.  **And a name that no register has can be met**, by a breakpoint without
a value. -/
theorem depth_and_unknown_names_disagree :
    ∃ cycle, (step (.ofWord 0x00 0xE0 .everyCycle)).result = .ok cycle ∧
      ¬ Breakpoint.Agrees ⟨.registerValue, some 0, none, some "SP", true⟩ "SP" .initial cycle
        (step (.ofWord 0x00 0xE0 .everyCycle)).state ∧
      ¬ Breakpoint.Agrees ⟨.registerValue, none, none, some "XY", true⟩ "XY" .initial cycle
        (step (.ofWord 0x00 0xE0 .everyCycle)).state := by
  obtain ⟨cycle, stepped⟩ : ∃ cycle, step (.ofWord 0x00 0xE0 .everyCycle) =
      ⟨(step (.ofWord 0x00 0xE0 .everyCycle)).state, .ok cycle, []⟩ := ⟨_, rfl⟩
  refine ⟨cycle, congrArg Outcome.result stepped, fun agrees => ?_, fun agrees => ?_⟩
  · have missed : Breakpoint.matchesCycle ⟨.registerValue, some 0, none, some "SP", true⟩ .initial
        cycle = false := rfl
    rw [(agrees.shown 0 0 rfl rfl).mpr rfl] at missed
    cases missed
  · have met : Breakpoint.matchesCycle ⟨.registerValue, none, none, some "XY", true⟩ .initial
        cycle = true := rfl
    exact agrees.hidden (by decide) (by decide) met

end Breakpoint

end Chip8
