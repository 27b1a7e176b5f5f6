import Chip8.Proofs.ReadingFaults

/-!
# The sections of a configuration

Each part of a configuration is read from one section of a document.  The section is opened, its
unknown keys are reported, and the rest is read off its entries: from them a reader learns no more
than what it finds under the known keys, and of a value no more than what it is as an integer or as
a text (`readMachine_eq`, `machineOf_congr` and the like).
-/

namespace Chip8

set_option autoImplicit false

/-! ## Entries by key -/

namespace Value

variable {key : Value} {name : String}

/-- Only a text is the same key as a text, and only the same one. -/
theorem sameKey_text_iff : key.sameKey (text name) = true ↔ key = text name := by
  cases key with
  | text s =>
      constructor
      · intro same
        rw [eq_of_beq same]
      · intro same
        rw [same]
        exact beq_self_eq_true name
  | _ => simp [sameKey, numeric?]

theorem lookup_cons (key value : Value) (rest : List (Value × Value)) (name : String) :
    lookup ((key, value) :: rest) name =
      if key.sameKey (text name) then some value else lookup rest name := by
  rw [lookup, List.find?_cons]
  split
  next same => rw [if_pos same]; rfl
  next apart => rw [if_neg (Bool.eq_false_iff.mp apart)]; rfl

end Value

namespace SystemConfig

open Value (lookup)

variable {d d' : Document} {root entries entries' : Entries} {name key : String}
  {known : List String} {value value' : Value}

theorem rel_imp {α : Type} {related other : α → α → Prop} {found found' : Option α}
    (both : Option.Rel related found found') (implies : ∀ a b, related a b → other a b) :
    Option.Rel other found found' := by
  cases both with
  | some holds => exact .some (implies _ _ holds)
  | none => exact .none

/-- What holds of the values found and of the standard one holds of the chosen ones. -/
theorem valueOr_rel {related : Value → Value → Prop} {standard : Value}
    (found : Option.Rel related (lookup entries key) (lookup entries' key))
    (at_standard : related standard standard) :
    related (valueOr entries key standard) (valueOr entries' key standard) := by
  rw [valueOr, valueOr]
  generalize lookup entries key = chosen, lookup entries' key = chosen' at found
  cases found with
  | some holds => exact holds
  | none => exact at_standard

/-! ## What is read from a section -/

/-- Reads on from the entries of a section, after its unknown keys were reported. -/
def readSection {α : Type} (d : Document) (root : Entries) (name : String) (known : List String)
    (next : Entries → Reading α) : Reading α :=
  match sectionOf d root name with
  | .map entries => do
    reportUnknown d (name ++ ".") known entries
    next entries
  | _ => Action.fail (.sectionNotMapping name)

theorem openSection_bind {α : Type} (next : Entries → Reading α) :
    (openSection d root name known >>= next) = readSection d root name known next := by
  rw [openSection, readSection]
  cases sectionOf d root name with
  | map entries => exact bind_assoc _ _ _
  | _ => rfl

/-- The choices about the machine, from the entries of their section. -/
def machineOf (d : Document) (entries : Entries) : Reading MachineConfig := do
  let timerMode ← readTimerMode d (valueOr entries "timer_mode" (.text TimerMode.realtime.name))
  let number (name : String) (standard : Nat) : Reading Nat :=
    Action.ofExcept (positive d name (valueOr entries name (.int standard)))
  let cyclesPerSecond ← number "cycles_per_second" standard.machine.cyclesPerSecond
  let frameRate ← number "frame_rate" standard.machine.frameRate
  let stackDepth ← number "stack_depth" standard.machine.stackDepth
  let seed ← Action.ofExcept (optionalInteger d (valueOr entries "seed" .null))
  pure ⟨cyclesPerSecond, frameRate, timerMode, stackDepth, seed⟩

/-- The choices about the screen, from the entries of their section. -/
def displayOf (d : Document) (entries : Entries) : Reading DisplayConfig := do
  let scale ← Action.ofExcept
    (positive d "scale" (valueOr entries "scale" (.int standard.display.scale)))
  let foreground ← Action.ofExcept
    (d.written (valueOr entries "foreground" (.text standard.display.foreground)))
  let background ← Action.ofExcept
    (d.written (valueOr entries "background" (.text standard.display.background)))
  pure ⟨scale, foreground, background⟩

/-- A value as a list of integers; an empty one stands for none. -/
def integersIn (d : Document) (value : Value) : Reading (List Int) :=
  if value.isEmpty then pure []
  else do
    let items ← Action.ofExcept (d.resolve value).elements
    Action.ofExcept (integers d items)

/-- The breakpoints, from the entries of their section. -/
def breakpointsOf (d : Document) (entries : Entries) : Reading (List Int) :=
  integersIn d (valueOr entries "breakpoints" .null)

theorem readMachine_eq (d : Document) (root : Entries) :
    readMachine d root = readSection d root "machine" machineKeys (machineOf d) :=
  openSection_bind (machineOf d)

theorem readDisplay_eq (d : Document) (root : Entries) :
    readDisplay d root = readSection d root "display" displayKeys (displayOf d) :=
  openSection_bind (displayOf d)

theorem readBreakpoints_eq (d : Document) (root : Entries) :
    readBreakpoints d root = readSection d root "debug" debugKeys (breakpointsOf d) :=
  openSection_bind (breakpointsOf d)

/-! ## Values that are read alike -/

/-- Two values, each in a document, are read as the same integer or refused for the same reason, and
both or none of them stand for no integer at all. -/
structure AlikeIntegers (d d' : Document) (value value' : Value) : Prop where
  integer : integer d' value' = integer d value
  null_iff : value' = .null ↔ value = .null

theorem AlikeIntegers.positive (alike : AlikeIntegers d d' value value') (name : String) :
    positive d' name value' = positive d name value := by
  unfold SystemConfig.positive
  rw [alike.integer]

theorem AlikeIntegers.optionalInteger (alike : AlikeIntegers d d' value value') :
    optionalInteger d' value' = optionalInteger d value := by
  by_cases null : value = .null
  · rw [null, alike.null_iff.mpr null]
    rfl
  · have of_present {d : Document} {value : Value} (present : value ≠ .null) :
        SystemConfig.optionalInteger d value = (SystemConfig.integer d value).map some := by
      cases value with
      | null => exact (present rfl).elim
      | _ => rfl
    rw [of_present null, of_present (mt alike.null_iff.mp null), alike.integer]

/-- The keys of the machine under which integers stand. -/
def machineNumbers : List String := ["cycles_per_second", "frame_rate", "stack_depth", "seed"]

/-- Entries from which the choices about the machine are read alike. -/
structure AlikeMachines (d d' : Document) (entries entries' : Entries) : Prop where
  mode : Option.Rel (fun value value' => readTimerMode d' value' = readTimerMode d value)
    (lookup entries "timer_mode") (lookup entries' "timer_mode")
  numbers : ∀ key ∈ machineNumbers,
    Option.Rel (AlikeIntegers d d') (lookup entries key) (lookup entries' key)

theorem machineOf_congr (alike : AlikeMachines d d' entries entries') :
    machineOf d' entries' = machineOf d entries := by
  have mode : readTimerMode d' (valueOr entries' "timer_mode" (.text TimerMode.realtime.name)) =
      readTimerMode d (valueOr entries "timer_mode" (.text TimerMode.realtime.name)) :=
    valueOr_rel alike.mode rfl
  have number (key : String) (inside : key ∈ machineNumbers) (standard : Nat) :
      positive d' key (valueOr entries' key (.int standard)) =
        positive d key (valueOr entries key (.int standard)) :=
    (valueOr_rel (alike.numbers key inside) ⟨rfl, .rfl⟩).positive key
  have seed : optionalInteger d' (valueOr entries' "seed" .null) =
      optionalInteger d (valueOr entries "seed" .null) :=
    (valueOr_rel (alike.numbers "seed" (by decide)) ⟨rfl, .rfl⟩).optionalInteger
  simp only [machineOf]
  rw [mode, number _ (by decide), number _ (by decide), number _ (by decide), seed]

/-- Entries from which the choices about the screen are read alike. -/
structure AlikeDisplays (d d' : Document) (entries entries' : Entries) : Prop where
  scale : Option.Rel (AlikeIntegers d d') (lookup entries "scale") (lookup entries' "scale")
  texts : ∀ key ∈ ["foreground", "background"],
    Option.Rel (fun value value' => d'.written value' = d.written value)
      (lookup entries key) (lookup entries' key)

theorem displayOf_congr (alike : AlikeDisplays d d' entries entries') :
    displayOf d' entries' = displayOf d entries := by
  have scale (standard : Nat) : positive d' "scale" (valueOr entries' "scale" (.int standard)) =
      positive d "scale" (valueOr entries "scale" (.int standard)) :=
    (valueOr_rel alike.scale ⟨rfl, .rfl⟩).positive "scale"
  have text (key : String) (inside : key ∈ ["foreground", "background"]) (standard : String) :
      d'.written (valueOr entries' key (.text standard)) =
        d.written (valueOr entries key (.text standard)) :=
    valueOr_rel (alike.texts key inside) rfl
  simp only [displayOf]
  rw [scale, text _ (by decide), text _ (by decide)]

theorem breakpointsOf_congr
    (alike : Option.Rel (fun value value' => integersIn d' value' = integersIn d value)
      (lookup entries "breakpoints") (lookup entries' "breakpoints")) :
    breakpointsOf d' entries' = breakpointsOf d entries :=
  valueOr_rel alike rfl

end SystemConfig

end Chip8
