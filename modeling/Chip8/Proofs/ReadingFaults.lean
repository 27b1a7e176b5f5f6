import Chip8.Config.Reading
import Chip8.Proofs.Evaluation

/-!
# What a configuration is refused with

A host that reads a configuration is prepared for faults of one family, those of values, and tells
its user about them.  Whatever is wrong with a document should end like that.

Nearly everything does.  Unknown keys are reported by their text, and a value is not written as text
only because it holds an integer of too many digits; an integer that is no integer, a section that
is no mapping and a key of the host that is no single character have faults of their own.  All of
these belong to the family.  But the breakpoints are gone through one after another whatever they
are, and a value that has no elements, such as a number, fails outside the family.

So a document is refused as it should be unless reading gets to the breakpoints and finds such a
value there (`read_or_refused_iff`).
-/

namespace Chip8

set_option autoImplicit false

/-! ## Computations with faults of one kind -/

/-- A computation fails with no other faults than those of a kind. -/
def OnlyFaults {α : Type} (kind : Fault → Prop) (computed : Except Fault α) : Prop :=
  ∀ fault, computed = .error fault → kind fault

namespace OnlyFaults

variable {α β : Type} {kind : Fault → Prop} {computed : Except Fault α}

theorem ok (answer : α) : OnlyFaults kind (.ok answer) := nofun

theorem error {fault : Fault} (holds : kind fault) :
    OnlyFaults kind (.error fault : Except Fault α) := by
  rintro _ ⟨⟩
  exact holds

theorem map (inside : OnlyFaults kind computed) (f : α → β) :
    OnlyFaults kind (computed.map f) := by
  cases computed with
  | error fault => exact .error (inside fault rfl)
  | ok answer => exact .ok (f answer)

theorem mono {other : Fault → Prop} (inside : OnlyFaults kind computed)
    (implies : ∀ fault, kind fault → other fault) : OnlyFaults other computed :=
  fun fault failed => implies fault (inside fault failed)

end OnlyFaults

namespace Action

variable {σ α β : Type} {kind : Fault → Prop}

/-- An action fails with no other faults than those of a kind. -/
def OnlyFaults (kind : Fault → Prop) (action : Action σ α) : Prop :=
  ∀ s, Chip8.OnlyFaults kind (action s).result

/-- A sequence fails if its first part does, or if that answers and what follows fails. -/
theorem bind_eq_error_iff {first : Action σ α} {next : α → Action σ β} {s : σ} {fault : Fault} :
    ((first >>= next) s).result = .error fault ↔
      (first s).result = .error fault ∨
        ∃ answer, (first s).result = .ok answer ∧
          (next answer (first s).state).result = .error fault := by
  rcases outcome : first s with ⟨middle, result, events⟩
  cases result with
  | error other =>
      rw [bind_of_error outcome]
      constructor
      · rintro ⟨⟩
        exact .inl rfl
      · rintro (⟨⟨⟩⟩ | ⟨_, ⟨⟩, _⟩)
        rfl
  | ok answer =>
      rw [bind_of_events outcome]
      constructor
      · intro failed
        exact .inr ⟨answer, rfl, failed⟩
      · rintro (⟨⟨⟩⟩ | ⟨_, ⟨⟩, failed⟩)
        exact failed

namespace OnlyFaults

theorem pure (answer : α) : OnlyFaults kind (pure answer : Action σ α) := fun _ => .ok answer

theorem report (event : Event) : OnlyFaults kind (report event : Action σ Unit) := fun _ => .ok ()

theorem fail {fault : Fault} (holds : kind fault) : OnlyFaults kind (fail fault : Action σ α) :=
  fun _ => .error holds

theorem ofExcept {computed : Except Fault α} (inside : Chip8.OnlyFaults kind computed) :
    OnlyFaults kind (ofExcept computed : Action σ α) := fun _ => inside

theorem bind {first : Action σ α} {next : α → Action σ β} (first_inside : OnlyFaults kind first)
    (next_inside : ∀ answer, OnlyFaults kind (next answer)) : OnlyFaults kind (first >>= next) := by
  intro s fault failed
  rcases bind_eq_error_iff.mp failed with first_failed | ⟨answer, _, next_failed⟩
  · exact first_inside s fault first_failed
  · exact next_inside answer _ fault next_failed

/-- With a fault of another kind a sequence fails only after its first part has answered. -/
theorem bind_eq_error_iff {first : Action σ α} {next : α → Action σ β} {s : σ} {fault : Fault}
    (first_inside : OnlyFaults kind first) (outside : ¬ kind fault) :
    ((first >>= next) s).result = .error fault ↔
      ∃ answer, (first s).result = .ok answer ∧
        (next answer (first s).state).result = .error fault := by
  rw [Action.bind_eq_error_iff]
  exact or_iff_right fun failed => outside (first_inside s fault failed)

end OnlyFaults

end Action

/-! ## Values as text and as integers -/

/-- The fault of a value that cannot be written as text. -/
def Fault.IsUnwritable (fault : Fault) : Prop := fault = .integerTooLongToWrite Text.digitLimit

/-- The faults that a host is prepared for when it reads a configuration. -/
def Fault.OfValue (fault : Fault) : Prop := fault.family = .value

theorem OnlyFaults.ofValue {α : Type} {computed : Except Fault α}
    (unwritable : OnlyFaults Fault.IsUnwritable computed) : OnlyFaults Fault.OfValue computed := by
  refine unwritable.mono fun fault same => ?_
  rw [same]
  rfl

namespace Value

theorem onlyFaults_integerText (n : Int) : OnlyFaults Fault.IsUnwritable (integerText n) := by
  unfold integerText
  split
  · exact .error rfl
  · exact .ok _

theorem onlyFaults_integerIn (base : Nat) (text : List Text.Symbol) :
    OnlyFaults Fault.OfValue (integerIn base text) := by
  unfold integerIn
  split
  · exact .ok _
  · exact .error rfl
  · exact .error rfl

variable {nested : Nat → Except Fault String}

mutual

/-- A value is not written only because of an integer of too many digits, if that is so for the
endless collections. -/
theorem onlyFaults_shown (inside : ∀ place, OnlyFaults Fault.IsUnwritable (nested place)) :
    ∀ value : Value, OnlyFaults Fault.IsUnwritable (value.shown nested)
  | null | bool _ | float _ | undefined | text _ | symbols _ | bytes _ | time _ => .ok _
  | int n => onlyFaults_integerText n
  | list items => (onlyFaults_shownItems inside items).map _
  | map entries => (onlyFaults_shownEntries inside entries).map _
  | set members => by
      unfold shown
      split
      · exact .ok _
      · exact (onlyFaults_shownItems inside members).map _
  | pair first second => by
      have first_inside := onlyFaults_shown inside first
      have second_inside := onlyFaults_shown inside second
      unfold shown
      split
      next => exact .ok _
      next fault failed => exact .error (first_inside fault failed)
      next fault failed _ => exact .error (second_inside fault failed)
  | endless place => inside place

theorem onlyFaults_shownItems (inside : ∀ place, OnlyFaults Fault.IsUnwritable (nested place)) :
    ∀ items : List Value, OnlyFaults Fault.IsUnwritable (shownItems nested items)
  | [] => .ok _
  | item :: rest => by
      have item_inside := onlyFaults_shown inside item
      have rest_inside := onlyFaults_shownItems inside rest
      unfold shownItems
      split
      next => exact rest_inside.map _
      next fault failed => exact .error (item_inside fault failed)

theorem onlyFaults_shownEntries (inside : ∀ place, OnlyFaults Fault.IsUnwritable (nested place)) :
    ∀ entries : List (Value × Value), OnlyFaults Fault.IsUnwritable (shownEntries nested entries)
  | [] => .ok _
  | (key, value) :: rest => by
      have key_inside := onlyFaults_shown inside key
      have value_inside := onlyFaults_shown inside value
      have rest_inside := onlyFaults_shownEntries inside rest
      unfold shownEntries
      split
      next => exact rest_inside.map _
      next fault failed => exact .error (key_inside fault failed)
      next fault failed _ => exact .error (value_inside fault failed)

end

/-- A value that has no elements: no text, and no collection that stands here itself. -/
def IsBare : Value → Prop
  | null | bool _ | int _ | float _ | undefined | time _ | endless _ => True
  | _ => False

theorem elements_eq_error_iff {value : Value} {fault : Fault} :
    value.elements = .error fault ↔ fault = .noElements ∧ value.IsBare := by
  cases value <;> simp [elements, IsBare, eq_comm]

end Value

namespace Document

variable (d : Document)

/-- A value is not written as text only because of an integer of too many digits. -/
theorem onlyFaults_nested (room : Nat) (opened : List Nat) (place : Nat) :
    OnlyFaults Fault.IsUnwritable (d.nested room opened place) := by
  induction room generalizing opened place with
  | zero => exact .ok _
  | succ room ih =>
      unfold nested
      split
      · exact .ok _
      · exact Value.onlyFaults_shown (ih _) _

theorem onlyFaults_written (value : Value) : OnlyFaults Fault.IsUnwritable (d.written value) := by
  unfold written
  split
  · exact .ok _
  · exact .ok _
  · exact .ok _
  · exact Value.onlyFaults_shown (d.onlyFaults_nested _ _) _

theorem onlyFaults_writtenLength (value : Value) :
    OnlyFaults Fault.IsUnwritable (d.writtenLength value) := by
  unfold writtenLength
  split
  · exact .ok _
  · exact (d.onlyFaults_written _).map _

end Document

/-! ## Reading the parts of a configuration -/

namespace SystemConfig

variable (d : Document)

theorem onlyFaults_integerOfSymbols (text : List Text.Symbol) :
    OnlyFaults Fault.OfValue (integerOfSymbols text) := by
  unfold integerOfSymbols
  split
  · exact Value.onlyFaults_integerIn 16 _
  · exact Value.onlyFaults_integerIn 16 _
  · exact Value.onlyFaults_integerIn 10 _

/-- Whatever is read as an integer is refused by a fault of values. -/
theorem onlyFaults_integer (value : Value) : OnlyFaults Fault.OfValue (integer d value) := by
  unfold integer
  split
  · exact .ok _
  · exact onlyFaults_integerOfSymbols _
  · exact onlyFaults_integerOfSymbols _
  · split
    next => exact .error rfl
    next fault failed => exact .error ((d.onlyFaults_written _).ofValue fault failed)

theorem onlyFaults_positive (name : String) (value : Value) :
    OnlyFaults Fault.OfValue (positive d name value) := by
  unfold positive
  split
  next fault failed => exact .error (onlyFaults_integer d value fault failed)
  next n _ =>
    split
    · exact .ok _
    · split
      next => exact .error rfl
      next fault failed => exact .error ((Value.onlyFaults_integerText n).ofValue fault failed)

theorem onlyFaults_optionalInteger (value : Value) :
    OnlyFaults Fault.OfValue (optionalInteger d value) := by
  unfold optionalInteger
  split
  · exact .ok _
  · exact (onlyFaults_integer d _).map _

theorem onlyFaults_reportUnknown (path : String) (known : List String) (entries : Entries) :
    Action.OnlyFaults Fault.OfValue (reportUnknown d path known entries) := by
  induction entries with
  | nil => exact .pure ()
  | cons entry rest ih =>
      unfold reportUnknown
      split
      · exact ih
      · refine .bind (.ofExcept (d.onlyFaults_written _).ofValue) fun _ => ?_
        exact .bind (.report _) fun _ => ih

theorem onlyFaults_openSection (root : Entries) (name : String) (known : List String) :
    Action.OnlyFaults Fault.OfValue (openSection d root name known) := by
  unfold openSection
  split
  · exact .bind (onlyFaults_reportUnknown d _ known _) fun _ => .pure _
  · exact .fail rfl

theorem onlyFaults_readTimerMode (value : Value) :
    Action.OnlyFaults Fault.OfValue (readTimerMode d value) := by
  unfold readTimerMode
  split
  · exact .pure _
  · exact .pure _
  · refine .bind (.ofExcept (d.onlyFaults_written _).ofValue) fun _ => ?_
    exact .bind (.report _) fun _ => .pure _

theorem onlyFaults_readMachine (root : Entries) :
    Action.OnlyFaults Fault.OfValue (readMachine d root) := by
  unfold readMachine
  refine .bind (onlyFaults_openSection d root _ _) fun entries => ?_
  refine .bind (onlyFaults_readTimerMode d _) fun _ => ?_
  refine .bind (.ofExcept (onlyFaults_positive d _ _)) fun _ => ?_
  refine .bind (.ofExcept (onlyFaults_positive d _ _)) fun _ => ?_
  refine .bind (.ofExcept (onlyFaults_positive d _ _)) fun _ => ?_
  exact .bind (.ofExcept (onlyFaults_optionalInteger d _)) fun _ => .pure _

theorem onlyFaults_readDisplay (root : Entries) :
    Action.OnlyFaults Fault.OfValue (readDisplay d root) := by
  unfold readDisplay
  refine .bind (onlyFaults_openSection d root _ _) fun entries => ?_
  refine .bind (.ofExcept (onlyFaults_positive d _ _)) fun _ => ?_
  refine .bind (.ofExcept (d.onlyFaults_written _).ofValue) fun _ => ?_
  exact .bind (.ofExcept (d.onlyFaults_written _).ofValue) fun _ => .pure _

theorem onlyFaults_readKey (key value : Value) :
    OnlyFaults Fault.OfValue (readKey d key value) := by
  unfold readKey
  split
  next fault failed => exact .error ((d.onlyFaults_written key).ofValue fault failed)
  next fault failed _ => exact .error ((d.onlyFaults_writtenLength key).ofValue fault failed)
  next character length _ _ =>
    split
    · split
      next fault failed => exact .error (onlyFaults_integer d value fault failed)
      next number _ =>
        split
        · exact .ok _
        · split
          next => exact .error rfl
          next fault failed =>
              exact .error ((Value.onlyFaults_integerText number).ofValue fault failed)
    · exact .error rfl

theorem onlyFaults_overlayKeys (entries : Entries) (keymap : Keymap) :
    OnlyFaults Fault.OfValue (overlayKeys d keymap entries) := by
  induction entries generalizing keymap with
  | nil => exact .ok _
  | cons entry rest ih =>
      unfold overlayKeys
      split
      next => exact ih _
      next fault failed => exact .error (onlyFaults_readKey d _ _ fault failed)

theorem onlyFaults_readKeymap (root : Entries) :
    Action.OnlyFaults Fault.OfValue (readKeymap d root) := by
  unfold readKeymap
  split
  · exact .ofExcept (onlyFaults_overlayKeys d _ _)
  · exact .fail rfl

theorem onlyFaults_integers (values : List Value) :
    OnlyFaults Fault.OfValue (integers d values) := by
  induction values with
  | nil => exact .ok _
  | cons value rest ih =>
      unfold integers
      split
      next fault failed => exact .error (onlyFaults_integer d value fault failed)
      next => exact ih.map _

theorem onlyFaults_readRom (root : Entries) : OnlyFaults Fault.OfValue (readRom d root) := by
  unfold readRom
  split
  · exact .ok _
  · exact (d.onlyFaults_written _).ofValue.map _

/-! ## The breakpoints -/

/-- The section about the debugger is opened, and what stands there in the place of the breakpoints
counts and has no elements. -/
def BareBreakpoints (d : Document) (root : Entries) : Prop :=
  ∃ entries, (openSection d root "debug" debugKeys ()).result = .ok entries ∧
    (valueOr entries "breakpoints" .null).isEmpty = false ∧
    (d.resolve (valueOr entries "breakpoints" .null)).IsBare

variable {d} {root : Entries}

/-- **Which breakpoints are refused by a fault that is not of values.** -/
theorem readBreakpoints_eq_error_iff {fault : Fault} (outside : ¬ fault.OfValue) :
    (readBreakpoints d root ()).result = .error fault ↔
      fault = .noElements ∧ BareBreakpoints d root := by
  unfold readBreakpoints
  rw [(onlyFaults_openSection d root _ _).bind_eq_error_iff outside]
  constructor
  · rintro ⟨entries, opened, failed⟩
    split at failed
    next => cases failed
    next counts =>
      rcases Action.bind_eq_error_iff.mp failed with no_elements | ⟨items, _, refused⟩
      · obtain ⟨same, bare⟩ := Value.elements_eq_error_iff.mp no_elements
        exact ⟨same, entries, opened, Bool.eq_false_iff.mpr counts, bare⟩
      · exact (outside (onlyFaults_integers d items fault refused)).elim
  · rintro ⟨same, entries, opened, counts, bare⟩
    refine ⟨entries, opened, ?_⟩
    rw [if_neg (Bool.eq_false_iff.mp counts)]
    exact Action.bind_eq_error_iff.mpr (.inl (Value.elements_eq_error_iff.mpr ⟨same, bare⟩))

/-! ## The whole document -/

/-- A reading gives an answer. -/
def Answers {α : Type} (reading : Reading α) : Prop := ∃ answer, (reading ()).result = .ok answer

/-- The root of a document as a value by itself; an empty value stands for an empty mapping. -/
def rootOf (d : Document) : Value := if d.root.isEmpty then .map [] else d.resolve d.root

/-- Everything that is read before the breakpoints is as it should be, and the breakpoints have no
elements. -/
structure FailsAtBreakpoints (d : Document) (root : Entries) : Prop where
  mapping : rootOf d = .map root
  keys : Answers (reportUnknown d "" rootKeys root)
  machine : Answers (readMachine d root)
  display : Answers (readDisplay d root)
  keymap : Answers (readKeymap d root)
  bare : BareBreakpoints d root

theorem ofDocument_of_mapping (mapping : rootOf d = .map root) :
    ofDocument d = (do
      reportUnknown d "" rootKeys root
      let machine ← readMachine d root
      let display ← readDisplay d root
      let keymap ← readKeymap d root
      let breakpoints ← readBreakpoints d root
      let rom ← Action.ofExcept (readRom d root)
      pure ⟨machine, display, keymap, breakpoints, rom⟩) := by
  unfold rootOf at mapping
  rw [ofDocument, mapping]

theorem ofDocument_of_no_mapping (no_mapping : ∀ root, rootOf d ≠ .map root) :
    ofDocument d = Action.fail .rootNotMapping := by
  unfold rootOf at no_mapping
  unfold ofDocument
  generalize (if d.root.isEmpty then .map [] else d.resolve d.root) = value at no_mapping
  cases value with
  | map entries => exact (no_mapping entries rfl).elim
  | _ => rfl

/-- With a fault that is not of values the breakpoints of a mapping fail, after everything before
them has answered. -/
theorem ofDocument_eq_error_iff_of_mapping {fault : Fault} (outside : ¬ fault.OfValue)
    (mapping : rootOf d = .map root) :
    (ofDocument d ()).result = .error fault ↔
      Answers (reportUnknown d "" rootKeys root) ∧ Answers (readMachine d root) ∧
        Answers (readDisplay d root) ∧ Answers (readKeymap d root) ∧
        (readBreakpoints d root ()).result = .error fault := by
  rw [ofDocument_of_mapping mapping]
  rw [(onlyFaults_reportUnknown d _ _ _).bind_eq_error_iff outside]
  constructor
  · rintro ⟨_, keys, failed⟩
    obtain ⟨machine, machine_read, failed⟩ :=
      ((onlyFaults_readMachine d root).bind_eq_error_iff outside).mp failed
    obtain ⟨display, display_read, failed⟩ :=
      ((onlyFaults_readDisplay d root).bind_eq_error_iff outside).mp failed
    obtain ⟨keymap, keymap_read, failed⟩ :=
      ((onlyFaults_readKeymap d root).bind_eq_error_iff outside).mp failed
    refine ⟨⟨_, keys⟩, ⟨machine, machine_read⟩, ⟨display, display_read⟩, ⟨keymap, keymap_read⟩, ?_⟩
    rcases Action.bind_eq_error_iff.mp failed with at_breakpoints | ⟨breakpoints, _, later⟩
    · exact at_breakpoints
    · have rom_inside : Action.OnlyFaults Fault.OfValue
          (Action.ofExcept (readRom d root) : Reading (Option String)) :=
        .ofExcept (onlyFaults_readRom d root)
      exact (outside (rom_inside.bind (fun _ => .pure _) _ fault later)).elim
  · rintro ⟨⟨_, keys⟩, ⟨machine, machine_read⟩, ⟨display, display_read⟩, ⟨keymap, keymap_read⟩,
      failed⟩
    refine ⟨_, keys, ?_⟩
    refine ((onlyFaults_readMachine d root).bind_eq_error_iff outside).mpr
      ⟨machine, machine_read, ?_⟩
    refine ((onlyFaults_readDisplay d root).bind_eq_error_iff outside).mpr
      ⟨display, display_read, ?_⟩
    refine ((onlyFaults_readKeymap d root).bind_eq_error_iff outside).mpr
      ⟨keymap, keymap_read, ?_⟩
    exact Action.bind_eq_error_iff.mpr (.inl failed)

/-- Which documents are refused by a fault that is not of values. -/
theorem ofDocument_eq_error_iff {fault : Fault} (outside : ¬ fault.OfValue) :
    (ofDocument d ()).result = .error fault ↔
      fault = .noElements ∧ ∃ root, FailsAtBreakpoints d root := by
  by_cases mapping : ∃ root, rootOf d = .map root
  · obtain ⟨root, mapping⟩ := mapping
    rw [ofDocument_eq_error_iff_of_mapping outside mapping, readBreakpoints_eq_error_iff outside]
    constructor
    · rintro ⟨keys, machine, display, keymap, same, bare⟩
      exact ⟨same, root, mapping, keys, machine, display, keymap, bare⟩
    · rintro ⟨same, other, fails⟩
      obtain rfl : other = root := Value.map.inj (fails.mapping.symm.trans mapping)
      exact ⟨fails.keys, fails.machine, fails.display, fails.keymap, same, fails.bare⟩
  · rw [ofDocument_of_no_mapping fun root same => mapping ⟨root, same⟩]
    constructor
    · rintro ⟨⟩
      exact (outside rfl).elim
    · rintro ⟨_, root, fails⟩
      exact (mapping ⟨root, fails.mapping⟩).elim

/-- A document is read as a configuration, or refused by a fault of values. -/
def ReadOrRefused (d : Document) : Prop :=
  (∃ config, (ofDocument d ()).result = .ok config) ∨
    ∃ fault, (ofDocument d ()).result = .error fault ∧ fault.family = .value

/-- **A document is read, or refused by a fault of values, unless its breakpoints are reached and
have no elements.** -/
theorem read_or_refused_iff (d : Document) :
    ReadOrRefused d ↔ ¬ ∃ root, FailsAtBreakpoints d root := by
  constructor
  · rintro ended ⟨root, fails⟩
    have outside : ¬ Fault.OfValue .noElements := nofun
    have failed := (ofDocument_eq_error_iff outside).mpr ⟨rfl, root, fails⟩
    rcases ended with ⟨config, read⟩ | ⟨fault, refused, of_value⟩
    · rw [read] at failed
      cases failed
    · rw [refused] at failed
      cases failed
      exact outside of_value
  · intro not_reached
    cases ended : (ofDocument d ()).result with
    | ok config => exact .inl ⟨config, ended⟩
    | error fault =>
        by_cases of_value : fault.OfValue
        · exact .inr ⟨fault, ended, of_value⟩
        · exact (not_reached ((ofDocument_eq_error_iff of_value).mp ended).2).elim

/-- A configuration that has a number in the place of its breakpoints. -/
def numberForBreakpoints : Document :=
  ⟨.map [(.text "debug", .map [(.text "breakpoints", .int 5)])], #[]⟩

/-- **A number in the place of the breakpoints is refused by another fault.** -/
theorem number_for_breakpoints_escapes :
    (ofDocument numberForBreakpoints ()).result = .error .noElements ∧
      ¬ ReadOrRefused numberForBreakpoints := by
  have failed : (ofDocument numberForBreakpoints ()).result = .error .noElements := by rfl
  refine ⟨failed, ?_⟩
  rintro (⟨config, read⟩ | ⟨fault, refused, of_value⟩)
  · rw [read] at failed
    cases failed
  · rw [refused] at failed
    cases failed
    cases of_value

end SystemConfig

end Chip8
