import Chip8.Proofs.HeldKeys
import Chip8.Proofs.ReadingFaults

/-!
# What an accepted configuration is like

A document that is accepted has passed every test on the way: numbers that have to be positive are,
key numbers are those of keys, and names of host keys were single characters when they were read.
What is left out stands for the standard choices, which pass the same tests.

Each part of a document is read by a computation that ensures something of its answer, and a
sequence ensures what its last part does, from what the parts before it ensured
(`Action.Ensures.bind`).  The host keys are put over a table, entry by entry, and the table is
looked at through the names that it has (`names_assign`).
-/

namespace Chip8

set_option autoImplicit false

/-! ## What a computation ensures -/

/-- Whatever a computation answers has a property. -/
def Ensures {α : Type} (property : α → Prop) (computed : Except Fault α) : Prop :=
  ∀ answer, computed = .ok answer → property answer

namespace Ensures

variable {α : Type} {property : α → Prop}

theorem ok {answer : α} (holds : property answer) : Ensures property (.ok answer) := by
  rintro _ ⟨⟩
  exact holds

theorem error (fault : Fault) : Ensures property (.error fault : Except Fault α) := nofun

end Ensures

namespace Action

variable {σ α β : Type} {property : α → Prop} {final : β → Prop}

/-- Whatever an action answers has a property. -/
def Ensures (property : α → Prop) (action : Action σ α) : Prop :=
  ∀ s, Chip8.Ensures property (action s).result

namespace Ensures

theorem pure {answer : α} (holds : property answer) :
    Ensures property (pure answer : Action σ α) := fun _ => .ok holds

theorem fail (fault : Fault) : Ensures property (fail fault : Action σ α) := fun _ => .error fault

theorem ofExcept {computed : Except Fault α} (ensured : Chip8.Ensures property computed) :
    Ensures property (ofExcept computed : Action σ α) := fun _ => ensured

/-- A sequence ensures what its second part ensures after any answer that the first can give. -/
theorem bind {first : Action σ α} {next : α → Action σ β} (ensured : Ensures property first)
    (carried : ∀ answer, property answer → Ensures final (next answer)) :
    Ensures final (first >>= next) := by
  intro s
  rcases outcome : first s with ⟨middle, result, events⟩
  cases result with
  | error fault =>
      rw [bind_of_error outcome]
      exact .error fault
  | ok answer =>
      have holds : property answer := ensured s answer (by rw [outcome])
      rw [bind_of_events outcome]
      exact carried answer holds middle

/-- What a part answers does not matter. -/
theorem after {first : Action σ α} {next : α → Action σ β}
    (carried : ∀ answer, Ensures final (next answer)) : Ensures final (first >>= next) := by
  have anything : Ensures (fun _ => True) first := fun _ _ _ => trivial
  exact anything.bind fun answer _ => carried answer

end Ensures

end Action

/-! ## Tables by name -/

section Tables

variable {α β : Type} [BEq α] [LawfulBEq α]

/-- A name that is put into a table is one of its names, and the others stay. -/
theorem mem_names_assign {name other : α} {value : β} {entries : List (α × β)} :
    other ∈ (assign name value entries).map Prod.fst ↔
      other = name ∨ other ∈ entries.map Prod.fst := by
  induction entries with
  | nil => simp [assign]
  | cons entry rest ih =>
      rw [assign]
      split
      next same =>
        obtain rfl : entry.1 = name := eq_of_beq same
        rw [List.map_cons, List.map_cons, List.mem_cons]
        exact or_self_left.symm
      next =>
        rw [List.map_cons, List.map_cons, List.mem_cons, List.mem_cons, ih]
        exact or_left_comm

/-- Putting a value under a name keeps the names distinct. -/
theorem nodup_names_assign {name : α} {value : β} {entries : List (α × β)}
    (distinct : (entries.map Prod.fst).Nodup) :
    ((assign name value entries).map Prod.fst).Nodup := by
  induction entries with
  | nil => simp [assign]
  | cons entry rest ih =>
      rw [List.map_cons, List.nodup_cons] at distinct
      rw [assign]
      split
      next => exact List.nodup_cons.mpr distinct
      next different =>
        refine List.nodup_cons.mpr ⟨fun inside => ?_, ih distinct.2⟩
        rcases mem_names_assign.mp inside with same | further
        · exact different (beq_iff_eq.mpr same)
        · exact distinct.1 further

/-- What a table holds after a value was put under a name. -/
theorem mem_assign {name : α} {value : β} {entries : List (α × β)} {entry : α × β}
    (inside : entry ∈ assign name value entries) : entry = (name, value) ∨ entry ∈ entries := by
  induction entries with
  | nil => exact .inl (List.mem_singleton.mp inside)
  | cons first rest ih =>
      rw [assign] at inside
      split at inside
      next same =>
        rcases List.mem_cons.mp inside with here | further
        · exact .inl (here.trans (by rw [eq_of_beq same]))
        · exact .inr (List.mem_cons_of_mem _ further)
      next =>
        rcases List.mem_cons.mp inside with here | further
        · exact .inr (here ▸ List.mem_cons_self)
        · exact (ih further).imp_right (List.mem_cons_of_mem _)

theorem lookup_assign (name other : α) (value : β) (entries : List (α × β)) :
    (assign name value entries).lookup other =
      if other == name then some value else entries.lookup other := by
  induction entries with
  | nil =>
      rw [assign, List.lookup_cons]
      cases other == name <;> rfl
  | cons entry rest ih =>
      rw [assign]
      split
      next same =>
        obtain rfl : entry.1 = name := eq_of_beq same
        rw [List.lookup_cons, List.lookup_cons]
        split <;> simp_all
      next different =>
        rw [List.lookup_cons, List.lookup_cons, ih]
        split <;> simp_all

end Tables

/-! ## The numbers -/

/-- The numbers about a machine are positive. -/
structure MachineConfig.Sound (config : MachineConfig) : Prop where
  cyclesPerSecond : 0 < config.cyclesPerSecond
  frameRate : 0 < config.frameRate
  stackDepth : 0 < config.stackDepth

namespace SystemConfig

variable (d : Document)

theorem ensures_positive (name : String) (value : Value) :
    Ensures (0 < ·) (positive d name value) := by
  unfold positive
  split
  next => exact .error _
  next n _ =>
    split
    next above => exact .ok (Int.lt_toNat.mpr above)
    next =>
      split
      · exact .error _
      · exact .error _

theorem ensures_readMachine (root : Entries) :
    Action.Ensures MachineConfig.Sound (readMachine d root) := by
  unfold readMachine
  refine .after fun _ => ?_
  refine .after fun _ => ?_
  refine .bind (.ofExcept (ensures_positive d _ _)) fun _ cyclesPerSecond => ?_
  refine .bind (.ofExcept (ensures_positive d _ _)) fun _ frameRate => ?_
  refine .bind (.ofExcept (ensures_positive d _ _)) fun _ stackDepth => ?_
  exact .after fun _ => .pure ⟨cyclesPerSecond, frameRate, stackDepth⟩

theorem ensures_readDisplay (root : Entries) :
    Action.Ensures (fun display => 0 < display.scale) (readDisplay d root) := by
  unfold readDisplay
  refine .after fun _ => ?_
  refine .bind (.ofExcept (ensures_positive d _ _)) fun _ scale => ?_
  exact .after fun _ => .after fun _ => .pure scale

/-! ## The host keys -/

/-- A text is the name that an entry of the host keys gives: a single character in lower case. -/
def NameOf (key : Value) (name : String) : Prop :=
  ∃ c, d.written key = .ok (String.singleton c) ∧ name = Text.lower (String.singleton c)

theorem exists_singleton_of_length {text : String} (single : text.length = 1) :
    ∃ c, text = String.singleton c := by
  obtain ⟨c, only⟩ := List.length_eq_one_iff.mp (String.length_toList.trans single)
  exact ⟨c, String.toList_inj.mp (only.trans (String.toList_singleton c).symm)⟩

/-- A value whose text has one character is written as that character. -/
theorem exists_singleton_of_writtenLength {value : Value} {character : String}
    (written : d.written value = .ok character) (single : d.writtenLength value = .ok 1) :
    ∃ c, character = String.singleton c := by
  have of_text (same : (d.written value).map String.length = .ok 1) :
      ∃ c, character = String.singleton c := by
    rw [written] at same
    exact exists_singleton_of_length (Except.ok.inj same)
  cases value with
  | symbols text =>
      obtain ⟨symbol, rfl⟩ := List.length_eq_one_iff.mp (Except.ok.inj single)
      cases symbol with
      | char c => exact ⟨c, (Except.ok.inj written).symm⟩
      | half code => exact ⟨Text.Symbol.replacement, (Except.ok.inj written).symm⟩
  | _ => exact of_text single

theorem ensures_readKey (key value : Value) :
    Ensures (fun read => NameOf d key read.1 ∧ Keypad.IsKey read.2) (readKey d key value) := by
  unfold readKey
  split
  next => exact .error _
  next => exact .error _
  next character length written counted =>
    split
    next single =>
      split
      next => exact .error _
      next number _ =>
        split
        next inside =>
          obtain ⟨c, rfl⟩ := exists_singleton_of_writtenLength d written (single ▸ counted)
          exact .ok ⟨⟨c, written, rfl⟩, inside.1, Int.lt_add_one_of_le inside.2⟩
        next =>
          split
          · exact .error _
          · exact .error _
    next => exact .error _

/-- What host keys are like that were put over others. -/
structure Overlays (d : Document) (keymap : Keymap) (entries : Entries) (result : Keymap) :
    Prop where
  mem_names_iff : ∀ name, name ∈ result.map Prod.fst ↔
    name ∈ keymap.map Prod.fst ∨ ∃ entry ∈ entries, NameOf d entry.1 name
  names : (keymap.map Prod.fst).Nodup → (result.map Prod.fst).Nodup
  keys : (∀ entry ∈ keymap, Keypad.IsKey entry.2) → ∀ entry ∈ result, Keypad.IsKey entry.2

/-- **Every entry is put over the host keys under its own name.** -/
theorem ensures_overlayKeys (entries : Entries) (keymap : Keymap) :
    Ensures (Overlays d keymap entries) (overlayKeys d keymap entries) := by
  induction entries generalizing keymap with
  | nil =>
      refine .ok ⟨fun name => ?_, id, id⟩
      simp only [List.not_mem_nil, false_and, exists_false, or_false]
  | cons entry rest ih =>
      unfold overlayKeys
      split
      next name number read =>
        obtain ⟨named, isKey⟩ := ensures_readKey d entry.1 entry.2 _ read
        intro result done
        have overlays := ih (assign name number keymap) result done
        refine ⟨fun other => ?_, fun distinct => ?_, fun all_keys => ?_⟩
        · have own_name : NameOf d entry.1 other ↔ other = name := by
            obtain ⟨c, written, rfl⟩ := named
            constructor
            · rintro ⟨c', written', rfl⟩
              rw [Except.ok.inj (written'.symm.trans written)]
            · rintro rfl
              exact ⟨c, written, rfl⟩
          rw [overlays.mem_names_iff, mem_names_assign, List.exists_mem_cons_iff, own_name,
            or_assoc]
          exact or_left_comm
        · exact overlays.names (nodup_names_assign distinct)
        · refine overlays.keys fun other inside => ?_
          rcases mem_assign inside with rfl | earlier
          · exact isKey
          · exact all_keys other earlier
      next => exact .error _

theorem nodup_names_defaultKeymap : (defaultKeymap.map Prod.fst).Nodup := by decide

theorem isKey_of_mem_defaultKeymap : ∀ entry ∈ defaultKeymap, Keypad.IsKey entry.2 := by decide

/-- A document names a key of the host. -/
def NamesKey (d : Document) (c : Char) : Prop :=
  ∃ root entries, rootOf d = .map root ∧ sectionOf d root "keymap" = .map entries ∧
    ∃ entry ∈ entries, d.written entry.1 = .ok (String.singleton c)

/-- The host keys of an accepted document. -/
structure KeymapOf (d : Document) (keymap : Keymap) : Prop where
  mem_names_iff : ∀ name, name ∈ keymap.map Prod.fst ↔
    name ∈ defaultKeymap.map Prod.fst ∨ ∃ c, NamesKey d c ∧ name = Text.lower (String.singleton c)
  names : (keymap.map Prod.fst).Nodup
  keys : ∀ entry ∈ keymap, Keypad.IsKey entry.2

theorem ensures_readKeymap {d : Document} {root : Entries} (mapping : rootOf d = .map root) :
    Action.Ensures (KeymapOf d) (readKeymap d root) := by
  unfold readKeymap
  split
  next entries opened =>
    refine .ofExcept fun keymap done => ?_
    have overlays := ensures_overlayKeys d entries defaultKeymap keymap done
    refine ⟨fun name => ?_, overlays.names nodup_names_defaultKeymap,
      overlays.keys isKey_of_mem_defaultKeymap⟩
    rw [overlays.mem_names_iff]
    refine or_congr_right ⟨?_, ?_⟩
    · rintro ⟨entry, inside, c, written, named⟩
      exact ⟨c, ⟨root, entries, mapping, opened, entry, inside, written⟩, named⟩
    · rintro ⟨c, ⟨root', entries', mapping', opened', entry, inside, written⟩, named⟩
      obtain rfl := Value.map.inj (mapping.symm.trans mapping')
      obtain rfl := Value.map.inj (opened.symm.trans opened')
      exact ⟨entry, inside, c, written, named⟩
  next => exact .fail _

/-! ## The whole document -/

/-- What an accepted configuration is like. -/
structure Accepts (d : Document) (config : SystemConfig) : Prop where
  machine : config.machine.Sound
  scale : 0 < config.display.scale
  keymap : KeymapOf d config.keymap

/-- **Every configuration that is accepted has passed the tests.** -/
theorem ensures_ofDocument : Action.Ensures (Accepts d) (ofDocument d) := by
  by_cases mapping : ∃ root, rootOf d = .map root
  · obtain ⟨root, mapping⟩ := mapping
    rw [ofDocument_of_mapping mapping]
    refine .after fun _ => ?_
    refine .bind (ensures_readMachine d root) fun _ machine => ?_
    refine .bind (ensures_readDisplay d root) fun _ scale => ?_
    refine .bind (ensures_readKeymap mapping) fun _ keymap => ?_
    exact .after fun _ => .after fun _ => .pure ⟨machine, scale, keymap⟩
  · rw [ofDocument_of_no_mapping fun root same => mapping ⟨root, same⟩]
    exact .fail _

end SystemConfig

end Chip8
