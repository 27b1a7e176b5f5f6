import Chip8.Proofs.Renumbering
import Chip8.Proofs.Sections

/-!
# Revised configurations

A document can be revised in ways that a reader of configurations should not mind: keys that mean
nothing are inserted in the root and in its sections, integers are spelled in another way, and
endless collections are kept under other numbers (`Revision`).  A section that was left out, or that
was an empty value, may be opened for keys that are inserted in it.

What is read stays the same, and what is reported grows by one warning for each inserted key
(`Revision.adds`).  Each part of a configuration is looked at by itself: the warnings come from
the keys of its section, and the choices are made from what is found under the known ones.
-/

namespace Chip8

set_option autoImplicit false

namespace SystemConfig

open Value (Renumbered lookup)
open Document (Renumbers)

/-! ## Readings that report more -/

/-- A reading gives what another one gives, and reports what that one reports and warnings besides:
all of the given ones if there is an answer, and never another. -/
structure Adds {α : Type} (warnings : List Event) (reading reading' : Reading α) : Prop where
  result : (reading' ()).result = (reading ()).result
  events : (reading ()).events.Sublist (reading' ()).events
  reported : ∃ reported : List Event, reported.Sublist warnings ∧
    (reading' ()).events.Perm (reported ++ (reading ()).events) ∧
    (Answers reading → reported = warnings)

namespace Adds

variable {α β : Type} {warnings more : List Event} {reading reading' : Reading α}

theorem of_eq (same : reading' = reading) : Adds [] reading reading' := by
  rw [same]
  exact ⟨rfl, .refl _, [], .refl _, .refl _, fun _ => rfl⟩

/-- A warning goes before everything else. -/
theorem report (event : Event) (adds : Adds warnings reading reading') :
    Adds (event :: warnings) reading (Action.report event >>= fun _ => reading') := by
  obtain ⟨reported, among, together, complete⟩ := adds.reported
  refine ⟨adds.result, adds.events.cons event, event :: reported, among.cons_cons event,
    together.cons event, fun answers => ?_⟩
  rw [complete answers]

theorem bind {next next' : α → Reading β} (first : Adds warnings reading reading')
    (later : ∀ answer, Adds more (next answer) (next' answer)) :
    Adds (warnings ++ more) (reading >>= next) (reading' >>= next') := by
  obtain ⟨result, events, reported, among, together, complete⟩ := first
  rcases ran : reading () with ⟨⟨⟩, given, early⟩
  rcases ran' : reading' () with ⟨⟨⟩, given', early'⟩
  rw [ran, ran'] at result events together
  obtain rfl : given' = given := result
  cases given' with
  | error fault =>
      have ended : (reading >>= next) () = ⟨(), .error fault, early⟩ := Action.bind_of_error ran
      refine ⟨?_, ?_, reported, among.trans (List.sublist_append_left _ _), ?_, ?_⟩
      · rw [ended, Action.bind_of_error ran']
      · rw [ended, Action.bind_of_error ran']
        exact events
      · rw [ended, Action.bind_of_error ran']
        exact together
      · rintro ⟨answer, answered⟩
        rw [ended] at answered
        cases answered
  | ok answer =>
      have continued : (reading >>= next) () =
          ⟨(next answer ()).state, (next answer ()).result, early ++ (next answer ()).events⟩ :=
        Action.bind_of_events ran
      obtain ⟨result_later, events_later, reported_later, among_later, together_later,
        complete_later⟩ := later answer
      refine ⟨?_, ?_, reported ++ reported_later, among.append among_later, ?_, ?_⟩
      · rw [continued, Action.bind_of_events ran']
        exact result_later
      · rw [continued, Action.bind_of_events ran']
        exact events.append events_later
      · rw [continued, Action.bind_of_events ran']
        -- what is reported in the second part moves before what the first one reported anyway
        refine (together.append together_later).trans ?_
        rw [List.append_assoc, List.append_assoc]
        refine List.Perm.append_left reported ?_
        rw [← List.append_assoc, ← List.append_assoc]
        exact List.perm_append_comm.append_right _
      · rintro ⟨last, answered⟩
        rw [continued] at answered
        rw [complete ⟨answer, by rw [ran]⟩, complete_later ⟨last, answered⟩]

/-- Without warnings besides, everything stays the same. -/
theorem apply_eq (adds : Adds [] reading reading') : reading' () = reading () := by
  obtain ⟨reported, among, together, _⟩ := adds.reported
  rw [List.sublist_nil.mp among, List.nil_append] at together
  have events := adds.events.eq_of_length together.length_eq.symm
  have result := adds.result
  generalize reading () = outcome, reading' () = outcome' at events result ⊢
  cases outcome
  cases outcome'
  cases events
  cases result
  rfl

end Adds

/-! ## Inserted keys -/

/-- A text that is no known key, with what it is called. -/
inductive IsUnknown (known : List String) : Value → String → Prop where
  | text {name : String} : name ∉ known → IsUnknown known (.text name) name
  | symbols (written : List Text.Symbol) :
      IsUnknown known (.symbols written) (String.ofList (Text.Symbol.joined written))

/-- Some entries become others, and unknown keys are inserted among them, at any places and with any
values.  The values under known keys are related, each as it should be under its key, and what
stands under other keys may be anything.  The key of a section may be new, and what stands in the
section is left open here. -/
inductive Inserted (related : Nat → Nat → Prop) (known sections : List String)
    (kept : String → Value → Value → Prop) : Entries → Entries → List String → Prop where
  | done : Inserted related known sections kept [] [] []
  | keep {key key' value value' : Value} {entries entries' : Entries} {names : List String} :
      Renumbered related key key' →
      (∀ name ∈ known, name ∉ sections → key = .text name → kept name value value') →
      Inserted related known sections kept entries entries' names →
      Inserted related known sections kept ((key, value) :: entries)
        ((key', value') :: entries') names
  | newSection {name : String} {value : Value} {entries entries' : Entries} {names : List String} :
      name ∈ sections → Inserted related known sections kept entries entries' names →
      Inserted related known sections kept entries ((.text name, value) :: entries') names
  | insert {key value : Value} {name : String} {entries entries' : Entries} {names : List String} :
      IsUnknown known key name → Inserted related known sections kept entries entries' names →
      Inserted related known sections kept entries ((key, value) :: entries') (name :: names)

/-- The warnings about unknown keys. -/
def warningsOf (path : String) (names : List String) : List Event :=
  names.map fun name => .unknownKey (path ++ name)

variable {d d' : Document} {related : Nat → Nat → Prop} {known sections names : List String}
  {kept : String → Value → Value → Prop} {key key' : Value} {name : String}
  {entries entries' : Entries}

theorem isKnown_renumbered (alike : Renumbered related key key') :
    isKnown known key' = isKnown known key := by
  cases alike <;> rfl

theorem IsUnknown.isKnown (is_unknown : IsUnknown known key name) : isKnown known key = false := by
  cases is_unknown with
  | text absent => exact Bool.eq_false_iff.mpr (mt List.contains_iff_mem.mp absent)
  | symbols => rfl

theorem IsUnknown.written (is_unknown : IsUnknown known key name) (d : Document) :
    d.written key = .ok name := by
  cases is_unknown <;> rfl

theorem IsUnknown.ne (is_unknown : IsUnknown known key name) {other : String}
    (is_known : other ∈ known) : key ≠ .text other := by
  cases is_unknown with
  | text absent =>
      rintro ⟨⟩
      exact absent is_known
  | symbols => nofun

namespace Inserted

/-- The value under a text becomes what it should be there. -/
theorem keepText {value value' : Value} (holds : name ∉ sections → kept name value value')
    (rest : Inserted related known sections kept entries entries' names) :
    Inserted related known sections kept ((.text name, value) :: entries)
      ((.text name, value') :: entries') names := by
  refine .keep (.atom trivial) ?_ rest
  rintro other _ no_section ⟨⟩
  exact holds no_section

/-- What is found under a known key becomes what it should be under this key. -/
theorem lookup (inserted : Inserted related known sections kept entries entries' names)
    (is_known : name ∈ known) (no_section : name ∉ sections) :
    Option.Rel (kept name) (Value.lookup entries name) (Value.lookup entries' name) := by
  have passed {key : Value} (apart : key ≠ .text name) (value : Value) (rest : Entries) :
      Value.lookup ((key, value) :: rest) name = Value.lookup rest name := by
    rw [Value.lookup_cons, if_neg fun same => apart (Value.sameKey_text_iff.mp same)]
  have found (value : Value) (rest : Entries) :
      Value.lookup ((.text name, value) :: rest) name = some value := by
    rw [Value.lookup_cons, if_pos (Value.sameKey_text_iff.mpr rfl)]
  induction inserted with
  | done => exact .none
  | @keep key key' _ _ _ _ _ alike holds _ ih =>
      have same_key : key' = .text name ↔ key = .text name := alike.eq_iff trivial
      by_cases here : key = .text name
      · rw [same_key.mpr here, here, found, found]
        exact .some (holds name is_known no_section here)
      · rw [passed here, passed (mt same_key.mp here)]
        exact ih
  | @newSection other _ _ _ _ is_section _ ih =>
      have apart : Value.text other ≠ .text name := by
        rintro ⟨⟩
        exact no_section is_section
      rw [passed apart]
      exact ih
  | insert is_unknown _ ih =>
      rw [passed (is_unknown.ne is_known)]
      exact ih

/-- Each inserted key is reported, and everything else as before. -/
theorem reportUnknown (inserted : Inserted related known sections kept entries entries' names)
    (renumbers : Renumbers d d' related) (are_known : sections ⊆ known) (path : String) :
    Adds (warningsOf path names) (reportUnknown d path known entries)
      (SystemConfig.reportUnknown d' path known entries') := by
  induction inserted with
  | done => exact .of_eq rfl
  | keep alike _ _ ih =>
      rw [SystemConfig.reportUnknown, SystemConfig.reportUnknown, isKnown_renumbered alike,
        renumbers.written alike]
      split
      · exact ih
      · exact .bind (.of_eq rfl) fun _ => .bind (.of_eq rfl) fun _ => ih
  | @newSection other _ _ _ _ is_section _ ih =>
      have quiet : isKnown known (.text other) = true :=
        List.contains_iff_mem.mpr (are_known is_section)
      rw [SystemConfig.reportUnknown, if_pos quiet]
      exact ih
  | insert is_unknown _ ih =>
      rw [SystemConfig.reportUnknown, if_neg (Bool.eq_false_iff.mp is_unknown.isKnown),
        is_unknown.written]
      exact ih.report _

end Inserted

/-! ## Revised sections -/

/-- A section that is a mapping becomes one with other content; what is no mapping stays none. -/
inductive SectionRevised (content : Entries → Entries → List String → Prop) :
    Value → Value → List String → Prop where
  | opened {entries entries' : Entries} {names : List String} : content entries entries' names →
      SectionRevised content (.map entries) (.map entries') names
  | unopened {value value' : Value} : (∀ entries, value ≠ .map entries) →
      (∀ entries, value' ≠ .map entries) → SectionRevised content value value' []

theorem readSection_of_unopened {α : Type} {root : Entries} {next : Entries → Reading α}
    (unopened : ∀ entries, sectionOf d root name ≠ .map entries) :
    readSection d root name known next = Action.fail (.sectionNotMapping name) := by
  unfold readSection
  split
  next entries opened => exact (unopened entries opened).elim
  next => rfl

/-- A section with inserted keys is read as before if nothing else in it is read otherwise. -/
theorem SectionRevised.adds {α : Type} {root root' : Entries} {next next' : Entries → Reading α}
    (revised : SectionRevised (Inserted related known [] kept) (sectionOf d root name)
      (sectionOf d' root' name) names) (renumbers : Renumbers d d' related)
    (same : ∀ entries entries', Inserted related known [] kept entries entries' names →
      next' entries' = next entries) :
    Adds (warningsOf (name ++ ".") names) (readSection d root name known next)
      (readSection d' root' name known next') := by
  generalize before : sectionOf d root name = value, after : sectionOf d' root' name = value'
    at revised
  cases revised with
  | opened inserted =>
      rw [readSection, before, readSection, after]
      have adds := (inserted.reportUnknown renumbers (List.nil_subset _) (name ++ ".")).bind
        fun _ => Adds.of_eq (same _ _ inserted)
      rw [List.append_nil] at adds
      exact adds
  | unopened none none' =>
      rw [readSection_of_unopened fun entries => before ▸ none entries,
        readSection_of_unopened fun entries => after ▸ none' entries]
      exact .of_eq rfl

/-! ## Readers of renumbered values -/

section Readers

variable {value value' : Value}

theorem AlikeIntegers.of_renumbered (renumbers : Renumbers d d' related)
    (alike : Renumbered related value value') : AlikeIntegers d d' value value' where
  integer := by
    have written := renumbers.written alike
    cases alike with
    | @atom value _ =>
        cases value with
        | int | text | symbols => rfl
        | _ => simp only [SystemConfig.integer, written]
    | _ => simp only [SystemConfig.integer, written]
  null_iff := alike.eq_iff trivial

theorem readTimerMode_renumbered (renumbers : Renumbers d d' related)
    (alike : Renumbered related value value') :
    readTimerMode d' value' = readTimerMode d value := by
  have written := renumbers.written alike
  cases alike with
  | atom =>
      unfold readTimerMode
      split
      · rfl
      · rfl
      · rw [written]
  | _ => simp only [readTimerMode, written]

theorem integers_congr {items items' : List Value}
    (alike : List.Forall₂ (AlikeIntegers d d') items items') :
    integers d' items' = integers d items := by
  induction alike with
  | nil => rfl
  | cons first _ ih => rw [integers, integers, first.integer, ih]

theorem integersIn_renumbered (renumbers : Renumbers d d' related)
    (alike : Renumbered related value value') : integersIn d' value' = integersIn d value := by
  rw [integersIn, integersIn, alike.isEmpty]
  rcases (renumbers.resolve alike).elements with ⟨items, items', have_items, have_items', all⟩ |
    ⟨bare, bare'⟩
  · rw [have_items, have_items']
    have same := integers_congr (all.imp fun _ _ => AlikeIntegers.of_renumbered renumbers)
    split
    · rfl
    · exact congrArg Action.ofExcept same
  · rw [bare, bare']
    rfl

/-- A list is read item by item, also if it is empty. -/
theorem integersIn_of_list {items : List Value} (is_list : d.resolve value = .list items) :
    integersIn d value = Action.ofExcept (integers d items) := by
  rw [integersIn, is_list]
  split
  next empty =>
    cases value with
    | list =>
        cases is_list
        rw [List.isEmpty_iff.mp empty]
        rfl
    | endless => cases empty
    | _ => cases is_list
  next => rfl

end Readers

/-! ## Revised documents -/

/-- The sections in which keys may be inserted. -/
def sectionKeys : List String := ["machine", "display", "debug"]

/-- The keys under which one integer stands. -/
def numberKeys : List String := "scale" :: machineNumbers

/-- A value under a key: spelled in another way if an integer stands there, else the same. -/
def ValueRevised (related : Nat → Nat → Prop) (spelled : Value → Value → Prop) (name : String)
    (value value' : Value) : Prop :=
  if name ∈ numberKeys then spelled value value' else Renumbered related value value'

/-- The breakpoints: the same value, or a list of integers in another spelling. -/
inductive PointsRevised (d d' : Document) (related : Nat → Nat → Prop)
    (spelled : Value → Value → Prop) : Value → Value → Prop where
  | same {value value' : Value} : Renumbered related value value' →
      PointsRevised d d' related spelled value value'
  | spelled {value value' : Value} {items items' : List Value} :
      d.resolve value = .list items → d'.resolve value' = .list items' →
      List.Forall₂ spelled items items' → PointsRevised d d' related spelled value value'

/-- The host keys: the same characters, with integers in another spelling. -/
def KeysRevised (related : Nat → Nat → Prop) (spelled : Value → Value → Prop)
    (entries entries' : Entries) : Prop :=
  List.Forall₂ (fun entry entry' => Renumbered related entry.1 entry'.1 ∧ spelled entry.2 entry'.2)
    entries entries'

/-- The names of inserted keys, by the place where they are. -/
structure Insertions where
  root : List String
  machine : List String
  display : List String
  debug : List String

/-- One warning for each inserted key. -/
def Insertions.warnings (inserted : Insertions) : List Event :=
  warningsOf "" inserted.root ++ warningsOf "machine." inserted.machine ++
    warningsOf "display." inserted.display ++ warningsOf "debug." inserted.debug

/-- One document is another one in which keys were inserted, and which is otherwise the same but for
the spelling of integers and the numbers of endless collections. -/
structure Revision (d d' : Document) (related : Nat → Nat → Prop)
    (spelled : Value → Value → Prop) (root root' : Entries) (inserted : Insertions) : Prop where
  mapping : rootOf d = .map root
  mapping' : rootOf d' = .map root'
  entries : Inserted related rootKeys sectionKeys
    (fun name value value' => name = "rom" → Renumbered related value value') root root'
    inserted.root
  machine : SectionRevised (Inserted related machineKeys [] (ValueRevised related spelled))
    (sectionOf d root "machine") (sectionOf d' root' "machine") inserted.machine
  display : SectionRevised (Inserted related displayKeys [] (ValueRevised related spelled))
    (sectionOf d root "display") (sectionOf d' root' "display") inserted.display
  keymap : SectionRevised (fun entries entries' _ => KeysRevised related spelled entries entries')
    (sectionOf d root "keymap") (sectionOf d' root' "keymap") []
  debug : SectionRevised (Inserted related debugKeys [] fun _ => PointsRevised d d' related spelled)
    (sectionOf d root "debug") (sectionOf d' root' "debug") inserted.debug

/-! ## What a revision does to the parts of a configuration -/

section Parts

variable {spelled : Value → Value → Prop} {root root' : Entries}

theorem machineOf_revised (renumbers : Renumbers d d' related)
    (spells : ∀ value value', spelled value value' → AlikeIntegers d d' value value')
    (revised : Inserted related machineKeys [] (ValueRevised related spelled)
      entries entries' names) :
    machineOf d' entries' = machineOf d entries := by
  refine machineOf_congr ⟨?_, fun key inside => ?_⟩
  · refine rel_imp (revised.lookup (by decide) (by decide)) fun value value' same => ?_
    exact readTimerMode_renumbered renumbers same
  · have is_known : key ∈ machineKeys := by
      revert key
      decide
    have is_number : key ∈ numberKeys := List.mem_cons_of_mem _ inside
    refine rel_imp (revised.lookup is_known List.not_mem_nil) fun value value' same => ?_
    rw [ValueRevised, if_pos is_number] at same
    exact spells value value' same

theorem displayOf_revised (renumbers : Renumbers d d' related)
    (spells : ∀ value value', spelled value value' → AlikeIntegers d d' value value')
    (revised : Inserted related displayKeys [] (ValueRevised related spelled)
      entries entries' names) :
    displayOf d' entries' = displayOf d entries := by
  refine displayOf_congr ⟨?_, fun key inside => ?_⟩
  · exact rel_imp (revised.lookup (by decide) (by decide)) fun value value' same =>
      spells value value' same
  · have is_known : key ∈ displayKeys := List.mem_cons_of_mem _ inside
    have no_number : key ∉ numberKeys := by
      revert key
      decide
    refine rel_imp (revised.lookup is_known List.not_mem_nil) fun value value' same => ?_
    rw [ValueRevised, if_neg no_number] at same
    exact renumbers.written same

theorem breakpointsOf_revised (renumbers : Renumbers d d' related)
    (spells : ∀ value value', spelled value value' → AlikeIntegers d d' value value')
    (revised : Inserted related debugKeys [] (fun _ => PointsRevised d d' related spelled)
      entries entries' names) :
    breakpointsOf d' entries' = breakpointsOf d entries := by
  refine breakpointsOf_congr (rel_imp (revised.lookup (by decide) (by decide)) ?_)
  rintro value value' (same | ⟨is_list, is_list', all⟩)
  · exact integersIn_renumbered renumbers same
  · rw [integersIn_of_list is_list, integersIn_of_list is_list',
      integers_congr (all.imp fun value value' => spells value value')]

theorem overlayKeys_revised (renumbers : Renumbers d d' related)
    (spells : ∀ value value', spelled value value' → AlikeIntegers d d' value value')
    (revised : KeysRevised related spelled entries entries') (keymap : Keymap) :
    overlayKeys d' keymap entries' = overlayKeys d keymap entries := by
  induction revised generalizing keymap with
  | nil => rfl
  | @cons entry entry' _ _ both _ ih =>
      have same : readKey d' entry'.1 entry'.2 = readKey d entry.1 entry.2 := by
        rw [readKey, readKey, renumbers.written both.1, renumbers.writtenLength both.1,
          (spells _ _ both.2).integer]
      simp only [overlayKeys, same, ih]

theorem readKeymap_revised (renumbers : Renumbers d d' related)
    (spells : ∀ value value', spelled value value' → AlikeIntegers d d' value value')
    (revised : SectionRevised
      (fun entries entries' _ => KeysRevised related spelled entries entries')
      (sectionOf d root "keymap") (sectionOf d' root' "keymap") names) :
    readKeymap d' root' = readKeymap d root := by
  rw [readKeymap, readKeymap]
  generalize sectionOf d root "keymap" = value, sectionOf d' root' "keymap" = value' at revised
  cases revised with
  | opened keys => exact congrArg Action.ofExcept (overlayKeys_revised renumbers spells keys _)
  | unopened none none' =>
      split
      next entries => exact (none' entries rfl).elim
      next => rfl

theorem readRom_revised (renumbers : Renumbers d d' related)
    (same : Option.Rel (Renumbered related) (Value.lookup root "rom") (Value.lookup root' "rom")) :
    readRom d' root' = readRom d root := by
  have chosen := valueOr_rel same (.atom trivial : Renumbered related .null .null)
  have null_iff : valueOr root' "rom" .null = .null ↔ valueOr root "rom" .null = .null :=
    chosen.eq_iff trivial
  unfold readRom
  split
  next null => rw [null_iff.mp null]
  next present =>
    rw [renumbers.written chosen]
    split
    next null => exact (present (null_iff.mpr null)).elim
    next => rfl

end Parts

/-- **A revised document is read as before, and each inserted key is reported.** -/
theorem Revision.adds {spelled : Value → Value → Prop} {root root' : Entries}
    {inserted : Insertions} (revision : Revision d d' related spelled root root' inserted)
    (renumbers : Renumbers d d' related)
    (spells : ∀ value value', spelled value value' → AlikeIntegers d d' value value') :
    Adds inserted.warnings (ofDocument d) (ofDocument d') := by
  have keys := revision.entries.reportUnknown renumbers (by decide) ""
  have machine : Adds (warningsOf "machine." inserted.machine) (readMachine d root)
      (readMachine d' root') := by
    rw [readMachine_eq, readMachine_eq]
    exact revision.machine.adds renumbers fun _ _ => machineOf_revised renumbers spells
  have display : Adds (warningsOf "display." inserted.display) (readDisplay d root)
      (readDisplay d' root') := by
    rw [readDisplay_eq, readDisplay_eq]
    exact revision.display.adds renumbers fun _ _ => displayOf_revised renumbers spells
  have keymap : readKeymap d' root' = readKeymap d root :=
    readKeymap_revised renumbers spells revision.keymap
  have debug : Adds (warningsOf "debug." inserted.debug) (readBreakpoints d root)
      (readBreakpoints d' root') := by
    rw [readBreakpoints_eq, readBreakpoints_eq]
    exact revision.debug.adds renumbers fun _ _ => breakpointsOf_revised renumbers spells
  have rom : readRom d' root' = readRom d root := by
    refine readRom_revised renumbers ?_
    exact rel_imp (revision.entries.lookup (by decide) (by decide)) fun _ _ same => same rfl
  -- the host keys and the program are read without any warnings of their own
  have in_order : inserted.warnings = warningsOf "" inserted.root ++
      (warningsOf "machine." inserted.machine ++ (warningsOf "display." inserted.display ++
        ([] ++ (warningsOf "debug." inserted.debug ++ [])))) := by
    simp [Insertions.warnings]
  rw [ofDocument_of_mapping revision.mapping, ofDocument_of_mapping revision.mapping', rom,
    in_order]
  exact keys.bind fun _ => machine.bind fun _ => display.bind fun _ =>
    (Adds.of_eq keymap).bind fun _ => debug.bind fun _ => .of_eq rfl

end SystemConfig

end Chip8
