import Chip8.Proofs.AcceptedConfigurations
import Chip8.Proofs.RegisterValue

/-!
# Host keys and their capital letters

The host reports a key by its capital letter.  So what a document says about host keys is looked at
twice: when it is read, a name has to be a single character, which is then kept in lower case; and
when it is handed to the host, the name that was kept has to be a single character, and so does its
upper case.  A table is usable if each of its entries is found under its capital letter.

The two looks agree on the letters of ASCII.  They do not agree on all characters: the lower case of
a character may be two characters, the upper case may be two as well, and two characters may have
one capital letter.  A document that names such a character is accepted, and then the host stops
with a fault, or one entry hides another (`accepted_and_unusable`).

So the table of an accepted document is usable if each character that the document names has a
single capital letter and no two entries with one capital letter stand for different keys, and only
then (`accepted_keymap_usable_iff`).
-/

namespace Chip8

set_option autoImplicit false

/-! ## Characters in lower and in upper case -/

namespace Text

/-- A character by itself is no end of a word. -/
theorem toList_lower_singleton (c : Char) : (lower (String.singleton c)).toList = lowerChar c := by
  have alone : lowerBetween [] c [] = lowerChar c := by
    have no_letter : meetsLetter [] = false := rfl
    rw [lowerBetween, no_letter, Bool.and_false, Bool.false_and, if_neg Bool.false_ne_true]
  rw [lower, String.toList_ofList, String.toList_singleton, lowerFrom, lowerFrom, alone,
    List.append_nil]

theorem toList_upper_of_single {text : String} {c : Char} (single : text.toList = [c]) :
    (upper text).toList = upperChar c := by
  rw [upper, String.toList_ofList, single, List.flatMap_singleton]

/-- A character has a single capital letter, which is found through its lower case. -/
def HasOneCapital (c : Char) : Prop :=
  ∃ small capital, lowerChar c = [small] ∧ upperChar small = [capital]

theorem lowerChar_of_ascii {c : Char} (ascii : c.toNat < 128) : lowerChar c = [c.toLower] :=
  if_pos ascii

theorem lower_singleton_of_ascii {c : Char} (ascii : c.toNat < 128) :
    lower (String.singleton c) = String.singleton c.toLower := by
  rw [← String.toList_inj, toList_lower_singleton, lowerChar_of_ascii ascii,
    String.toList_singleton]

theorem toNat_toLower_of_ascii {c : Char} (ascii : c.toNat < 128) : c.toLower.toNat < 128 :=
  forall_ascii (fun c => c.toLower.toNat < 128) (by decide +kernel) ascii

theorem upperChar_toLower_of_ascii {c : Char} (ascii : c.toNat < 128) :
    upperChar c.toLower = [c.toLower.toUpper] :=
  if_pos (toNat_toLower_of_ascii ascii)

theorem hasOneCapital_of_ascii {c : Char} (ascii : c.toNat < 128) : HasOneCapital c :=
  ⟨c.toLower, c.toLower.toUpper, lowerChar_of_ascii ascii, upperChar_toLower_of_ascii ascii⟩

theorem toList_upper_lower_of_ascii {c : Char} (ascii : c.toNat < 128) :
    (upper (lower (String.singleton c))).toList = [c.toLower.toUpper] := by
  rw [lower_singleton_of_ascii ascii, toList_upper_of_single (String.toList_singleton c.toLower),
    upperChar_toLower_of_ascii ascii]

/-- No two small letters of ASCII have one capital letter. -/
theorem lower_eq_of_upper_eq {c other : Char} (ascii : c.toNat < 128)
    (other_ascii : other.toNat < 128)
    (same : upper (lower (String.singleton c)) = upper (lower (String.singleton other))) :
    lower (String.singleton c) = lower (String.singleton other) := by
  have back {c : Char} (ascii : c.toNat < 128) : c.toLower.toUpper.toLower = c.toLower :=
    forall_ascii (fun c => c.toLower.toUpper.toLower = c.toLower) (by decide +kernel) ascii
  rw [← String.toList_inj, toList_upper_lower_of_ascii ascii,
    toList_upper_lower_of_ascii other_ascii] at same
  have one_letter : c.toLower = other.toLower := by
    rw [← back ascii, List.singleton_inj.mp same, back other_ascii]
  rw [lower_singleton_of_ascii ascii, lower_singleton_of_ascii other_ascii, one_letter]

end Text

/-! ## The codes of a table -/

namespace Keymap

variable {keymap : Keymap}

theorem code?_eq_ok_iff {character : String} {code : Nat} :
    code? character = .ok code ↔
      character.length = 1 ∧ ∃ capital, (Text.upper character).toList = [capital] ∧
        capital.toNat = code := by
  unfold code?
  split
  next single =>
    rw [and_iff_right single]
    split
    next capital letters =>
      rw [letters]
      constructor
      · rintro ⟨⟩
        exact ⟨capital, rfl, rfl⟩
      · rintro ⟨_, ⟨⟩, rfl⟩
        rfl
    next several =>
      refine iff_of_false nofun ?_
      rintro ⟨capital, letters, _⟩
      exact several capital letters
  next several => exact iff_of_false nofun fun has_code => several has_code.1

/-- A table is turned into codes if each of its characters has one. -/
theorem exists_go_iff (found : List (Nat × Int)) :
    (∃ table, codes.go found keymap = .ok table) ↔
      ∀ entry ∈ keymap, ∃ code, code? entry.1 = .ok code := by
  induction keymap generalizing found with
  | nil => exact iff_of_true ⟨found, rfl⟩ nofun
  | cons entry rest ih =>
      rw [List.forall_mem_cons, codes.go]
      split
      next code has_code =>
        rw [ih]
        exact (and_iff_right ⟨code, has_code⟩).symm
      next fault failed =>
        refine iff_of_false nofun ?_
        rintro ⟨⟨code, has_code⟩, _⟩
        rw [failed] at has_code
        cases has_code

/-- What is found under a code is the key of some entry with that code, if there is one. -/
theorem lookup_of_go {found table : List (Nat × Int)} (done : codes.go found keymap = .ok table)
    (code : Nat) :
    (∃ entry ∈ keymap, code? entry.1 = .ok code ∧ table.lookup code = some entry.2) ∨
      (∀ entry ∈ keymap, code? entry.1 ≠ .ok code) ∧ table.lookup code = found.lookup code := by
  induction keymap generalizing found with
  | nil =>
      cases done
      exact .inr ⟨nofun, rfl⟩
  | cons entry rest ih =>
      rw [codes.go] at done
      split at done
      next own has_code =>
        rcases ih done with ⟨later, inside, later_code, found_there⟩ | ⟨no_later, kept⟩
        · exact .inl ⟨later, List.mem_cons_of_mem _ inside, later_code, found_there⟩
        · rw [lookup_assign] at kept
          by_cases same : code = own
          · subst same
            rw [beq_self_eq_true, if_pos rfl] at kept
            exact .inl ⟨entry, List.mem_cons_self, has_code, kept⟩
          · rw [beq_eq_false_iff_ne.mpr same, if_neg Bool.false_ne_true] at kept
            refine .inr ⟨List.forall_mem_cons.mpr ⟨fun code_here => same ?_, no_later⟩, kept⟩
            exact Except.ok.inj (code_here.symm.trans has_code)
      next => cases done

/-- The host can use a table: none of its entries is rejected, and each is found under the code of
its capital letter. -/
def Usable (keymap : Keymap) : Prop :=
  ∃ table, keymap.codes = .ok table ∧ ∀ entry ∈ keymap,
    ∃ capital, (Text.upper entry.1).toList = [capital] ∧
      table.lookup capital.toNat = some entry.2

theorem not_usable_of_error {fault : Fault} (failed : keymap.codes = .error fault) :
    ¬ keymap.Usable := by
  rintro ⟨table, done, _⟩
  rw [failed] at done
  cases done

/-- Entries with one capital letter stand for one key. -/
def CapitalsAgree (keymap : Keymap) : Prop :=
  ∀ entry ∈ keymap, ∀ other ∈ keymap,
    Text.upper entry.1 = Text.upper other.1 → entry.2 = other.2

instance (keymap : Keymap) : Decidable keymap.CapitalsAgree :=
  inferInstanceAs (Decidable (∀ entry ∈ keymap, ∀ other ∈ keymap, _ → _))

/-- **A table is usable if each entry has a code and those with one capital letter agree.** -/
theorem usable_iff :
    keymap.Usable ↔
      (∀ entry ∈ keymap, ∃ code, code? entry.1 = .ok code) ∧ keymap.CapitalsAgree := by
  constructor
  · rintro ⟨table, done, finds⟩
    refine ⟨(exists_go_iff []).mp ⟨table, done⟩, fun entry inside other other_inside same => ?_⟩
    obtain ⟨capital, letters, here⟩ := finds entry inside
    obtain ⟨other_capital, other_letters, there⟩ := finds other other_inside
    have one_capital : [capital] = [other_capital] := by rw [← letters, same, other_letters]
    obtain rfl := List.singleton_inj.mp one_capital
    exact Option.some.inj (here.symm.trans there)
  · rintro ⟨all_codes, agree⟩
    obtain ⟨table, done⟩ := (exists_go_iff []).mpr all_codes
    refine ⟨table, done, fun entry inside => ?_⟩
    obtain ⟨code, has_code⟩ := all_codes entry inside
    obtain ⟨_, capital, letters, rfl⟩ := code?_eq_ok_iff.mp has_code
    refine ⟨capital, letters, ?_⟩
    -- What is found may come from another entry, which then has the same capital letter.
    rcases lookup_of_go done capital.toNat with ⟨other, other_inside, other_code, found⟩ | ⟨none, _⟩
    · obtain ⟨_, other_capital, other_letters, same_code⟩ := code?_eq_ok_iff.mp other_code
      obtain rfl : other_capital = capital := Char.toNat_inj.mp same_code
      have same : Text.upper entry.1 = Text.upper other.1 :=
        String.toList_inj.mp (letters.trans other_letters.symm)
      rw [found, agree entry inside other other_inside same]
    · exact (none entry inside has_code).elim

/-- A name that is kept has a code if the character has a single capital letter. -/
theorem exists_code_lower_iff (c : Char) :
    (∃ code, code? (Text.lower (String.singleton c)) = .ok code) ↔ Text.HasOneCapital c := by
  have letters := Text.toList_lower_singleton c
  constructor
  · rintro ⟨code, has_code⟩
    obtain ⟨single, capital, capitals, _⟩ := code?_eq_ok_iff.mp has_code
    rw [← String.length_toList, letters, List.length_eq_one_iff] at single
    obtain ⟨small, only⟩ := single
    rw [Text.toList_upper_of_single (letters.trans only)] at capitals
    exact ⟨small, capital, only, capitals⟩
  · rintro ⟨small, capital, only, capitals⟩
    have single : (Text.lower (String.singleton c)).length = 1 := by
      rw [← String.length_toList, letters, only, List.length_singleton]
    rw [← Text.toList_upper_of_single (letters.trans only)] at capitals
    exact ⟨capital.toNat, code?_eq_ok_iff.mpr ⟨single, capital, capitals, rfl⟩⟩

end Keymap

/-! ## The table of a document -/

namespace SystemConfig

variable {d : Document} {config : SystemConfig}

/-- The characters of the standard host keys. -/
def defaultCharacters : List Char :=
  ['1', '2', '3', '4', 'q', 'w', 'e', 'r', 'a', 's', 'd', 'f', 'z', 'x', 'c', 'v']

theorem ascii_defaultCharacters : ∀ c ∈ defaultCharacters, c.toNat < 128 := by
  simp [defaultCharacters]

theorem lower_defaultCharacters :
    ∀ c ∈ defaultCharacters, Text.lower (String.singleton c) = String.singleton c := by
  have small : ∀ c ∈ defaultCharacters, c.toLower = c := by simp [defaultCharacters]
  intro c inside
  rw [Text.lower_singleton_of_ascii (ascii_defaultCharacters c inside), small c inside]

theorem names_defaultKeymap :
    defaultKeymap.map Prod.fst =
      defaultCharacters.map fun c => Text.lower (String.singleton c) := by
  rw [List.map_congr_left lower_defaultCharacters]
  rfl

/-- A character is the name of a standard host key or of one that a document names. -/
def Names (d : Document) (c : Char) : Prop := c ∈ defaultCharacters ∨ NamesKey d c

theorem KeymapOf.mem_names_iff_exists {keymap : Keymap} (of_document : KeymapOf d keymap)
    (name : String) :
    name ∈ keymap.map Prod.fst ↔ ∃ c, Names d c ∧ Text.lower (String.singleton c) = name := by
  rw [of_document.mem_names_iff, names_defaultKeymap, List.mem_map]
  constructor
  · rintro (⟨c, inside, named⟩ | ⟨c, names, named⟩)
    · exact ⟨c, .inl inside, named⟩
    · exact ⟨c, .inr names, named.symm⟩
  · rintro ⟨c, inside | names, named⟩
    · exact .inl ⟨c, inside, named⟩
    · exact .inr ⟨c, names, named.symm⟩

/-- The names of a table have codes if the characters that the document names have single capital
letters. -/
theorem KeymapOf.all_codes_iff {keymap : Keymap} (of_document : KeymapOf d keymap) :
    (∀ entry ∈ keymap, ∃ code, Keymap.code? entry.1 = .ok code) ↔
      ∀ c, NamesKey d c → Text.HasOneCapital c := by
  have on_names : (∀ entry ∈ keymap, ∃ code, Keymap.code? entry.1 = .ok code) ↔
      ∀ c, Names d c → Text.HasOneCapital c := by
    rw [← List.forall_mem_map (f := Prod.fst)
      (P := fun name => ∃ code, Keymap.code? name = .ok code)]
    constructor
    · intro all_codes c named
      exact (Keymap.exists_code_lower_iff c).mp
        (all_codes _ ((of_document.mem_names_iff_exists _).mpr ⟨c, named, rfl⟩))
    · intro capitals name inside
      obtain ⟨c, named, rfl⟩ := (of_document.mem_names_iff_exists name).mp inside
      exact (Keymap.exists_code_lower_iff c).mpr (capitals c named)
  rw [on_names]
  constructor
  · exact fun capitals c named => capitals c (.inr named)
  · rintro capitals c (inside | named)
    · exact Text.hasOneCapital_of_ascii (ascii_defaultCharacters c inside)
    · exact capitals c named

/-- In ASCII no two entries of a table have one capital letter. -/
theorem KeymapOf.capitalsAgree_of_ascii {keymap : Keymap} (of_document : KeymapOf d keymap)
    (ascii : ∀ c, NamesKey d c → c.toNat < 128) : keymap.CapitalsAgree := by
  have all_ascii : ∀ c, Names d c → c.toNat < 128 := by
    rintro c (inside | named)
    · exact ascii_defaultCharacters c inside
    · exact ascii c named
  intro entry inside other other_inside same
  obtain ⟨c, named, name_eq⟩ :=
    (of_document.mem_names_iff_exists entry.1).mp (List.mem_map_of_mem inside)
  obtain ⟨c', named', name_eq'⟩ :=
    (of_document.mem_names_iff_exists other.1).mp (List.mem_map_of_mem other_inside)
  rw [← name_eq, ← name_eq'] at same
  have same_name : entry.1 = other.1 := by
    rw [← name_eq, ← name_eq']
    exact Text.lower_eq_of_upper_eq (all_ascii c named) (all_ascii c' named') same
  rw [List.inj_on_of_nodup_map of_document.names inside other_inside same_name]

/-- **The table of an accepted document is usable if the capital letters allow it, and only then.**
In ASCII they always do. -/
theorem accepted_keymap_usable_iff (accepted : (ofDocument d ()).result = .ok config) :
    (config.keymap.Usable ↔
        (∀ c, NamesKey d c → Text.HasOneCapital c) ∧ config.keymap.CapitalsAgree) ∧
      ((∀ c, NamesKey d c → c.toNat < 128) → config.keymap.Usable) := by
  have of_document : KeymapOf d config.keymap := (ensures_ofDocument d () config accepted).keymap
  have usable_iff : config.keymap.Usable ↔
      (∀ c, NamesKey d c → Text.HasOneCapital c) ∧ config.keymap.CapitalsAgree := by
    rw [Keymap.usable_iff, of_document.all_codes_iff]
  refine ⟨usable_iff, fun ascii => usable_iff.mpr ⟨fun c named => ?_, ?_⟩⟩
  · exact Text.hasOneCapital_of_ascii (ascii c named)
  · exact of_document.capitalsAgree_of_ascii ascii

/-- A document that names one key of the host. -/
def naming (c : Char) (key : Int) : Document :=
  ⟨.map [(.text "keymap", .map [(.text (String.singleton c), .int key)])], #[]⟩

theorem eq_of_namesKey_naming {c named : Char} {key : Int} (names : NamesKey (naming c key) named) :
    named = c := by
  obtain ⟨root, entries, ⟨⟩, opened, entry, inside, written⟩ := names
  have only : entries = [(.text (String.singleton c), .int key)] := (Value.map.inj opened).symm
  rw [only, List.mem_singleton] at inside
  rw [inside] at written
  have same : String.singleton c = String.singleton named := Except.ok.inj written
  rw [← String.toList_inj, String.toList_singleton, String.toList_singleton] at same
  exact (List.singleton_inj.mp same).symm

/-- A capital letter outside of ASCII is found again, and so is one of ASCII that takes the place of
a standard key. -/
theorem capital_letters_usable :
    (∃ config, (ofDocument (naming 'É' 1) ()).result = .ok config ∧ ("é", 1) ∈ config.keymap ∧
        config.keymap.Usable) ∧
      ∃ config, (ofDocument (naming 'Q' 7) ()).result = .ok config ∧ ("q", 7) ∈ config.keymap ∧
        config.keymap.Usable := by
  constructor
  · have read : (ofDocument (naming 'É' 1) ()).result =
        .ok { standard with keymap := defaultKeymap ++ [("é", 1)] } := by decide +kernel
    refine ⟨_, read, by decide +kernel, (accepted_keymap_usable_iff read).1.mpr ⟨?_, ?_⟩⟩
    · intro c names
      obtain rfl := eq_of_namesKey_naming names
      exact ⟨'é', 'É', by decide +kernel, by decide +kernel⟩
    · decide +kernel
  · have read : (ofDocument (naming 'Q' 7) ()).result =
        .ok { standard with keymap := assign "q" 7 defaultKeymap } := by decide +kernel
    refine ⟨_, read, by decide +kernel, (accepted_keymap_usable_iff read).2 ?_⟩
    intro c names
    obtain rfl := eq_of_namesKey_naming names
    decide

/-- **Three accepted documents whose tables are not usable.**  The capital of the first character is
two letters, and the small letter of the second is two characters, so that the host stops with a
fault.  The third has the capital letter of a standard key, which stands for another key then. -/
theorem accepted_and_unusable :
    (∃ config, (ofDocument (naming 'ß' 1) ()).result = .ok config ∧
        config.keymap.codes = .error .noSingleUpperCase ∧ ¬ config.keymap.Usable) ∧
      (∃ config, (ofDocument (naming 'İ' 1) ()).result = .ok config ∧
        config.keymap.codes = .error (.keyNotSingle "i̇") ∧ ¬ config.keymap.Usable) ∧
      ∃ config, (ofDocument (naming 'ſ' 1) ()).result = .ok config ∧ ("s", 8) ∈ config.keymap ∧
        config.keymap.codes.map (·.lookup 'S'.toNat) = .ok (some 1) ∧
        ¬ config.keymap.Usable := by
  refine ⟨?_, ?_, ?_⟩
  · have read : (ofDocument (naming 'ß' 1) ()).result =
        .ok { standard with keymap := defaultKeymap ++ [("ß", 1)] } := by decide +kernel
    have failed : Keymap.codes (defaultKeymap ++ [("ß", 1)]) = .error .noSingleUpperCase := by
      decide +kernel
    exact ⟨_, read, failed, Keymap.not_usable_of_error failed⟩
  · have read : (ofDocument (naming 'İ' 1) ()).result =
        .ok { standard with keymap := defaultKeymap ++ [("i̇", 1)] } := by decide +kernel
    have failed : Keymap.codes (defaultKeymap ++ [("i̇", 1)]) = .error (.keyNotSingle "i̇") := by
      decide +kernel
    exact ⟨_, read, failed, Keymap.not_usable_of_error failed⟩
  · have read : (ofDocument (naming 'ſ' 1) ()).result =
        .ok { standard with keymap := defaultKeymap ++ [("ſ", 1)] } := by decide +kernel
    have small : ("s", 8) ∈ defaultKeymap ++ [("ſ", 1)] := by decide +kernel
    have long : ("ſ", 1) ∈ defaultKeymap ++ [("ſ", 1)] := by decide +kernel
    have one_capital : Text.upper "s" = Text.upper "ſ" := by decide +kernel
    refine ⟨_, read, small, by decide +kernel, fun usable => ?_⟩
    have one_key : (8 : Int) = 1 := (Keymap.usable_iff.mp usable).2 _ small _ long one_capital
    cases one_key

end SystemConfig

end Chip8
