import Chip8.HostKeys
import Chip8.Proofs.Cycle
import Mathlib.Data.Fin.Tuple.Basic
import Mathlib.Data.List.Nodup

/-!
# From the host's keyboard to the keypad

The host's keyboard reports that a key goes down, that a key goes up, and that all of them are up.
A code is held down after such events if it was pressed and since then neither released by itself
nor with all others (`HeldAfter`).  Codes that stand for no key of the keypad come and go like
others; they are not remembered, and never matter.

Before a frame the keypad is replaced as a whole.  Afterwards a key is down exactly if some code
that stands for it is held down, whatever the keypad was before; several codes may stand for one
key, and it stays down until the last of them is up (`held_keys_reach_keypad`).  A replacement with
a number that is no key of the keypad fails, wherever in the list that number stands, and leaves the
keypad as it was.
-/

namespace Chip8

set_option autoImplicit false

/-! ## The keypad -/

namespace Keypad

variable {keypad : Keypad}

/-- A number of a key of the keypad. -/
def IsKey (key : Int) : Prop := 0 ≤ key ∧ key < 16

instance (key : Int) : Decidable (IsKey key) := inferInstanceAs (Decidable (_ ∧ _))

theorem key?_natural (key : Fin 16) : key? (key.val : Int) = .ok key := by
  have inside : (0 : Int) ≤ key.val ∧ (key.val : Int) < 16 := by omega
  rw [key?, dif_pos inside]
  rfl

theorem key?_of_not_isKey {key : Int} (other : ¬ IsKey key) :
    key? key = .error (.keyOutOfRange key) := dif_neg other

theorem IsKey.exists_fin {key : Int} (isKey : IsKey key) : ∃ k : Fin 16, key = (k.val : Int) := by
  obtain ⟨low, high⟩ := isKey
  exact ⟨⟨key.toNat, by omega⟩, by simp only [Int.toNat_of_nonneg low]⟩

theorem isDown_idle (key : Fin 16) : idle.isDown key = false := by
  simp [isDown, idle]

theorem isDown_set (keypad : Keypad) (moved key : Fin 16) :
    isDown ⟨keypad.down.set moved.val true moved.isLt⟩ key = true ↔
      moved = key ∨ keypad.isDown key = true := by
  simp only [isDown, Fin.getElem_fin, Vector.getElem_set, Fin.ext_iff]
  by_cases same : moved.val = key.val
  · simp only [same, if_true, true_or]
  · simp only [same, if_false, false_or]

/-- Keys that are pressed one after another are down afterwards, beside those that were. -/
theorem pressAll_of_isKey (keypad : Keypad) {keys : List Int}
    (all_keys : ∀ key ∈ keys, IsKey key) :
    ∃ later, keypad.pressAll keys = .ok later ∧
      ∀ k : Fin 16, later.isDown k = true ↔ keypad.isDown k = true ∨ (k.val : Int) ∈ keys := by
  induction keys generalizing keypad with
  | nil => exact ⟨keypad, rfl, fun k => by simp⟩
  | cons key rest ih =>
      obtain ⟨isKey, rest_keys⟩ := List.forall_mem_cons.mp all_keys
      obtain ⟨moved, rfl⟩ := isKey.exists_fin
      have pressed : keypad.setKey moved.val true = .ok ⟨keypad.down.set moved true⟩ := by
        rw [setKey, key?_natural]
      obtain ⟨later, done, down_iff⟩ := ih ⟨keypad.down.set moved true⟩ rest_keys
      refine ⟨later, by rw [pressAll, pressed]; exact done, fun k => ?_⟩
      rw [down_iff, isDown_set, List.mem_cons, Int.natCast_inj, Fin.val_inj, eq_comm (a := moved),
        or_assoc]
      exact or_left_comm

/-- A number that is no key is found wherever it stands. -/
theorem pressAll_of_other (keypad : Keypad) {keys : List Int}
    (other : ¬ ∀ key ∈ keys, IsKey key) :
    ∃ key ∈ keys, ¬ IsKey key ∧ keypad.pressAll keys = .error (.keyOutOfRange key) := by
  induction keys generalizing keypad with
  | nil => exact (other nofun).elim
  | cons key rest ih =>
      by_cases isKey : IsKey key
      · obtain ⟨moved, rfl⟩ := isKey.exists_fin
        have rest_other : ¬ ∀ key ∈ rest, IsKey key := fun rest_keys =>
          other (List.forall_mem_cons.mpr ⟨isKey, rest_keys⟩)
        have pressed : keypad.setKey moved.val true = .ok ⟨keypad.down.set moved true⟩ := by
          rw [setKey, key?_natural]
        obtain ⟨bad, inside, bad_other, failed⟩ := ih _ rest_other
        refine ⟨bad, List.mem_cons_of_mem _ inside, bad_other, ?_⟩
        rw [pressAll, pressed]
        exact failed
      · refine ⟨key, List.mem_cons_self, isKey, ?_⟩
        simp only [pressAll, setKey, key?_of_not_isKey isKey]

theorem firstPressed?_eq_find? (keypad : Keypad) :
    keypad.firstPressed? = Fin.find? fun key => keypad.isDown key := by
  rw [firstPressed?, pressed, List.head?_filter, Fin.find?_eq_find?_finRange]

/-- The first pressed key is the least that is down. -/
theorem firstPressed?_eq_some_iff {k : Fin 16} :
    keypad.firstPressed? = some k ↔
      keypad.isDown k = true ∧ ∀ j < k, keypad.isDown j = false := by
  rw [firstPressed?_eq_find?, Fin.find?_eq_some_iff]

theorem firstPressed?_eq_none_iff :
    keypad.firstPressed? = none ↔ ∀ k, keypad.isDown k = false := by
  rw [firstPressed?_eq_find?, Fin.find?_eq_none_iff]

end Keypad

/-- The keypad is replaced by one on which exactly the given keys are down. -/
def Machine.takeKeys (keys : List Int) : Action Machine Unit :=
  changeKeypad fun _ => Keypad.ofKeys keys

/-! ## The keyboard -/

/-- What happens on the host's keyboard. -/
inductive KeyEvent where
  | press (code : Int)
  | release (code : Int)
  | releaseAll
  deriving DecidableEq, Repr

/-! Histories have the latest event first. -/

/-- A code is held down after the events of a history. -/
def HeldAfter (code : Int) : List KeyEvent → Prop
  | [] => False
  | .releaseAll :: _ => False
  | .press other :: earlier => other = code ∨ HeldAfter code earlier
  | .release other :: earlier => other ≠ code ∧ HeldAfter code earlier

instance decidableHeldAfter (code : Int) :
    (events : List KeyEvent) → Decidable (HeldAfter code events)
  | [] => inferInstanceAs (Decidable False)
  | .releaseAll :: _ => inferInstanceAs (Decidable False)
  | .press _ :: earlier =>
    have := decidableHeldAfter code earlier
    inferInstanceAs (Decidable (_ ∨ _))
  | .release _ :: earlier =>
    have := decidableHeldAfter code earlier
    inferInstanceAs (Decidable (_ ∧ _))

/-- A keypad shows which keys are held down after the events of a history. -/
structure Keypad.Shows (keypad : Keypad) (table : List (Int × Int)) (events : List KeyEvent) :
    Prop where
  isDown_iff : ∀ k : Fin 16, keypad.isDown k = true ↔
    ∃ code, table.lookup code = some (k.val : Int) ∧ HeldAfter code events
  first_iff : ∀ k : Fin 16, keypad.firstPressed? = some k ↔
    keypad.isDown k = true ∧ ∀ j < k, keypad.isDown j = false
  none_iff : keypad.firstPressed? = none ↔ ∀ k, keypad.isDown k = false

namespace HostKeys

variable {keys : HostKeys} {events : List KeyEvent}

theorem mem_of_lookup {table : List (Int × Int)} {code key : Int}
    (found : table.lookup code = some key) : (code, key) ∈ table := by
  obtain ⟨earlier, later, split, _⟩ := List.lookup_eq_some_iff.mp found
  rw [split]
  exact List.mem_append_right _ List.mem_cons_self

/-- What an event makes of the keys held down. -/
def feed (keys : HostKeys) : KeyEvent → HostKeys
  | .press code => (keys.press code).2
  | .release code => (keys.release code).2
  | .releaseAll => keys.releaseAll

/-- The keys held down after the events of a history. -/
def after (keys : HostKeys) : List KeyEvent → HostKeys
  | [] => keys
  | event :: earlier => (keys.after earlier).feed event

theorem press_of_known {code key : Int} (known : keys.key? code = some key) :
    keys.press code = (true, { keys with held := keys.held.insert code }) := by
  rw [press, known]

theorem press_of_unknown {code : Int} (unknown : keys.key? code = none) :
    keys.press code = (false, keys) := by
  rw [press, unknown]

theorem release_of_known {code key : Int} (known : keys.key? code = some key) :
    keys.release code = (true, { keys with held := keys.held.erase code }) := by
  rw [release, known]

theorem release_of_unknown {code : Int} (unknown : keys.key? code = none) :
    keys.release code = (false, keys) := by
  rw [release, unknown]

/-- **An event is answered by whether its code stands for a key.** -/
theorem answers_eq (keys : HostKeys) (code : Int) :
    (keys.press code).1 = (keys.key? code).isSome ∧
      (keys.release code).1 = (keys.key? code).isSome := by
  cases found : keys.key? code with
  | none => rw [press_of_unknown found, release_of_unknown found]; exact ⟨rfl, rfl⟩
  | some key => rw [press_of_known found, release_of_known found]; exact ⟨rfl, rfl⟩

/-- The codes held down are those of a history that stand for a key, each once. -/
structure Remembers (keys : HostKeys) (table : List (Int × Int)) (events : List KeyEvent) :
    Prop where
  table_eq : keys.table = table
  once : keys.held.Nodup
  mem_held_iff : ∀ code, code ∈ keys.held ↔ (keys.key? code).isSome ∧ HeldAfter code events

theorem Remembers.press {table : List (Int × Int)} (remembers : keys.Remembers table events)
    (code : Int) : (keys.press code).2.Remembers table (.press code :: events) := by
  cases found : keys.key? code with
  | none =>
      rw [press_of_unknown found]
      refine { remembers with mem_held_iff := fun other => ?_ }
      rw [remembers.mem_held_iff, HeldAfter]
      refine and_congr_right fun known => (or_iff_right ?_).symm
      rintro rfl
      rw [found] at known
      cases known
  | some key =>
      rw [press_of_known found]
      refine ⟨remembers.table_eq, remembers.once.insert, fun other => ?_⟩
      rw [List.mem_insert_iff, remembers.mem_held_iff, HeldAfter]
      by_cases same : code = other
      · subst same
        have known : (keys.key? code).isSome = true := by rw [found]; rfl
        simp only [true_or, and_true, true_iff]
        exact known
      · rw [or_iff_right (Ne.symm same), or_iff_right same]
        rfl

theorem Remembers.release {table : List (Int × Int)} (remembers : keys.Remembers table events)
    (code : Int) : (keys.release code).2.Remembers table (.release code :: events) := by
  cases found : keys.key? code with
  | none =>
      rw [release_of_unknown found]
      refine { remembers with mem_held_iff := fun other => ?_ }
      rw [remembers.mem_held_iff, HeldAfter]
      refine and_congr_right fun known => (and_iff_right ?_).symm
      rintro rfl
      rw [found] at known
      cases known
  | some key =>
      rw [release_of_known found]
      refine ⟨remembers.table_eq, remembers.once.erase code, fun other => ?_⟩
      rw [remembers.once.mem_erase_iff, remembers.mem_held_iff, HeldAfter, ne_comm]
      exact and_left_comm

/-- **Every event carries the codes held down from the events before it to the events with it.** -/
theorem Remembers.feed {table : List (Int × Int)} (remembers : keys.Remembers table events)
    (event : KeyEvent) : (keys.feed event).Remembers table (event :: events) := by
  cases event with
  | press code => exact remembers.press code
  | release code => exact remembers.release code
  | releaseAll =>
      refine ⟨remembers.table_eq, List.nodup_nil, fun code => ?_⟩
      simp [HostKeys.feed, releaseAll, HeldAfter]

theorem remembers_after (table : List (Int × Int)) (events : List KeyEvent) :
    (after ⟨table, []⟩ events).Remembers table events := by
  induction events with
  | nil => exact ⟨rfl, List.nodup_nil, fun code => by simp [after, HeldAfter]⟩
  | cons event earlier ih => exact ih.feed event

/-- The keys that are told to the keypad are those for which a code is held down. -/
theorem Remembers.mem_pressedKeys_iff {table : List (Int × Int)}
    (remembers : keys.Remembers table events) (key : Int) :
    key ∈ keys.pressedKeys ↔ ∃ code, table.lookup code = some key ∧ HeldAfter code events := by
  rw [pressedKeys, List.mem_mergeSort, List.mem_eraseDups, List.mem_filterMap]
  refine exists_congr fun code => ?_
  rw [remembers.mem_held_iff, key?, remembers.table_eq]
  constructor
  · rintro ⟨⟨_, held⟩, found⟩
    exact ⟨found, held⟩
  · rintro ⟨found, held⟩
    exact ⟨⟨by rw [found]; rfl, held⟩, found⟩

end HostKeys

namespace Machine

theorem takeKeys_of_isKey {keys : List Int} (all_keys : ∀ key ∈ keys, Keypad.IsKey key)
    (m : Machine) :
    ∃ keypad, takeKeys keys m = ⟨{ m with devices.keypad := keypad }, .ok (), []⟩ ∧
      ∀ k : Fin 16, keypad.isDown k = true ↔ (k.val : Int) ∈ keys := by
  obtain ⟨keypad, replaced, down_iff⟩ := Keypad.idle.pressAll_of_isKey all_keys
  refine ⟨keypad, by rw [takeKeys, changeKeypad, Keypad.ofKeys, replaced], fun k => ?_⟩
  rw [down_iff, Keypad.isDown_idle, or_iff_right Bool.false_ne_true]

theorem takeKeys_of_other {keys : List Int} (other : ¬ ∀ key ∈ keys, Keypad.IsKey key)
    (m : Machine) :
    ∃ key ∈ keys, ¬ Keypad.IsKey key ∧
      takeKeys keys m = ⟨m, .error (.keyOutOfRange key), []⟩ := by
  obtain ⟨key, inside, no_key, failed⟩ := Keypad.idle.pressAll_of_other other
  exact ⟨key, inside, no_key, by rw [takeKeys, changeKeypad, Keypad.ofKeys, failed]⟩

/-! ## The keypad after a history of the keyboard -/

/-- **The keypad shows what is held down on the keyboard.**  For every table of codes, every
history of events and every machine, whatever its keypad was before.  A list with a number that is
no key is refused as a whole. -/
theorem held_keys_reach_keypad {table : List (Int × Int)}
    (indices : ∀ entry ∈ table, Keypad.IsKey entry.2) (events : List KeyEvent) (m : Machine) :
    let keys := HostKeys.after ⟨table, []⟩ events
    (∃ keypad, takeKeys keys.pressedKeys m = ⟨{ m with devices.keypad := keypad }, .ok (), []⟩ ∧
        keypad.Shows table events) ∧
      (∀ code, (keys.press code).1 = (table.lookup code).isSome ∧
        (keys.release code).1 = (table.lookup code).isSome) ∧
      ∀ pressed : List Int, (¬ ∀ key ∈ pressed, Keypad.IsKey key) →
        ∃ fault, fault.family = .index ∧ takeKeys pressed m = ⟨m, .error fault, []⟩ := by
  intro keys
  have remembers : keys.Remembers table events := HostKeys.remembers_after table events
  refine ⟨?_, fun code => ?_, fun pressed other => ?_⟩
  · have all_keys : ∀ key ∈ keys.pressedKeys, Keypad.IsKey key := by
      intro key inside
      obtain ⟨code, found, _⟩ := (remembers.mem_pressedKeys_iff key).mp inside
      exact indices (code, key) (HostKeys.mem_of_lookup found)
    obtain ⟨keypad, taken, down_iff⟩ := takeKeys_of_isKey all_keys m
    refine ⟨keypad, taken, fun k => ?_, fun k => ?_, ?_⟩
    · rw [down_iff, remembers.mem_pressedKeys_iff]
    · exact Keypad.firstPressed?_eq_some_iff
    · exact Keypad.firstPressed?_eq_none_iff
  · have answers := keys.answers_eq code
    rwa [HostKeys.key?, remembers.table_eq] at answers
  · obtain ⟨key, _, _, failed⟩ := takeKeys_of_other other m
    exact ⟨.keyOutOfRange key, rfl, failed⟩

/-- Two codes stand for one key, which is down after one of them was released.  A key that was held
before everything was released is up. -/
theorem shared_key_stays_down :
    let m := ofWord 0x12 0x00 .everyCycle
    let table := [(81, 4), (49, 1), (113, 4)]
    let keys := HostKeys.after ⟨table, []⟩
      [.release 81, .press 113, .press 81, .releaseAll, .press 49]
    ∃ keypad, takeKeys keys.pressedKeys m = ⟨{ m with devices.keypad := keypad }, .ok (), []⟩ ∧
      keypad.isDown 4 = true ∧ keypad.isDown 1 = false := by
  intro m table keys
  obtain ⟨⟨keypad, taken, shows⟩, _⟩ := held_keys_reach_keypad
    (show ∀ entry ∈ table, Keypad.IsKey entry.2 by decide)
    [.release 81, .press 113, .press 81, .releaseAll, .press 49] m
  refine ⟨keypad, taken, (shows.isDown_iff 4).mpr ⟨113, rfl, by decide⟩, ?_⟩
  refine Bool.eq_false_iff.mpr fun down => ?_
  obtain ⟨code, found, held⟩ := (shows.isDown_iff 1).mp down
  have only : code = 49 := by simpa [table] using HostKeys.mem_of_lookup found
  subst only
  exact absurd held (by decide)

end Machine

end Chip8
