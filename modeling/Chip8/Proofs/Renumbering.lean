import Chip8.Document
import Mathlib.Data.List.Perm.Subperm

/-!
# Numbers of endless collections

Under which numbers the endless collections of a document are kept means nothing.  Two documents are
compared through a relation between their numbers, under which one value is another one with its
collections kept elsewhere (`Value.Renumbered`).  Only the numbers that occur need to be related, so
either document may keep collections that the other does not know.

Writing a value opens endless collections one after another, and stops at those that are open.  What
is written stays the same since related numbers are open at the same time, and since in either
document there is room for all of its collections (`nested_renumbered`).  So every reader finds the
same in a value and in the value that it becomes.
-/

namespace Chip8

set_option autoImplicit false

namespace Value

/-! ## Renumbered values -/

/-- A value that holds no other values. -/
def IsAtom : Value → Prop
  | list _ | map _ | set _ | pair _ _ | endless _ => False
  | _ => True

mutual

/-- One value is another one whose endless collections are kept under related numbers. -/
inductive Renumbered (related : Nat → Nat → Prop) : Value → Value → Prop where
  | atom {value : Value} : value.IsAtom → Renumbered related value value
  | list {items items' : List Value} :
      RenumberedItems related items items' → Renumbered related (list items) (list items')
  | map {entries entries' : List (Value × Value)} :
      RenumberedEntries related entries entries' → Renumbered related (map entries) (map entries')
  | set {members members' : List Value} :
      RenumberedItems related members members' → Renumbered related (set members) (set members')
  | pair {first first' second second' : Value} :
      Renumbered related first first' → Renumbered related second second' →
        Renumbered related (pair first second) (pair first' second')
  | endless {place place' : Nat} :
      related place place' → Renumbered related (endless place) (endless place')

inductive RenumberedItems (related : Nat → Nat → Prop) : List Value → List Value → Prop where
  | nil : RenumberedItems related [] []
  | cons {item item' : Value} {rest rest' : List Value} : Renumbered related item item' →
      RenumberedItems related rest rest' → RenumberedItems related (item :: rest) (item' :: rest')

inductive RenumberedEntries (related : Nat → Nat → Prop) :
    List (Value × Value) → List (Value × Value) → Prop where
  | nil : RenumberedEntries related [] []
  | cons {key key' value value' : Value} {rest rest' : List (Value × Value)} :
      Renumbered related key key' → Renumbered related value value' →
        RenumberedEntries related rest rest' →
        RenumberedEntries related ((key, value) :: rest) ((key', value') :: rest')

end

variable {related : Nat → Nat → Prop} {nested nested' : Nat → Except Fault String}

mutual

/-- What is written of a value stays the same, if that is so for the endless collections. -/
theorem shown_renumbered
    (same : ∀ place place', related place place' → nested' place' = nested place) :
    ∀ value value' : Value, Renumbered related value value' →
      value'.shown nested' = value.shown nested
  | null, _, .atom _ => rfl
  | bool _, _, .atom _ => rfl
  | int _, _, .atom _ => rfl
  | float _, _, .atom _ => rfl
  | undefined, _, .atom _ => rfl
  | text _, _, .atom _ => rfl
  | symbols _, _, .atom _ => rfl
  | bytes _, _, .atom _ => rfl
  | time _, _, .atom _ => rfl
  | list items, _, .list alike => by
      rw [shown, shown, shownItems_renumbered same _ _ alike]
  | map entries, _, .map alike => by
      rw [shown, shown, shownEntries_renumbered same _ _ alike]
  | set members, _, .set alike => by
      rw [shown, shown, shownItems_renumbered same _ _ alike]
      cases alike <;> rfl
  | pair first second, _, .pair alike_first alike_second => by
      rw [shown, shown, shown_renumbered same _ _ alike_first,
        shown_renumbered same _ _ alike_second]
  | endless place, _, .endless alike => by
      rw [shown, shown, same _ _ alike]

theorem shownItems_renumbered
    (same : ∀ place place', related place place' → nested' place' = nested place) :
    ∀ items items' : List Value, RenumberedItems related items items' →
      shownItems nested' items' = shownItems nested items
  | [], _, .nil => rfl
  | item :: rest, _, .cons alike alike_rest => by
      rw [shownItems, shownItems, shown_renumbered same _ _ alike,
        shownItems_renumbered same _ _ alike_rest]

theorem shownEntries_renumbered
    (same : ∀ place place', related place place' → nested' place' = nested place) :
    ∀ entries entries' : List (Value × Value), RenumberedEntries related entries entries' →
      shownEntries nested' entries' = shownEntries nested entries
  | [], _, .nil => rfl
  | (key, value) :: rest, _, .cons alike_key alike_value alike_rest => by
      rw [shownEntries, shownEntries, shown_renumbered same _ _ alike_key,
        shown_renumbered same _ _ alike_value, shownEntries_renumbered same _ _ alike_rest]

end

variable {value value' : Value}

theorem Renumbered.ellipsis (alike : Renumbered related value value') :
    value'.ellipsis = value.ellipsis := by
  cases alike <;> rfl

/-- A value counts as empty under any numbers. -/
theorem Renumbered.isEmpty (alike : Renumbered related value value') :
    value'.isEmpty = value.isEmpty := by
  cases alike with
  | list items => cases items <;> rfl
  | map entries => cases entries <;> rfl
  | set members => cases members <;> rfl
  | _ => rfl

/-- A value that holds no others stands in the place of itself only. -/
theorem Renumbered.eq_iff (alike : Renumbered related value value') {atom : Value}
    (is_atom : atom.IsAtom) : value' = atom ↔ value = atom := by
  cases alike with
  | atom => rfl
  | _ =>
      constructor
      · rintro rfl
        exact is_atom.elim
      · rintro rfl
        exact is_atom.elim

theorem RenumberedItems.forall₂ {items items' : List Value}
    (alike : RenumberedItems related items items') :
    List.Forall₂ (Renumbered related) items items' := by
  induction items generalizing items' with
  | nil =>
      cases alike
      exact .nil
  | cons item rest ih =>
      cases alike with
      | cons first later => exact .cons first (ih later)

theorem RenumberedEntries.forall₂ {entries entries' : List (Value × Value)}
    (alike : RenumberedEntries related entries entries') :
    List.Forall₂ (fun entry entry' =>
        Renumbered related entry.1 entry'.1 ∧ Renumbered related entry.2 entry'.2)
      entries entries' := by
  induction entries generalizing entries' with
  | nil =>
      cases alike
      exact .nil
  | cons entry rest ih =>
      cases alike with
      | cons key value later => exact .cons ⟨key, value⟩ (ih later)

theorem forall₂_atoms {items : List Value} (atoms : ∀ item ∈ items, item.IsAtom) :
    List.Forall₂ (Renumbered related) items items :=
  List.forall₂_same.mpr fun item inside => .atom (atoms item inside)

theorem isAtom_ofSymbols (written : List Text.Symbol) : (ofSymbols written).IsAtom := by
  unfold ofSymbols
  split <;> trivial

/-- A value and the value that it becomes have elements that become one another, or none. -/
theorem Renumbered.elements (alike : Renumbered related value value') :
    (∃ items items', value.elements = .ok items ∧ value'.elements = .ok items' ∧
      List.Forall₂ (Renumbered related) items items') ∨
    (value.elements = .error .noElements ∧ value'.elements = .error .noElements) := by
  cases alike with
  | @atom value atom =>
      cases value with
      | text | bytes =>
          refine .inl ⟨_, _, rfl, rfl, forall₂_atoms fun item inside => ?_⟩
          obtain ⟨_, _, rfl⟩ := List.mem_map.mp inside
          trivial
      | symbols =>
          refine .inl ⟨_, _, rfl, rfl, forall₂_atoms fun item inside => ?_⟩
          obtain ⟨symbol, _, rfl⟩ := List.mem_map.mp inside
          exact isAtom_ofSymbols [symbol]
      | list | map | set | pair => exact atom.elim
      | _ => exact .inr ⟨rfl, rfl⟩
  | list alike => exact .inl ⟨_, _, rfl, rfl, alike.forall₂⟩
  | map alike =>
      refine .inl ⟨_, _, rfl, rfl, ?_⟩
      exact List.forall₂_map_left_iff.mpr (List.forall₂_map_right_iff.mpr
        (alike.forall₂.imp fun _ _ both => both.1))
  | set alike => exact .inl ⟨_, _, rfl, rfl, alike.forall₂⟩
  | pair first second => exact .inl ⟨_, _, rfl, rfl, .cons first (.cons second .nil)⟩
  | endless => exact .inr ⟨rfl, rfl⟩

end Value

/-! ## Renumbered documents -/

open Value (Renumbered)

namespace Document

/-- A relation between the numbers of two documents.  Each number is related to one other at most,
and what is kept under related numbers is the same but for the numbers. -/
structure Renumbers (d d' : Document) (related : Nat → Nat → Prop) : Prop where
  one_to_one : ∀ first first' second second', related first first' → related second second' →
    (first = second ↔ first' = second')
  collection : ∀ place place', related place place' →
    Renumbered related (d.collection place) (d'.collection place')

/-- Under a number that is not in use there is nothing. -/
theorem used_of_collection {d : Document} {place : Nat} (kept : d.collection place ≠ .null) :
    place < d.endless.size := by
  by_contra unused
  apply kept
  rw [collection, Array.getElem?_eq_none (Nat.le_of_not_lt unused)]
  rfl

/-- The collections of a document that are open at a time: some of its own, each only once. -/
structure Opened (d : Document) (opened : List Nat) : Prop where
  distinct : opened.Nodup
  used : ∀ place ∈ opened, place < d.endless.size

namespace Opened

variable {d : Document} {opened : List Nat} {place : Nat}

theorem none (d : Document) : Opened d [] := ⟨.nil, nofun⟩

theorem more (all : Opened d opened) (closed : place ∉ opened)
    (kept : d.collection place ≠ .null) : Opened d (place :: opened) :=
  ⟨List.nodup_cons.mpr ⟨closed, all.distinct⟩,
    List.forall_mem_cons.mpr ⟨used_of_collection kept, all.used⟩⟩

/-- There is room for all collections that can be open. -/
theorem length_le (all : Opened d opened) : opened.length ≤ d.endless.size := by
  have within : opened ⊆ List.range d.endless.size := fun place inside =>
    List.mem_range.mpr (all.used place inside)
  simpa using (List.Nodup.subperm all.distinct within).length_le

end Opened

namespace Renumbers

variable {d d' : Document} {related : Nat → Nat → Prop} {place place' room room' : Nat}
  {opened opened' : List Nat} {value value' : Value}

theorem contains_opened (renumbers : Renumbers d d' related)
    (all : List.Forall₂ related opened opened') (here : related place place') :
    opened'.contains place' = opened.contains place := by
  rw [Bool.eq_iff_iff, List.contains_iff_mem, List.contains_iff_mem]
  induction all with
  | nil => simp
  | cons first _ ih =>
      rw [List.mem_cons, List.mem_cons, ih, renumbers.one_to_one _ _ _ _ here first]

/-- **What is written of an endless collection does not depend on its number.** -/
theorem nested_renumbered (renumbers : Renumbers d d' related)
    (all : List.Forall₂ related opened opened') (open_here : Opened d opened)
    (open_there : Opened d' opened') (room_here : d.endless.size < room + opened.length)
    (room_there : d'.endless.size < room' + opened'.length) (here : related place place') :
    d'.nested room' opened' place' = d.nested room opened place := by
  induction room generalizing room' opened opened' place place' with
  | zero =>
      have few := open_here.length_le
      omega
  | succ room ih =>
      cases room' with
      | zero =>
          have few := open_there.length_le
          omega
      | succ room' =>
          have alike := renumbers.collection _ _ here
          have null_iff : d'.collection place' = .null ↔ d.collection place = .null :=
            alike.eq_iff trivial
          have same_open := renumbers.contains_opened all here
          rw [nested, nested, same_open]
          split
          next => rw [alike.ellipsis]
          next closed =>
            by_cases kept : d.collection place = .null
            · rw [kept, null_iff.mpr kept]
              rfl
            · have closed_here := mt List.contains_iff_mem.mpr closed
              have closed_there := mt List.contains_iff_mem.mpr (same_open ▸ closed)
              refine Value.shown_renumbered (fun inner inner' related_inner => ?_) _ _ alike
              refine ih (.cons here all) (open_here.more closed_here kept)
                (open_there.more closed_there (mt null_iff.mp kept)) ?_ ?_ related_inner
              · rw [List.length_cons]
                omega
              · rw [List.length_cons]
                omega

theorem written (renumbers : Renumbers d d' related) (alike : Renumbered related value value') :
    d'.written value' = d.written value := by
  have shown : value'.shown (d'.nested (d'.endless.size + 1) []) =
      value.shown (d.nested (d.endless.size + 1) []) :=
    Value.shown_renumbered (fun _ _ here => renumbers.nested_renumbered .nil (.none d) (.none d')
      (Nat.lt_succ_self _) (Nat.lt_succ_self _) here) _ _ alike
  cases alike with
  | @atom value _ =>
      cases value with
      | text | symbols | time => rfl
      | _ => exact shown
  | _ => exact shown

theorem writtenLength (renumbers : Renumbers d d' related)
    (alike : Renumbered related value value') :
    d'.writtenLength value' = d.writtenLength value := by
  unfold Document.writtenLength
  split
  next s =>
    cases alike
    rfl
  next others =>
    rw [renumbers.written alike]
    split
    next s =>
      have atom : (Value.symbols s).IsAtom := trivial
      exact (others s ((alike.eq_iff atom).mpr rfl)).elim
    next => rfl

theorem resolve (renumbers : Renumbers d d' related) (alike : Renumbered related value value') :
    Renumbered related (d.resolve value) (d'.resolve value') := by
  cases alike with
  | endless here => exact renumbers.collection _ _ here
  | atom atom =>
      cases value with
      | endless => exact atom.elim
      | _ => exact .atom atom
  | list alike => exact .list alike
  | map alike => exact .map alike
  | set alike => exact .set alike
  | pair first second => exact .pair first second

end Renumbers

end Document

end Chip8
