import Chip8.Proofs.Revisions

/-!
# Keys that mean nothing

A key that is not known where it stands is reported and otherwise ignored.  So whoever writes a
configuration may add such keys in the root, in the sections about the machine and the screen and in
the one about the debugger: anywhere among the others, with values of any kind, and in sections that
were empty values or left out.  The configuration stays the same, and so does the fault of a
document that is refused; in what is reported there is one more warning for each of them
(`unknown_keys_do_not_interfere`).

The values under other keys stay what they are.  The new values may hold endless collections, and
may turn a section or the root into one, so the collections of the old values may be kept under
other numbers than before.
-/

namespace Chip8

set_option autoImplicit false

namespace SystemConfig

open Value (Renumbered)
open Document (Renumbers)

/-- One document is another one in which keys were inserted that are not known where they are. -/
def KeysInserted (d d' : Document) (inserted : Insertions) : Prop :=
  ∃ related root root', Renumbers d d' related ∧
    Revision d d' related (Renumbered related) root root' inserted

/-- **Unknown keys do not interfere.** -/
theorem unknown_keys_do_not_interfere {d d' : Document} {inserted : Insertions}
    (grown : KeysInserted d d' inserted) :
    (ofDocument d' ()).result = (ofDocument d ()).result ∧
      (Answers (ofDocument d) →
        (ofDocument d ()).events.Sublist (ofDocument d' ()).events ∧
        (ofDocument d' ()).events.Perm (inserted.warnings ++ (ofDocument d ()).events)) := by
  obtain ⟨related, root, root', renumbers, revision⟩ := grown
  have adds := revision.adds renumbers fun _ _ => AlikeIntegers.of_renumbered renumbers
  refine ⟨adds.result, fun answers => ⟨adds.events, ?_⟩⟩
  obtain ⟨reported, _, together, complete⟩ := adds.reported
  rw [complete answers] at together
  exact together

/-- A program that stands in an endless list, and a section without content. -/
def sparseDocument : Document where
  root := .endless 0
  endless := #[
    .map [(.text "machine", .null), (.text "display", .map [(.text "scale", .text "0x10")]),
      (.text "rom", .endless 2)],
    .map [(.text "scale", .text "0x10")],
    .list [.endless 2]]

/-- The same with three more keys, under one of which there is another endless list. -/
def crowdedDocument : Document where
  root := .endless 0
  endless := #[
    .map [(.text "x", .int 1), (.text "machine", .endless 1),
      (.text "display", .map [(.text "scale", .text "0x10"), (.text "colour", .text "red")]),
      (.text "rom", .endless 3)],
    .map [(.text "note", .endless 4)],
    .map [(.text "scale", .text "0x10"), (.text "colour", .text "red")],
    .list [.endless 3],
    .list [.endless 4, .int 2]]

theorem keysInserted_crowded :
    KeysInserted sparseDocument crowdedDocument ⟨["x"], ["note"], ["colour"], []⟩ := by
  have renumbers : Renumbers sparseDocument crowdedDocument (fun place place' =>
      place = 2 ∧ place' = 3) := by
    refine ⟨?_, ?_⟩
    · rintro _ _ _ _ ⟨rfl, rfl⟩ ⟨rfl, rfl⟩
      exact ⟨fun _ => rfl, fun _ => rfl⟩
    · rintro _ _ ⟨rfl, rfl⟩
      exact .list (.cons (.endless ⟨rfl, rfl⟩) .nil)
  refine ⟨_, _, _, renumbers, ⟨rfl, rfl, ?_, ?_, ?_, ?_, ?_⟩⟩
  · refine .insert (.text (by decide)) (.keepText ?_ (.keepText ?_ (.keepText ?_ .done)))
    · exact fun no_section => (no_section (by decide)).elim
    · exact fun no_section => (no_section (by decide)).elim
    · exact fun _ _ => .endless ⟨rfl, rfl⟩
  · exact .opened (.insert (.text (by decide)) .done)
  · refine .opened (.keepText (fun _ => ?_) (.insert (.text (by decide)) .done))
    exact .atom trivial
  · exact .opened .nil
  · exact .opened .done

/-- With three more keys a document is read as before, with three warnings. -/
theorem crowded_document_is_read :
    (ofDocument crowdedDocument ()).result = (ofDocument sparseDocument ()).result ∧
      (ofDocument crowdedDocument ()).events =
        [.unknownKey "x", .unknownKey "machine.note", .unknownKey "display.colour"] := by
  refine ⟨(unknown_keys_do_not_interfere keysInserted_crowded).1, ?_⟩
  rfl

end SystemConfig

end Chip8
