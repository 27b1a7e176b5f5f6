import Chip8.Yaml.Node

/-!
# Merged entries

An entry of a mapping whose key is the merge mark stands for the entries of other mappings: of the
one that is its value, or of those in the sequence that is its value.  Merging takes such entries
out of a mapping, and puts what they stand for before the entries that are left.  Of the mappings
in a sequence the last one comes first, since later entries replace earlier ones.

The mappings that are merged in have their own merged entries put in first, and they keep them.  A
mapping can be merged into itself: it is then what is left of it by then.  Every merge mark is
taken out once, so the number of all parts bounds the depth of the merging.

The value mark, as a key in a mapping that has been merged, is text.
-/

namespace Chip8.Yaml

set_option autoImplicit false

/-- The entries of the mapping at a place. -/
def Graph.entries (g : Graph) (place : Nat) : List (Nat × Nat) :=
  match (g.node place).content with
  | .mapping entries => entries
  | _ => []

/-- Gives the mapping at a place other entries. -/
def Graph.setEntries (g : Graph) (place : Nat) (entries : List (Nat × Nat)) : Graph :=
  g.modify place fun n => { n with content := .mapping entries }

/-- Makes text of the value mark at a place. -/
def Graph.valueMarkAsText (g : Graph) (place : Nat) : Graph :=
  g.modify place fun n => if n.tag = .value then { n with tag := .str } else n

/-- Splits entries at the first one under a merge mark. -/
def Graph.splitAtMerge? (g : Graph) :
    List (Nat × Nat) → Option (List (Nat × Nat) × Nat × List (Nat × Nat))
  | [] => none
  | (key, value) :: rest =>
    if (g.node key).tag = .merge then some ([], value, rest)
    else
      (g.splitAtMerge? rest).map fun (front, source, back) =>
        ((key, value) :: front, source, back)

/-- The entries of the mappings of a sequence one after another, the last mapping first.  Each is
merged by `merge` before. -/
def Graph.mergedAll (merge : Nat → Graph → Except Fault Graph) :
    List Nat → Graph → Except Fault (List (Nat × Nat) × Graph)
  | [], g => .ok ([], g)
  | item :: rest, g =>
    match (g.node item).content with
    | .mapping _ => do
      let g ← merge item g
      let entries := g.entries item
      let (more, g) ← Graph.mergedAll merge rest g
      .ok (more ++ entries, g)
    | _ => .error .malformedDocument

/-- Merges the mapping at a place.  `front` are the entries found so far that go before its own. -/
def Graph.mergeFrom : Nat → List (Nat × Nat) → Nat → Graph → Except Fault Graph
  | 0, _, _, _ => .error .malformedDocument
  | fuel + 1, front, place, g =>
    match g.splitAtMerge? (g.entries place) with
    | none =>
      let entries := front ++ g.entries place
      .ok (entries.foldl (fun g entry => g.valueMarkAsText entry.1) (g.setEntries place entries))
    | some (before, source, after) =>
      let g := g.setEntries place (before ++ after)
      match (g.node source).content with
      | .mapping _ => do
        let g ← Graph.mergeFrom fuel [] source g
        Graph.mergeFrom fuel (front ++ g.entries source) place g
      | .sequence items => do
        let (found, g) ← Graph.mergedAll (Graph.mergeFrom fuel []) items g
        Graph.mergeFrom fuel (front ++ found) place g
      | .scalar _ => .error .malformedDocument

/-- Merges the mapping at a place. -/
def Graph.merge (g : Graph) (place : Nat) : Except Fault Graph :=
  Graph.mergeFrom (g.partCount + 1) [] place g

end Chip8.Yaml
