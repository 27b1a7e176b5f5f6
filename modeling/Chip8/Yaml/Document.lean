import Chip8.Document
import Chip8.Value.Arrangement
import Chip8.Yaml.Merge
import Chip8.Yaml.Value

/-!
# From nodes to documents

Every node becomes one value, also if it stands in several places.  A collection is made empty
where it is first met and filled later, in the order in which collections were met.  If there are
several faults, this order decides which one is found: the outermost collection is filled first.
So a collection can hold itself, and can have a tag that does not suit its node, which is found
only when it is to be filled.

Keys of mappings have to be scalars.  Two keys are one if they are the same as values, or if they
are the same node.

When all collections are filled, those from which no way leads back to an open one are put
together to values; the others are kept as endless collections.
-/

namespace Chip8.Yaml

set_option autoImplicit false

/-- A collection that has been met. -/
inductive Cell where
  /-- It is still empty and stands for the node at a place. -/
  | waiting (place : Nat)
  /-- Its parts are known, of which collections are given by number. -/
  | filled (value : Value)

/-- How far a document has been built. -/
structure Building where
  graph : Graph
  /-- The values of nodes by their place, as far as they were met. -/
  values : Array (Option Value)
  /-- The collections that were met, in order. -/
  cells : Array Cell

/-- A step of the building: an answer and what has been built, or a fault. -/
abbrev Build (α : Type) : Type := StateT Building (Except Fault) α

namespace Build

/-- A tag does not suit its node. -/
def malformed {α : Type} : Build α := throw .malformedDocument

/-- Whether a tag asks for a collection. -/
def isCollection : Tag → Bool
  | .seq | .map | .set | .omap | .pairs => true
  | _ => false

/-- Adds a collection and gives its number. -/
def addCell (cell : Cell) : Build Nat := do
  let number := (← get).cells.size
  modify fun b => { b with cells := b.cells.push cell }
  return number

/-- The value of the node at a place. -/
def value (place : Nat) : Build Value := do
  let b ← get
  match b.values[place]?.getD none with
  | some v => return v
  | none => do
    let v ←
      if isCollection (b.graph.node place).tag then do
        let number ← addCell (.waiting place)
        pure (.endless number)
      else liftM (b.graph.scalarValue place)
    modify fun b => { b with values := b.values.setIfInBounds place (some v) }
    return v

/-- The value of a key, which is no collection. -/
def key (place : Nat) : Build Value := do
  match ← value place with
  | .endless _ => malformed
  | v => return v

/-! ## The parts of collections -/

/-- The values of items. -/
def items : List Nat → Build (List Value)
  | [] => return []
  | place :: rest => do
    let v ← value place
    return v :: (← items rest)

/-- The pairs that stand for mappings of one entry.  Every pair is a collection of its own. -/
def pairs : List Nat → Build (List Value)
  | [] => return []
  | place :: rest => do
    match (← get).graph.entries place with
    | [(first, second)] => do
      let a ← value first
      let b ← value second
      let number ← addCell (.filled (.pair a b))
      return .endless number :: (← pairs rest)
    | _ => malformed

/-- Puts a value under the key of a node: in place if the key is there already, else at the
end. -/
def assign (place : Nat) (key value : Value) :
    List (Nat × Value × Value) → List (Nat × Value × Value)
  | [] => [(place, key, value)]
  | (p, k, v) :: rest =>
    if p == place || k.sameKey key then (p, k, value) :: rest
    else (p, k, v) :: assign place key value rest

/-- The entries of a mapping; later ones replace earlier ones. -/
def entries (done : List (Nat × Value × Value)) : List (Nat × Nat) → Build (List (Value × Value))
  | [] => return done.map (·.2)
  | (first, second) :: rest => do
    let k ← key first
    let v ← value second
    entries (assign first k v done) rest

/-- The entries of the mapping at a place, after its merge marks were taken out. -/
def mergedEntries (place : Nat) : Build (List (Value × Value)) := do
  match ((← get).graph.node place).content with
  | .mapping _ => do
    let graph ← liftM ((← get).graph.merge place)
    modify fun b => { b with graph := graph }
    entries [] (graph.entries place)
  | _ => malformed

/-- The collection that stands for the node at a place, with its parts. -/
def collection (place : Nat) : Build Value := do
  let n := (← get).graph.node place
  match n.tag, n.content with
  | .seq, .sequence parts => return .list (← items parts)
  | .omap, .sequence parts | .pairs, .sequence parts => return .list (← pairs parts)
  | .map, _ => return .map (← mergedEntries place)
  | .set, _ => return .set (Value.arranged ((← mergedEntries place).map (·.1)))
  | _, _ => malformed

/-- Fills the collections from a number on. -/
def fill : Nat → Nat → Build Unit
  | 0, _ => malformed
  | fuel + 1, number => do
    match (← get).cells[number]? with
    | none => return ()
    | some (.filled _) => fill fuel (number + 1)
    | some (.waiting place) => do
      let v ← collection place
      modify fun b => { b with cells := b.cells.setIfInBounds number (.filled v) }
      fill fuel (number + 1)

/-- Builds the node at a place with all that it holds.  Every collection is a node or an item of
a sequence, which bounds their number. -/
def all (place : Nat) : Build Value := do
  let g := (← get).graph
  let v ← value place
  fill (g.size + g.partCount + 1) 0
  return v

end Build

/-! ## Putting together -/

/-- The collections that could be put together so far, by number. -/
abbrev Finished : Type := Array (Option Value)

namespace Finished

/-- A part with its collection put together, if it is one that could be. -/
def part? (done : Finished) : Value → Option Value
  | .endless number => done[number]?.getD none
  | v => some v

/-- A part with its collection put together if that could be. -/
def part (done : Finished) (v : Value) : Value := (done.part? v).getD v

/-- A collection whose parts are put together, if all could be. -/
def whole? (done : Finished) : Value → Option Value
  | .list items => (items.mapM done.part?).map .list
  | .map entries =>
    (entries.mapM fun entry => (done.part? entry.2).map fun v => (entry.1, v)).map .map
  | .pair a b =>
    match done.part? a, done.part? b with
    | some a, some b => some (.pair a b)
    | _, _ => none
  | v => some v

/-- A collection whose parts are put together as far as they could be. -/
def partly (done : Finished) : Value → Value
  | .list items => .list (items.map done.part)
  | .map entries => .map (entries.map fun entry => (entry.1, done.part entry.2))
  | .pair a b => .pair (done.part a) (done.part b)
  | v => v

/-- Puts together the collection under a number if that is possible. -/
def finish (collections : Array Value) (done : Finished) (number : Nat) : Finished :=
  match done[number]?.getD none with
  | some _ => done
  | none => done.setIfInBounds number (done.whole? (collections[number]?.getD .null))

/-- How many collections were put together. -/
def count (done : Finished) : Nat := done.foldl (fun n v => if v.isSome then n + 1 else n) 0

/-- Puts collections together, the last ones first and then the first ones, as long as this
gets on. -/
def run (collections : Array Value) : Nat → Finished → Finished
  | 0, done => done
  | fuel + 1, done =>
    let numbers := List.range collections.size
    let next := numbers.foldl (finish collections) (numbers.reverse.foldl (finish collections) done)
    if next.count = done.count then next else run collections fuel next

end Finished

/-- The document of a value whose collections are given by number. -/
def assemble (root : Value) (collections : Array Value) : Document :=
  let done := Finished.run collections (collections.size + 1) (collections.map fun _ => none)
  ⟨done.part root,
    if done.count = collections.size then #[] else collections.map done.partly⟩

/-- The parts of a collection. -/
def Cell.value : Cell → Value
  | .waiting _ => .null
  | .filled v => v

/-- The document of a graph with its root at a place. -/
def Graph.document (g : Graph) (root : Nat) : Except Fault Document :=
  match (Build.all root).run ⟨g, Array.replicate g.size none, #[]⟩ with
  | .ok (v, b) => .ok (assemble v (b.cells.map Cell.value))
  | .error fault => .error fault

end Chip8.Yaml
