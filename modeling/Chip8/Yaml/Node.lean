import Chip8.Yaml.Resolve
import Chip8.Yaml.Scan

/-!
# From tokens to nodes

A document is a graph of nodes: scalars with their text, sequences and mappings, each with the
tag that says what it stands for.  The parts of a collection are given by their places in the
graph.  An anchored node can be named wherever it may stand, also inside itself, and is one node
in all these places.

A text holds at most one document.  Every step of the reading takes a token, so the number
of tokens bounds the number of steps.  Only the settled tokens can be taken: a text that is not
well formed is refused where the reading needs a token beyond them, unless these are in a wrong
order before.
-/

namespace Chip8.Yaml

set_option autoImplicit false

/-- What a node holds. -/
inductive Content where
  | scalar (text : List Text.Symbol)
  | sequence (items : List Nat)
  | mapping (entries : List (Nat × Nat))

/-- A part of a document. -/
structure Node where
  tag : Tag
  content : Content

/-- A node that was left out. -/
def Node.absent : Node := ⟨.null, .scalar []⟩

/-- The nodes of a document by place. -/
abbrev Graph : Type := Array Node

/-- The node at a place. -/
def Graph.node (g : Graph) (place : Nat) : Node := g[place]?.getD Node.absent

/-- How many parts a node has. -/
def Content.partCount : Content → Nat
  | .scalar _ => 0
  | .sequence items => items.length
  | .mapping entries => entries.length

/-- How many parts all nodes have. -/
def Graph.partCount (g : Graph) : Nat := g.foldl (fun count n => count + n.content.partCount) 0

/-- Where the reading of tokens has arrived. -/
structure Reader where
  rest : List Token
  /-- What is wrong with the text after these tokens. -/
  fault : Option Fault
  /-- What the tag handles stand for. -/
  handles : List (String × String)
  /-- The places of the anchored nodes so far. -/
  anchors : List (String × Nat)
  nodes : Graph
  /-- How many collections are open. -/
  depth : Nat

/-- A step of the reading: an answer and the new place, or a fault. -/
abbrev Read (α : Type) : Type := StateT Reader (Except Fault) α

namespace Read

/-- The tokens are in a wrong order. -/
def malformed {α : Type} : Read α := throw .malformedDocument

/-- The next token; past the end the text ends again and again. -/
def peek : Read Token := do
  let r ← get
  match r.rest, r.fault with
  | token :: _, _ => return token
  | [], some fault => throw fault
  | [], none => return .streamEnd

/-- Takes the next token. -/
def next : Read Unit := modify fun r => { r with rest := r.rest.tail }

/-- Takes the next token if it is the given one. -/
def accept (token : Token) : Read Bool := do
  if (← peek) = token then
    next
    return true
  else return false

/-- Takes the next token, which has to be the given one. -/
def expect (token : Token) : Read Unit := do
  if ← accept token then pure () else malformed

/-! ## What stands before a node -/

/-- An anchor, if one stands here. -/
def anchor? : Read (Option String) := do
  match ← peek with
  | .anchor name => do
    next
    return some name
  | _ => return none

/-- A tag, if one stands here. -/
def tag? : Read (Option (Option String × String)) := do
  match ← peek with
  | .tag handle suffix => do
    next
    return some (handle, suffix)
  | _ => return none

/-- The full name of a tag: its handle, if it has one, is replaced. -/
def tagName : Option String × String → Read String
  | (none, suffix) => return suffix
  | (some handle, suffix) => do
    match (← get).handles.lookup handle with
    | some lead => return lead ++ suffix
    | none => malformed

/-- Anchor and tag in either order. -/
def properties : Read (Option String × Option String) := do
  let first ← anchor?
  let tag ← tag?
  let anchor ← if first.isNone && tag.isSome then anchor? else pure first
  match tag with
  | none => return (anchor, none)
  | some tag => return (anchor, some (← tagName tag))

/-- The tag of a scalar.  The tag of a single exclamation mark leaves the choice to the form
of the text. -/
def scalarTag (tag : Option String) (plain : Bool) (text : List Text.Symbol) : Tag :=
  match tag with
  | none => if plain then Tag.ofPlain text else .str
  | some "!" => Tag.ofPlain text
  | some name => Tag.ofName name

/-- The tag of a collection. -/
def collectionTag (tag : Option String) (standard : Tag) : Tag :=
  match tag with
  | none | some "!" => standard
  | some name => Tag.ofName name

/-! ## Nodes -/

/-- Adds a node, under its anchor if it has one.  A name is used once. -/
def add (anchor : Option String) (node : Node) : Read Nat := do
  let r ← get
  let place := r.nodes.size
  match anchor with
  | none => set { r with nodes := r.nodes.push node }
  | some name =>
    if (r.anchors.lookup name).isSome then malformed
    else set { r with nodes := r.nodes.push node, anchors := (name, place) :: r.anchors }
  return place

/-- Gives a collection its parts. -/
def complete (place : Nat) (content : Content) : Read Unit :=
  modify fun r => { r with nodes := r.nodes.modify place fun n => { n with content := content } }

/-- A node that was left out. -/
def absent : Read Nat := add none Node.absent

/-- A scalar. -/
def scalar (anchor tag : Option String) (plain : Bool) (text : List Text.Symbol) : Read Nat :=
  add anchor ⟨scalarTag tag plain text, .scalar text⟩

/-- Collections inside one another, at most. -/
def depthLimit : Nat := 490

/-- The parts of a collection that is open while they are read. -/
def opened {α : Type} (parts : Read α) : Read α := do
  if depthLimit ≤ (← get).depth then throw .nestedTooDeep
  modify fun r => { r with depth := r.depth + 1 }
  let found ← parts
  modify fun r => { r with depth := r.depth - 1 }
  return found

/-- A sequence.  Its anchor is known before its items are read. -/
def sequence (anchor tag : Option String) (items : Read (List Nat)) : Read Nat := do
  let place ← add anchor ⟨collectionTag tag .seq, .sequence []⟩
  complete place (.sequence (← opened items))
  return place

/-- A mapping.  Its anchor is known before its entries are read. -/
def mapping (anchor tag : Option String) (entries : Read (List (Nat × Nat))) : Read Nat := do
  let place ← add anchor ⟨collectionTag tag .map, .mapping []⟩
  complete place (.mapping (← opened entries))
  return place

/-- A node of which nothing but an anchor or a tag is there. -/
def missing (anchor tag : Option String) : Read Nat :=
  if anchor.isSome || tag.isSome then scalar anchor tag true [] else malformed

mutual

/-- A node.  In a block context it may be a block collection; where a sequence need not be
indented, its entries may follow directly. -/
def node (block flush : Bool) : Nat → Read Nat
  | 0 => malformed
  | fuel + 1 => do
    match ← peek with
    | .alias name => do
      next
      match (← get).anchors.lookup name with
      | some place => return place
      | none => malformed
    | _ => do
      let (anchor, tag) ← properties
      content block flush fuel anchor tag

/-- A node after its anchor and tag. -/
def content (block flush : Bool) : Nat → Option String → Option String → Read Nat
  | 0, _, _ => malformed
  | fuel + 1, anchor, tag => do
    match ← peek with
    | .blockEntry =>
      if flush then sequence anchor tag (flushEntries fuel) else missing anchor tag
    | .scalar text plain => do
      next
      scalar anchor tag plain text
    | .flowSequenceStart => do
      next
      sequence anchor tag (flowItems fuel true)
    | .flowMappingStart => do
      next
      mapping anchor tag (flowEntries fuel true)
    | .blockSequenceStart =>
      if block then do
        next
        sequence anchor tag (blockEntries fuel)
      else missing anchor tag
    | .blockMappingStart =>
      if block then do
        next
        mapping anchor tag (blockPairs fuel)
      else missing anchor tag
    | _ => missing anchor tag

/-- The entries of a block sequence. -/
def blockEntries : Nat → Read (List Nat)
  | 0 => malformed
  | fuel + 1 => do
    if ← accept .blockEntry then
      let item ←
        match ← peek with
        | .blockEntry | .blockEnd => absent
        | _ => node true false fuel
      return item :: (← blockEntries fuel)
    else do
      expect .blockEnd
      return []

/-- The entries of a sequence that is not indented. -/
def flushEntries : Nat → Read (List Nat)
  | 0 => malformed
  | fuel + 1 => do
    if ← accept .blockEntry then
      let item ←
        match ← peek with
        | .blockEntry | .key | .value | .blockEnd => absent
        | _ => node true false fuel
      return item :: (← flushEntries fuel)
    else return []

/-- A key or value of a block mapping. -/
def blockPart : Nat → Read Nat
  | 0 => malformed
  | fuel + 1 => do
    match ← peek with
    | .key | .value | .blockEnd => absent
    | _ => node true true fuel

/-- The entries of a block mapping. -/
def blockPairs : Nat → Read (List (Nat × Nat))
  | 0 => malformed
  | fuel + 1 => do
    if ← accept .key then
      let key ← blockPart fuel
      let value ← if ← accept .value then blockPart fuel else absent
      return (key, value) :: (← blockPairs fuel)
    else do
      expect .blockEnd
      return []

/-- The items of a flow sequence; an item may be a mapping of one entry without braces. -/
def flowItems : Nat → Bool → Read (List Nat)
  | 0, _ => malformed
  | fuel + 1, first => do
    if ← accept .flowSequenceEnd then return []
    else do
      if first then pure () else expect .flowEntry
      match ← peek with
      | .key => do
        next
        let item ← mapping none none (flowPair fuel)
        return item :: (← flowItems fuel false)
      | .flowSequenceEnd => do
        next
        return []
      | _ => do
        let item ← node false false fuel
        return item :: (← flowItems fuel false)

/-- The entry of a mapping without braces, after the mark of the key. -/
def flowPair : Nat → Read (List (Nat × Nat))
  | 0 => malformed
  | fuel + 1 => do
    let key ←
      match ← peek with
      | .value | .flowEntry | .flowSequenceEnd => absent
      | _ => node false false fuel
    let value ←
      if ← accept .value then
        match ← peek with
        | .flowEntry | .flowSequenceEnd => absent
        | _ => node false false fuel
      else absent
    return [(key, value)]

/-- The entries of a flow mapping. -/
def flowEntries : Nat → Bool → Read (List (Nat × Nat))
  | 0, _ => malformed
  | fuel + 1, first => do
    if ← accept .flowMappingEnd then return []
    else do
      if first then pure () else expect .flowEntry
      match ← peek with
      | .key => do
        next
        let key ←
          match ← peek with
          | .value | .flowEntry | .flowMappingEnd => absent
          | _ => node false false fuel
        let value ←
          if ← accept .value then
            match ← peek with
            | .flowEntry | .flowMappingEnd => absent
            | _ => node false false fuel
          else absent
        return (key, value) :: (← flowEntries fuel false)
      | .flowMappingEnd => do
        next
        return []
      | _ => do
        let key ← node false false fuel
        let value ← absent
        return (key, value) :: (← flowEntries fuel false)

end

/-! ## Documents -/

/-- The tag handles that need no directive. -/
def standardHandles : List (String × String) := [("!", "!"), ("!!", Tag.standardLead)]

/-- The directives before a document: at most one version, which has to be the first one, and
for every handle at most one meaning. -/
def directives : Nat → Bool → Read Unit
  | 0, _ => malformed
  | fuel + 1, versioned => do
    match ← peek with
    | .directive d => do
      next
      match d with
      | .version major _ => if versioned || major != 1 then malformed else directives fuel true
      | .tagHandle handle lead =>
        if ((← get).handles.lookup handle).isSome then malformed
        else do
          modify fun r => { r with handles := (handle, lead) :: r.handles }
          directives fuel versioned
      | .other => directives fuel versioned
    | _ => modify fun r => { r with handles := r.handles ++ standardHandles }

/-- The rest of a text after its document: marks for the end of a document.  Of another document
the directives are read, and no more. -/
def ending : Nat → Read Unit
  | 0 => malformed
  | fuel + 1 => do
    match ← peek with
    | .documentEnd => do
      next
      ending fuel
    | .streamEnd => pure ()
    | _ => do
      modify fun r => { r with handles := [] }
      directives fuel false
      malformed

/-- A document after its mark, which may be empty. -/
def markedDocument (fuel : Nat) : Read Nat := do
  match ← peek with
  | .directive _ | .documentStart | .documentEnd | .streamEnd => absent
  | _ => node true false fuel

/-- The document of a text, if there is one. -/
def document (fuel : Nat) : Read (Option Nat) := do
  match ← peek with
  | .streamEnd => return none
  | .directive _ | .documentStart => do
    directives fuel false
    expect .documentStart
    let root ← markedDocument fuel
    ending fuel
    return some root
  | _ => do
    modify fun r => { r with handles := standardHandles }
    let root ← node true false fuel
    ending fuel
    return some root

end Read

/-- The nodes of a document with the place of its root, if there is a document. -/
def Graph.ofTokens (tokens : Tokens) : Except Fault (Option (Graph × Nat)) :=
  let start : Reader := ⟨tokens.settled, tokens.fault, [], [], #[], 0⟩
  match (Read.document (4 * tokens.settled.length + 8)).run start with
  | .ok (some root, r) => .ok (some (r.nodes, root))
  | .ok (none, _) => .ok none
  | .error fault => .error fault

end Chip8.Yaml
