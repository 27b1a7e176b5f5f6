import Chip8.Text.Symbol

/-!
# Tokens

The pieces that a YAML text consists of.  Indentation has been turned into tokens for the
start and the end of block collections, and the keys of mappings are marked by a token of
their own, also where the text has no mark for them.
-/

namespace Chip8.Yaml

set_option autoImplicit false

/-- A line for the reader of the text rather than a part of the document. -/
inductive Directive where
  | version (major minor : Nat)
  | tagHandle (handle lead : String)
  | other
  deriving DecidableEq, Repr

/-- The pieces of a text. -/
inductive Token where
  | directive (directive : Directive)
  | documentStart
  | documentEnd
  | streamEnd
  | blockSequenceStart
  | blockMappingStart
  | blockEnd
  | flowSequenceStart
  | flowSequenceEnd
  | flowMappingStart
  | flowMappingEnd
  | blockEntry
  | flowEntry
  | key
  | value
  | alias (name : String)
  | anchor (name : String)
  /-- A tag: a handle, or none if it is written out, and what follows. -/
  | tag (handle : Option String) (suffix : String)
  /-- A scalar; a plain one is written without quotes or block marks. -/
  | scalar (text : List Text.Symbol) (plain : Bool)
  deriving DecidableEq, Repr

end Chip8.Yaml
