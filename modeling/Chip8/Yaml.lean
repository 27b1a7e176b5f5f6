import Chip8.Yaml.Document

/-!
# YAML texts

The document that a text stands for.  A text that holds a character which may not stand in
such texts, or that is not well formed, or that holds more than one document, is refused
without saying where.
-/

namespace Chip8.Yaml

set_option autoImplicit false

/-- Whether a character may stand in a text. -/
def isAllowed (c : Char) : Bool :=
  let code := c.toNat
  code == 0x09 || code == 0x0A || code == 0x0D || (0x20 ≤ code && code ≤ 0x7E) || code == 0x85 ||
    (0xA0 ≤ code && code ≤ 0xFFFD) || 0x10000 ≤ code

/-- The document of a text, which may be cut by a fault.  A text without a document stands for
nothing. -/
def readCut (text : List Char) (cut : Option Fault) : Except Fault Document :=
  match Graph.ofTokens (Tokens.ofText text cut) with
  | .ok (some (graph, root)) => graph.document root
  | .ok none => .ok ⟨.null, #[]⟩
  | .error fault => .error fault

/-- The document of a text. -/
def read (text : String) : Except Fault Document :=
  if text.toList.all isAllowed then readCut text.toList none else .error .malformedDocument

end Chip8.Yaml
