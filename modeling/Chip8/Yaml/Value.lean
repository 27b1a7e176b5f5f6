import Chip8.Text.Base64
import Chip8.Text.Case
import Chip8.Value
import Chip8.Value.Integer
import Chip8.Yaml.Node

/-!
# The values of scalars

The text of a scalar becomes the value that its tag asks for.  A text that does not suit its tag
is a fault of its own.

A mapping can stand for a scalar: its text is that of its first entry under the value mark.  A
mapping that has itself there stands for no text at all.
-/

namespace Chip8.Yaml

set_option autoImplicit false

open Text (Symbol)

/-- The text that a node stands for as a scalar. -/
def Graph.textFrom (g : Graph) : Nat → Nat → Except Fault (List Symbol)
  | 0, _ => .error .textInsideItself
  | fuel + 1, place =>
    match (g.node place).content with
    | .scalar text => .ok text
    | .sequence _ => .error .malformedDocument
    | .mapping entries =>
      match entries.find? fun entry => (g.node entry.1).tag = .value with
      | some (_, value) => g.textFrom fuel value
      | none => .error .malformedDocument

/-- The text that a node stands for as a scalar.  Longer ways than over all nodes do not end. -/
def Graph.text (g : Graph) (place : Nat) : Except Fault (List Symbol) :=
  g.textFrom (g.size + 1) place

/-! ## Numbers -/

/-- A text without underscores. -/
def withoutBars (text : List Symbol) : List Symbol := text.filter (· ≠ .char '_')

/-- Whether a text has a minus sign, and the text without its sign. -/
def signed : List Symbol → Bool × List Symbol
  | .char '-' :: rest => (true, rest)
  | .char '+' :: rest => (false, rest)
  | text => (false, text)

/-- Parts in base sixty, the most significant first. -/
def sixtyBased (parts : List (List Symbol)) : Except Fault Int :=
  parts.foldl
    (fun (n : Except Fault Int) part =>
      match n, Value.integerIn 10 part with
      | .ok n, .ok d => .ok (n * 60 + d)
      | .error fault, _ => .error fault
      | _, .error fault => .error fault)
    (.ok 0)

/-- An integer without underscores and sign. -/
def magnitudeOf (text : List Symbol) : Except Fault Int :=
  match text with
  | [] => .error .numberEmpty
  | [.char '0'] => .ok 0
  | .char '0' :: .char 'b' :: rest => Value.integerIn 2 rest
  | .char '0' :: .char 'x' :: rest => Value.integerIn 16 rest
  | .char '0' :: _ => Value.integerIn 8 text
  | _ =>
    if text.contains (.char ':') then sixtyBased (Symbol.splitAt ':' text)
    else Value.integerIn 10 text

/-- The integer of a scalar. -/
def integerOf (text : List Symbol) : Except Fault Int :=
  let (negative, magnitude) := signed (withoutBars text)
  (magnitudeOf magnitude).map fun n => if negative then -n else n

/-- A floating-point number in base ten. -/
def floatIn (text : List Symbol) : Except Fault Float :=
  match Decimal.read? (Text.trimBlank (text.map Symbol.toChar)) with
  | some x => .ok x
  | none => .error (.notFloat (Text.quotedSymbols text))

/-- Floating-point numbers one after another, up to the first fault. -/
def floatsIn : List (List Symbol) → Except Fault (List Float)
  | [] => .ok []
  | part :: rest =>
    match floatIn part with
    | .ok x => (floatsIn rest).map (x :: ·)
    | .error fault => .error fault

/-- Parts in base sixty, the least significant first, added up from `sum` on; `weight` is the
weight of the first. -/
def sixtyFloat (sum : Float) (weight : Nat) : List Float → Except Fault Float
  | [] => .ok sum
  | x :: rest =>
    if weight < Decimal.beyondDoubles then
      sixtyFloat (sum + x * Float.ofNat weight) (weight * 60) rest
    else .error .beyondDoubles

/-- A floating-point number in base sixty. -/
def sixtyFloatIn (text : List Symbol) : Except Fault Float :=
  match floatsIn (Symbol.splitAt ':' text) with
  | .ok parts => sixtyFloat 0.0 1 parts.reverse
  | .error fault => .error fault

/-- The floating-point number of a scalar. -/
def floatOf (text : List Symbol) : Except Fault Value :=
  let text := Text.lowerSymbols (withoutBars text)
  let (negative, magnitude) := signed text
  let sign : Float := if negative then -1.0 else 1.0
  if text.isEmpty then .error .numberEmpty
  else if magnitude = Symbol.ofChars ".inf".toList then .ok (.float (sign * (1.0 / 0.0)))
  else if magnitude = Symbol.ofChars ".nan".toList then .ok .undefined
  else
    (if magnitude.contains (.char ':') then sixtyFloatIn magnitude else floatIn magnitude).map
      fun x => .float (sign * x)

/-! ## Other scalars -/

/-- The truth value of a scalar. -/
def boolOf (text : List Symbol) : Except Fault Bool :=
  let word := Text.lowerSymbols text
  match Symbol.chars? word with
  | some chars =>
    match boolWords.lookup (String.ofList chars) with
    | some b => .ok b
    | none => .error (.notTruthValue (Text.quotedSymbols word))
  | none => .error (.notTruthValue (Text.quotedSymbols word))

/-- Six digits of a fraction as microseconds. -/
def microseconds (digits : List Char) : Nat :=
  let kept := digits.take 6
  (kept ++ List.replicate (6 - kept.length) '0').foldl
    (fun n d => n * 10 + (d.toNat - '0'.toNat)) 0

/-- The point in time of a scalar. -/
def timeOf (text : List Symbol) : Except Fault Timestamp :=
  match (Symbol.chars? text).bind fun chars => timeForm? false (withoutLineEnd chars) with
  | none => .error .notTimestamp
  | some form =>
    let time : Timestamp :=
      ⟨form.year, form.month, form.day,
        form.clock.map fun (hour, minute, second, fraction) =>
          ⟨hour, minute, second, microseconds fraction, form.offset⟩⟩
    if 1440 ≤ (form.offset.getD 0).natAbs then
      .error (.impossibleTime ("offset must be a timedelta strictly between " ++
        "-timedelta(hours=24) and timedelta(hours=24), not " ++
        Timestamp.deltaShown (form.offset.getD 0) ++ "."))
    else
      match time.fault? with
      | some message => .error (.impossibleTime message)
      | none => .ok time

/-- The bytes of a scalar. -/
def bytesOf (text : List Symbol) : Except Fault (List UInt8) :=
  let bytes := (Symbol.chars? text).bind fun chars =>
    if chars.all fun c => c.toNat < 128 then Text.base64? chars else none
  wellFormed bytes

/-- The value of the node at a place as a scalar.  A point in time needs a text of its own. -/
def Graph.scalarValue (g : Graph) (place : Nat) : Except Fault Value := do
  match (g.node place).tag with
  | .null => (g.text place).map fun _ => .null
  | .str => (g.text place).map Value.ofSymbols
  | .bool => return .bool (← boolOf (← g.text place))
  | .int => return .int (← integerOf (← g.text place))
  | .float => floatOf (← g.text place)
  | .binary => return .bytes (← bytesOf (← g.text place))
  | .timestamp =>
    let text ← g.text place
    match (g.node place).content with
    | .scalar _ => return .time (← timeOf text)
    | _ => .error .timestampNotText
  | .omap | .pairs | .set | .seq | .map | .merge | .value | .unknown => .error .malformedDocument

end Chip8.Yaml
