import Chip8.Text.Symbol

/-!
# Tags

A tag says what kind of value a node stands for.  A node can have its tag written before
it; a plain scalar without one gets it from its form: the words for truth values and for
nothing, the forms of integers, floating-point numbers and points in time, the merge mark
and the value mark.  All other nodes without a tag are text, lists or mappings.

Integers and floating-point numbers may be written with underscores, integers also in base
two, eight or sixteen, and both in base sixty with colons.  A floating-point number needs a
point, and its exponent a sign.

A line feed at the end of a text does not change its form.
-/

namespace Chip8.Yaml

set_option autoImplicit false

/-- The kinds of values. -/
inductive Tag where
  | null
  | bool
  | int
  | float
  | binary
  | timestamp
  | omap
  | pairs
  | set
  | str
  | seq
  | map
  | merge
  | value
  /-- Any other tag. -/
  | unknown
  deriving DecidableEq, Repr

namespace Tag

/-- What the tags of the language begin with. -/
def standardLead : String := "tag:yaml.org,2002:"

/-- The tags with their names. -/
def named : List (String × Tag) :=
  [("null", null), ("bool", bool), ("int", int), ("float", float), ("binary", binary),
    ("timestamp", timestamp), ("omap", omap), ("pairs", pairs), ("set", set), ("str", str),
    ("seq", seq), ("map", map), ("merge", merge), ("value", value)]

/-- The tag with a full name. -/
def ofName (name : String) : Tag :=
  match named.find? fun entry => standardLead ++ entry.1 == name with
  | some entry => entry.2
  | none => unknown

end Tag

/-! ## Forms of plain scalars -/

/-- Words for truth values. -/
def boolWords : List (String × Bool) :=
  [("yes", true), ("Yes", true), ("YES", true), ("no", false), ("No", false), ("NO", false),
    ("true", true), ("True", true), ("TRUE", true), ("false", false), ("False", false),
    ("FALSE", false), ("on", true), ("On", true), ("ON", true), ("off", false), ("Off", false),
    ("OFF", false)]

/-- Words for nothing. -/
def nullWords : List String := ["", "~", "null", "Null", "NULL"]

/-- A text without its sign, if it has one. -/
def unsigned : List Char → List Char
  | '-' :: rest => rest
  | '+' :: rest => rest
  | text => text

/-- Whether a text is one or more characters with a property. -/
def isRun (property : Char → Bool) (text : List Char) : Bool := !text.isEmpty && text.all property

/-- Whether a character is a digit or an underscore. -/
def isDigitOrBar (c : Char) : Bool := c.isDigit || c = '_'

/-- The parts of a text between its colons. -/
def sixtyParts (text : List Char) : List (List Char) :=
  ((String.ofList text).splitOn ":").map String.toList

/-- Whether a text is a part in base sixty: a digit, or a digit up to five and another. -/
def isSixtyPart : List Char → Bool
  | [a] => a.isDigit
  | [a, b] => a.isDigit && a ≤ '5' && b.isDigit
  | _ => false

/-- Whether a text is one or more parts in base sixty, each after a colon. -/
def isSixties : List Char → Bool
  | ':' :: rest => (sixtyParts rest).all isSixtyPart
  | _ => false

/-- Whether a text without sign is the first part of a number in base sixty, with the given
digits allowed first, and parts after it. -/
def isSixtyBased (first : Char → Bool) (text : List Char) : Bool :=
  match text with
  | c :: rest => first c && isSixties (rest.dropWhile isDigitOrBar)
  | [] => false

/-- Whether a text has the form of an integer. -/
def isInt (text : List Char) : Bool :=
  match unsigned text with
  | '0' :: 'b' :: rest => isRun (fun c => c = '0' || c = '1' || c = '_') rest
  | '0' :: 'x' :: rest =>
    isRun (fun c => isDigitOrBar c || ('a' ≤ c && c ≤ 'f') || ('A' ≤ c && c ≤ 'F')) rest
  | ['0'] => true
  | '0' :: rest => rest.all fun c => ('0' ≤ c && c ≤ '7') || c = '_'
  | c :: rest =>
    ('1' ≤ c && c ≤ '9') &&
      (rest.all isDigitOrBar || isSixtyBased (fun c => '1' ≤ c && c ≤ '9') (c :: rest))
  | [] => false

/-- Whether a text is nothing or an exponent with its sign. -/
def isExponent : List Char → Bool
  | [] => true
  | e :: sign :: rest =>
    (e = 'e' || e = 'E') && (sign = '-' || sign = '+') && isRun Char.isDigit rest
  | _ => false

/-- Whether a text without sign is digits, a point and what may follow it. -/
def isPointed (text : List Char) : Bool :=
  match text with
  | c :: rest =>
    c.isDigit &&
      match rest.dropWhile isDigitOrBar with
      | '.' :: more => isExponent (more.dropWhile isDigitOrBar)
      | _ => false
  | [] => false

/-- Whether a text without sign is in base sixty with a point after the last part. -/
def isSixtyPointed (text : List Char) : Bool :=
  let whole := text.takeWhile (· ≠ '.')
  match text.drop whole.length with
  | '.' :: rest => rest.all isDigitOrBar && isSixtyBased Char.isDigit whole
  | _ => false

/-- Whether a text has the form of a floating-point number. -/
def isFloat (text : List Char) : Bool :=
  isPointed (unsigned text) || isSixtyPointed (unsigned text) ||
    [".inf", ".Inf", ".INF"].contains (String.ofList (unsigned text)) ||
    [".nan", ".NaN", ".NAN"].contains (String.ofList text) ||
    match text with
    | '.' :: c :: rest => c.isDigit && isExponent (rest.dropWhile isDigitOrBar)
    | _ => false

/-! ## Points in time -/

/-- A run of one to `most` digits, or exactly `most`, as a number, and what follows. -/
def digitGroup (most : Nat) (exact : Bool) (text : List Char) : Option (Nat × List Char) :=
  let digits := (text.take most).takeWhile Char.isDigit
  if digits.isEmpty || (exact && digits.length < most) then none
  else
    some (digits.foldl (fun n d => n * 10 + (d.toNat - '0'.toNat)) 0, text.drop digits.length)

/-- What follows a character. -/
def after (c : Char) : List Char → Option (List Char)
  | d :: rest => if c = d then some rest else none
  | [] => none

/-- The parts of a point in time as they are written. -/
structure TimeForm where
  year : Nat
  month : Nat
  day : Nat
  /-- Hour, minute, second, and the digits after the point. -/
  clock : Option (Nat × Nat × Nat × List Char)
  /-- Minutes from universal time. -/
  offset : Option Int

/-- An offset at the end of a text. -/
def offsetForm (text : List Char) : Option (Option Int) :=
  match text with
  | [] => some none
  | _ =>
    match text.dropWhile (fun c => c = ' ' || c = '\t') with
    | ['Z'] => some (some 0)
    | sign :: rest =>
      if sign = '-' ∨ sign = '+' then do
        let (hours, rest) ← digitGroup 2 false rest
        let minutes ←
          match rest with
          | [] => some 0
          | _ => do
            let (minutes, rest) ← digitGroup 2 true (← after ':' rest)
            if rest.isEmpty then some minutes else none
        let offset : Int := (hours * 60 + minutes : Nat)
        some (some (if sign = '-' then -offset else offset))
      else none
    | [] => none

/-- The time of day in the rest of a text. -/
def clockForm (text : List Char) : Option ((Nat × Nat × Nat × List Char) × Option Int) := do
  let rest ←
    match text with
    | 'T' :: rest | 't' :: rest => some rest
    | c :: _ =>
      if c = ' ' ∨ c = '\t' then some (text.dropWhile fun c => c = ' ' || c = '\t') else none
    | [] => none
  let (hour, rest) ← digitGroup 2 false rest
  let (minute, rest) ← digitGroup 2 true (← after ':' rest)
  let (second, rest) ← digitGroup 2 true (← after ':' rest)
  let (fraction, rest) :=
    match rest with
    | '.' :: more => more.span Char.isDigit
    | _ => ([], rest)
  let offset ← offsetForm rest
  some ((hour, minute, second, fraction), offset)

/-- The parts of a text that has the form of a point in time.  A date by itself that is to be
told by its form has all its digits. -/
def timeForm? (byForm : Bool) (text : List Char) : Option TimeForm := do
  let (year, rest) ← digitGroup 4 true text
  let (month, rest) ← digitGroup 2 false (← after '-' rest)
  let (day, rest) ← digitGroup 2 false (← after '-' rest)
  if rest.isEmpty then
    if !byForm || text.length = 10 then some ⟨year, month, day, none, none⟩ else none
  else
    let (clock, offset) ← clockForm rest
    some ⟨year, month, day, some clock, offset⟩

/-! ## Tags by form -/

/-- A text without a line feed at its end, unless that is all of it. -/
def withoutLineEnd (text : List Char) : List Char :=
  if text.length ≠ 1 ∧ text.getLast? = some '\n' then text.dropLast else text

/-- Marks that are reserved. -/
def reservedMarks : List String := ["!", "&", "*"]

/-- The tag of characters by their form. -/
def Tag.ofChars (text : List Char) : Tag :=
  let word := String.ofList text
  if nullWords.contains word then .null
  else if (boolWords.lookup word).isSome then .bool
  else if isFloat text then .float
  else if isInt text then .int
  else if (timeForm? true text).isSome then .timestamp
  else if word = "<<" then .merge
  else if word = "=" then .value
  else if reservedMarks.contains word then .unknown
  else .str

/-- The tag that a plain scalar has by its form. -/
def Tag.ofPlain (text : List Text.Symbol) : Tag :=
  match Text.Symbol.chars? text with
  | some chars => Tag.ofChars (withoutLineEnd chars)
  | none => .str

end Chip8.Yaml
