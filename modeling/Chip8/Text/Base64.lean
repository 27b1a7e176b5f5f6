/-!
# Bytes in base sixty-four

Four letters stand for three bytes; an equals sign fills up the last group.  Characters that
are no letters are passed over.  What follows a complete filling is not looked at.
-/

namespace Chip8.Text

set_option autoImplicit false

/-- The value of a letter. -/
def base64Letter? (c : Char) : Option Nat :=
  if 'A' ≤ c ∧ c ≤ 'Z' then some (c.toNat - 'A'.toNat)
  else if 'a' ≤ c ∧ c ≤ 'z' then some (c.toNat - 'a'.toNat + 26)
  else if '0' ≤ c ∧ c ≤ '9' then some (c.toNat - '0'.toNat + 52)
  else if c = '+' then some 62
  else if c = '/' then some 63
  else none

/-- Reads letters; `held` are the values of the present group in reverse order and `fills` the
equals signs since its last letter. -/
def base64From (held : List Nat) (fills : Nat) : List Char → Option (List UInt8)
  | [] => if held.isEmpty then some [] else none
  | c :: rest =>
    if c = '=' then
      match held with
      | [b, a] =>
        if 1 ≤ fills then some [UInt8.ofNat (a * 4 + b / 16)] else base64From held (fills + 1) rest
      | [d, b, a] => some [UInt8.ofNat (a * 4 + b / 16), UInt8.ofNat (b % 16 * 16 + d / 4)]
      | _ => base64From held fills rest
    else
      match base64Letter? c with
      | none => base64From held fills rest
      | some e =>
        match held with
        | [d, b, a] =>
          (base64From [] 0 rest).map fun more =>
            UInt8.ofNat (a * 4 + b / 16) :: UInt8.ofNat (b % 16 * 16 + d / 4) ::
              UInt8.ofNat (d % 4 * 64 + e) :: more
        | _ => base64From (e :: held) 0 rest

/-- The bytes of a text. -/
def base64? (text : List Char) : Option (List UInt8) := base64From [] 0 text

end Chip8.Text
