/-!
# Blank characters

The characters that may surround a written number.  Within ASCII they are the
space and the five control characters from the tabulator to the carriage return;
beyond it they are the characters with the white space property.
-/

namespace Chip8.Text

set_option autoImplicit false

/-- Whether a character may stand before or after a written number. -/
def isBlank (c : Char) : Bool :=
  let code := c.toNat
  if code < 128 then code == 0x20 || (0x09 ≤ code && code ≤ 0x0D)
  else code == 0x85 || code == 0xA0 || code == 0x1680 || (0x2000 ≤ code && code ≤ 0x200A) ||
    code == 0x2028 || code == 0x2029 || code == 0x202F || code == 0x205F || code == 0x3000

/-- A text without the blank characters at both ends. -/
def trimBlank (text : List Char) : List Char :=
  ((text.dropWhile isBlank).reverse.dropWhile isBlank).reverse

end Chip8.Text
