/-! # Quoted display of characters and strings

Display text stands between two delimiters. The delimiter and the backslash are escaped, the common
control characters have short names, and any other control character is written by its code.
-/

namespace Lexing.Text

/-- Control characters have no visible form of their own. -/
def isControl (c : Char) : Bool := c.toNat < 0x20 || (0x7F ≤ c.toNat && c.toNat < 0xA0)

/-- One character inside a quoted display. -/
def displayChar (delimiter c : Char) : List Char :=
  if c = delimiter ∨ c = '\\' then ['\\', c]
  else if c = '\n' then ['\\', 'n']
  else if c = '\r' then ['\\', 'r']
  else if c = '\t' then ['\\', 't']
  else if c = '\x00' then ['\\', '0']
  else if isControl c then "\\u\x7b".toList ++ Nat.toDigits 16 c.toNat ++ ['\x7d']
  else [c]

/-- A text between two delimiters. -/
def display (delimiter : Char) (text : List Char) : String :=
  String.ofList (delimiter :: text.flatMap (displayChar delimiter) ++ [delimiter])

/-- Visible ASCII characters and the space. -/
def isPlain (c : Char) : Bool := 0x20 ≤ c.toNat && c.toNat ≤ 0x7E

end Lexing.Text
