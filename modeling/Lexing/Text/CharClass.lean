import Lexing.Text.Case

/-! # Character classes

The classes that lexical rules are written with. A class is a total test on characters; `CharClass`
names each of them, so that a whole range of characters can be surveyed class by class.
-/

namespace Lexing

namespace Text

/-- Code ranges of the characters that may start a name: ASCII letters, the underscore and the
letters and ideographs beyond ASCII. The colon is left out, as grammars want it as a separator. -/
def nameStartRanges : List (Nat × Nat) :=
  [(0x41, 0x5A), (0x61, 0x7A), (0x5F, 0x5F), (0xC0, 0xD6), (0xD8, 0xF6), (0xF8, 0x2FF),
   (0x370, 0x37D), (0x37F, 0x1FFF), (0x200C, 0x200D), (0x2070, 0x218F), (0x2C00, 0x2FEF),
   (0x3001, 0xD7FF), (0xF900, 0xFDCF), (0xFDF0, 0xFFFD), (0x10000, 0xEFFFF)]

/-- Characters that may start a name. -/
def isNameStart (c : Char) : Bool :=
  nameStartRanges.any fun (first, last) => first ≤ c.toNat && c.toNat ≤ last

/-- The ASCII digits. -/
def isDigit (c : Char) : Bool := '0' ≤ c && c ≤ '9'

/-- Characters that may continue a name: those that may start one, digits, `-` and `&`. -/
def isNameChar (c : Char) : Bool := isNameStart c || isDigit c || c == '-' || c == '&'

/-- Space, tab, carriage return and line feed. -/
def isSpace (c : Char) : Bool := c == ' ' || c == '\t' || c == '\r' || c == '\n'

/-- The ASCII hexadecimal digits, in either case. -/
def isHexDigit (c : Char) : Bool :=
  isDigit c || ('a' ≤ c && c ≤ 'f') || ('A' ≤ c && c ≤ 'F')

/-- The line feed alone ends a line. -/
def isEndOfLine (c : Char) : Bool := c == '\n'

/-- The single and the double quote. -/
def isQuote (c : Char) : Bool := c == '"' || c == '\''

/-- A quoted value holds anything but a line feed. -/
def isQuotable (c : Char) : Bool := c != '\n'

/-- A letter has an upper-case form that differs from its lower-case form. -/
def isLetter (c : Char) : Bool := upper c != lower c

/-- A letter that is its own upper-case form. -/
def isUpperCase (c : Char) : Bool := isLetter c && upper c == [c]

/-- A letter that is its own lower-case form. -/
def isLowerCase (c : Char) : Bool := isLetter c && lower c == [c]

/-- The class of the characters that occur in a string. -/
def oneOf (members : String) (c : Char) : Bool := members.toList.contains c

/-- The class of the characters that do not occur in a string. -/
def noneOf (members : String) (c : Char) : Bool := !oneOf members c

end Text

/-- The named character classes. -/
inductive CharClass
  | nameStart
  | nameChar
  | space
  | digit
  | hexDigit
  | endOfLine
  | quote
  | quotable
  | letter
  | upperCase
  | lowerCase
deriving DecidableEq, Repr

namespace CharClass

/-- Every class, in the order of a membership row. -/
def all : List CharClass :=
  [nameStart, nameChar, space, digit, hexDigit, endOfLine, quote, quotable, letter, upperCase,
   lowerCase]

/-- Whether a character belongs to the class. -/
def holds : CharClass → Char → Bool
  | nameStart => Text.isNameStart
  | nameChar => Text.isNameChar
  | space => Text.isSpace
  | digit => Text.isDigit
  | hexDigit => Text.isHexDigit
  | endOfLine => Text.isEndOfLine
  | quote => Text.isQuote
  | quotable => Text.isQuotable
  | letter => Text.isLetter
  | upperCase => Text.isUpperCase
  | lowerCase => Text.isLowerCase

/-- The classes a character belongs to, as one mark per class in the order of `all`. -/
def membership (c : Char) : List Bool := all.map (·.holds c)

end CharClass

namespace Text

/-- The characters with code points from `first` to `last`; the surrogate gap holds none. -/
def charsBetween (first last : Nat) : List Char :=
  ((List.range' first (last + 1 - first)).filter fun code => decide code.isValidChar).map
    Char.ofNat

/-- The maximal runs of members in a list of characters, each as its first and last character.
`running` is the run that is still open. -/
def runsFrom (member : Char → Bool) : Option (Char × Char) → List Char → List (Char × Char)
  | running, [] => running.toList
  | running, c :: rest =>
    if member c then runsFrom member (some ((running.map (·.1)).getD c, c)) rest
    else running.toList ++ runsFrom member none rest

/-- The maximal runs of members among the characters between two code points. -/
def runsBetween (member : Char → Bool) (first last : Nat) : List (Char × Char) :=
  runsFrom member none (charsBetween first last)

end Text

end Lexing
