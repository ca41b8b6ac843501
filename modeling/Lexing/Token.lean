import Lexing.Text.Quoted

/-! # Token kinds and tokens

A kind is a 32-bit number that a grammar chooses. The number -1 is kept for the one-character tokens
that stand for input no rule recognizes. A token pairs a kind with the text it was made from.
-/

namespace Lexing

/-- The kind of a token, a number chosen by the grammar. -/
structure Kind where
  raw : Int32
deriving DecidableEq

namespace Kind

/-- The reserved kind of unrecognized characters. -/
def unknown : Kind := ⟨-1⟩

/-- Whether a kind is the reserved one. -/
def isUnknown (kind : Kind) : Bool := kind == unknown

/-- A whole number in decimal, with a minus sign if it is negative. -/
def decimalDigits (n : Int) : List Char :=
  if n < 0 then '-' :: Nat.toDigits 10 n.natAbs else Nat.toDigits 10 n.natAbs

/-- The number of a kind in decimal. -/
def decimal (kind : Kind) : String := String.ofList (decimalDigits kind.raw.toInt)

/-- A kind with its type shown; the reserved kind has a name of its own. -/
def describe (kind : Kind) : String :=
  if kind.isUnknown then "TokenType(UNKNOWN)" else s!"TokenType({kind.decimal})"

/-- Kinds are ordered as their numbers. -/
def ordered (a b : Kind) : Bool := a.raw ≤ b.raw

/-- Kinds from the least to the greatest. -/
def sort (kinds : List Kind) : List Kind := kinds.mergeSort ordered

end Kind

/-- A piece of source text with its kind. -/
structure Token where
  kind : Kind
  value : String
deriving DecidableEq

namespace Token

/-- The token of a character that no rule recognizes. -/
def unrecognized (c : Char) : Token := ⟨.unknown, String.ofList [c]⟩

/-- Whether a token stands for an unrecognized character. -/
def isUnknown (token : Token) : Bool := token.kind.isUnknown

/-- A token with its fields shown, for values of plain ASCII. -/
def describe? (token : Token) : Option String :=
  if token.value.toList.all Text.isPlain then
    let kind := token.kind.describe
    let value := Text.display '"' token.value.toList
    some s!"Token \x7b kind: {kind}, value: {value} \x7d"
  else none

end Token

end Lexing
