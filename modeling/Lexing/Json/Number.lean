import Lexing.Json.Basic

/-! # Numbers in JSON

A number is read into a significand and a power of ten. The significand is a 64-bit number; the
digits that do not fit are dropped, and those before the point raise the power. Whether a number is
too large for a double is decided exactly, by rounding significand and power as a double does.
-/

namespace Lexing.Json

/-- A number as it was read. -/
structure Numeral where
  negative : Bool
  significand : Nat
  exponent : Int
  /-- Neither point nor exponent was written, and no digit was dropped. -/
  whole : Bool
deriving DecidableEq, Repr

namespace Numeral

/-- The greatest significand. -/
def maxSignificand : Nat := UInt64.size - 1

/-- Append digits to a significand as long as it fits. The answer also counts the digits dropped. -/
def absorb : Nat → List Char → Nat × Nat
  | significand, [] => (significand, 0)
  | significand, c :: rest =>
    let next := significand * 10 + (c.toNat - '0'.toNat)
    if next ≤ maxSignificand then absorb next rest else (significand, rest.length + 1)

/-- The closest number of 53 significant bits; halfway between two, the even one. -/
def roundToDouble (n : Nat) : Nat :=
  let unit := 1 <<< (n.log2 - 52)
  let kept := n / unit
  let twiceLost := 2 * (n % unit)
  if twiceLost > unit ∨ (twiceLost = unit ∧ kept % 2 = 1) then (kept + 1) * unit
  else kept * unit

/-- Whether the number is too large for a double. -/
def overflows (numeral : Numeral) : Bool :=
  !numeral.whole && numeral.significand != 0 && 0 ≤ numeral.exponent &&
    (308 < numeral.exponent ||
      1 <<< 1024 - 1 <<< 970 ≤
        roundToDouble numeral.significand * roundToDouble (Nat.pow 10 numeral.exponent.toNat))

/-- The value of a whole number of 32 bits. Minus zero is none. -/
def toInt32? (numeral : Numeral) : Option Int32 :=
  let value : Int := if numeral.negative then -numeral.significand else numeral.significand
  if numeral.whole ∧ ¬(numeral.negative ∧ numeral.significand = 0) ∧
      Int32.minValue.toInt ≤ value ∧ value ≤ Int32.maxValue.toInt then
    some (Int32.ofInt value)
  else none

end Numeral

/-- The digits at the beginning of a text, at least one, and the text after them. -/
def readDigits (text : List Char) : Except Error (List Char × List Char) :=
  match text with
  | [] => .error .truncated
  | c :: _ =>
    if Text.isDigit c then .ok (text.takeWhile Text.isDigit, text.dropWhile Text.isDigit)
    else .error .malformed

/-- The digits before the point: a leading zero stands alone. -/
def readWholePart (text : List Char) : Except Error (List Char × List Char) := do
  let (digits, rest) ← readDigits text
  if digits.head? = some '0' ∧ digits.length ≠ 1 then .error .malformed else return (digits, rest)

/-- The digits behind a point, if there is one. -/
def readFraction : List Char → Except Error (Option (List Char) × List Char)
  | '.' :: rest => do
    let (digits, rest) ← readDigits rest
    return (some digits, rest)
  | text => return (none, text)

/-- The power of ten behind an exponent mark, if there is one. -/
def readExponent (text : List Char) : Except Error (Option Int × List Char) :=
  match text with
  | c :: rest =>
    if c = 'e' ∨ c = 'E' then do
      let (negative, rest) := match rest with
        | '+' :: rest => (false, rest)
        | '-' :: rest => (true, rest)
        | rest => (false, rest)
      let (digits, rest) ← readDigits rest
      let power : Nat := digits.foldl (fun n c => n * 10 + (c.toNat - '0'.toNat)) 0
      return (some (if negative then -(power : Int) else power), rest)
    else return (none, text)
  | [] => return (none, text)

/-- A number behind its sign. -/
def readNumeral (negative : Bool) (text : List Char) : Except Error (Numeral × List Char) := do
  let (digits, text) ← readWholePart text
  let (fraction, text) ← readFraction text
  let (power, text) ← readExponent text
  let (significand, dropped) := Numeral.absorb 0 digits
  let decimals := fraction.getD []
  let (significand, droppedDecimals) := Numeral.absorb significand decimals
  let numeral : Numeral := {
    negative
    significand
    exponent := (dropped : Int) - (decimals.length - droppedDecimals : Nat) + power.getD 0
    whole := dropped = 0 ∧ fraction.isNone ∧ power.isNone }
  if numeral.overflows then .error .malformed else return (numeral, text)

/-- The text after a number whose value does not matter. A number that ends too early is taken for a
malformed one here. -/
def skipNumeral (text : List Char) : Except Error (List Char) :=
  let parts := do
    let (_, text) ← readWholePart text
    let (_, text) ← readFraction text
    let (_, text) ← readExponent text
    return text
  match parts with
  | .ok text => .ok text
  | .error _ => .error .malformed

/-- Whether a number starts with a character, a sign aside. -/
def startsNumber (c : Char) : Bool := Text.isDigit c || c == '-'

/-- A number with its sign. -/
def readNumber : List Char → Except Error (Numeral × List Char)
  | '-' :: rest => readNumeral true rest
  | text => readNumeral false text

/-- The text after a number with its sign. -/
def skipNumber : List Char → Except Error (List Char)
  | '-' :: rest => skipNumeral rest
  | text => skipNumeral text

end Lexing.Json
