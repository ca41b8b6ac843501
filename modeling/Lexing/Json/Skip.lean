import Lexing.Json.Number
import Lexing.Json.Text

/-! # Skipping JSON values

A field that is not asked for is skipped. Its value has to be JSON, but numbers may have any size
and strings may hold lone surrogates. The brackets that are open are kept in a list, innermost
first.
-/

namespace Lexing.Json

/-- A bracket that is open. -/
inductive Bracket
  | array
  | object
deriving DecidableEq, Repr

/-- The character that closes a bracket. -/
def Bracket.closer : Bracket → Char
  | .array => ']'
  | .object => '\x7d'

/-- The text after a key with its colon. -/
def skipKey (text : List Char) : Except Error (List Char) := do
  readMark ':' (← skipChars (← readMark '"' text))

/-- The text after a value that holds no other, behind white space. -/
def skipScalar : List Char → Except Error (List Char)
  | [] => .error .truncated
  | c :: rest =>
    match c with
    | 'n' => readWord "ull".toList rest
    | 't' => readWord "rue".toList rest
    | 'f' => readWord "alse".toList rest
    | '"' => skipChars rest
    | _ => if startsNumber c then skipNumber (c :: rest) else .error .malformed

/-- The text before the next element of a bracket, behind its key if it has one. -/
def skipToElement (bracket : Bracket) (text : List Char) : Except Error (List Char) :=
  match bracket with
  | .array => .ok text
  | .object => skipKey text

/-- Close brackets after a value. The answer is the text after the outermost bracket, or the
brackets that stay open and the text of the next value in them. -/
def closeBrackets : List Bracket → List Char → Except Error (List Bracket × List Char)
  | [], text => .ok ([], text)
  | bracket :: rest, text =>
    match skipBlanks text with
    | [] => .error .truncated
    | c :: after =>
      if c = bracket.closer then closeBrackets rest after
      else if c = ',' then do
        return (bracket :: rest, ← skipToElement bracket after)
      else .error .malformed

/-- Pass a value that holds no other, an empty bracket, or the opening of one that is not empty. The
answer is as for `closeBrackets`. -/
def passItem (brackets : List Bracket) (text : List Char) :
    Except Error (List Bracket × List Char) := do
  let opened? : Option (Bracket × List Char) := match skipBlanks text with
    | '[' :: rest => some (.array, rest)
    | '\x7b' :: rest => some (.object, rest)
    | _ => none
  match opened? with
  | none => closeBrackets brackets (← skipScalar (skipBlanks text))
  | some (bracket, rest) =>
    if (skipBlanks rest).head? = some bracket.closer then
      closeBrackets brackets (← readMark bracket.closer rest)
    else return (bracket :: brackets, ← skipToElement bracket rest)

/-- Pass items until no bracket is open, so many at most. -/
def skipWithin : Nat → List Bracket → List Char → Except Error (List Char)
  | 0, _, _ => .error .truncated
  | items + 1, brackets, text => do
    let (brackets, text) ← passItem brackets text
    if brackets.isEmpty then return text else skipWithin items brackets text

/-- The text after a value of so many items at most. Every item takes at least one character. -/
def skipValue (items : Nat) (text : List Char) : Except Error (List Char) := skipWithin items [] text

end Lexing.Json
