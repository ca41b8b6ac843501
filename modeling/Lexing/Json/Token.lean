import Lexing.Json.Skip
import Lexing.Token

/-! # Tokens in JSON

A kind is written as its number and a token as an object of its kind and its value. A token is also
read from an object whose fields come in another order or among other fields, and from an array of
kind and value.
-/

namespace Lexing

/-- A kind as JSON. -/
def Kind.toJson (kind : Kind) : String := kind.decimal

/-- A token as a JSON object, without blanks. -/
def Token.toJson (token : Token) : String :=
  String.ofList ("\x7b\"kind\":".toList ++ token.kind.toJson.toList ++ ",\"value\":".toList ++
    Json.writeText token.value.toList ++ ['\x7d'])

namespace Json

/-- The error of a text that starts a value of another type than the one asked for. The value is
read first, as far as it is not made of others, and an error in it counts. -/
def otherType : List Char → Error
  | [] => .truncated
  | c :: rest =>
    let read : Except Error Unit := match c with
      | '[' | '\x7b' => .ok ()
      | 'n' => (readWord "ull".toList rest).map fun _ => ()
      | 't' => (readWord "rue".toList rest).map fun _ => ()
      | 'f' => (readWord "alse".toList rest).map fun _ => ()
      | '"' => (readChars rest).map fun _ => ()
      | _ =>
        if startsNumber c then (readNumber (c :: rest)).map fun _ => () else .error .malformed
    match read with
    | .ok () => .mismatched
    | .error error => error

/-- A kind, as a number of 32 bits. -/
def readKind (text : List Char) : Except Error (Kind × List Char) := do
  let text := skipBlanks text
  if text.head?.any startsNumber then
    let (numeral, rest) ← readNumber text
    match numeral.toInt32? with
    | some raw => return (⟨raw⟩, rest)
    | none => .error .mismatched
  else .error (otherType text)

/-- A string. -/
def readString (text : List Char) : Except Error (String × List Char) := do
  let text := skipBlanks text
  match text with
  | '"' :: rest =>
    let (chars, rest) ← readChars rest
    return (String.ofList chars, rest)
  | _ => .error (otherType text)

/-- A token from the elements of an array, behind its opening bracket. -/
def readElements (text : List Char) : Except Error (Token × List Char) := do
  if (skipBlanks text).head? = some ']' then .error .mismatched
  else
    let (kind, text) ← readKind text
    if (skipBlanks text).head? = some ']' then .error .mismatched
    else
      let text ← readMark ',' text
      if (skipBlanks text).head? = some ']' then .error .malformed
      else
        let (value, text) ← readString text
        return (⟨kind, value⟩, ← readMark ']' text)

/-- The text behind the quote that opens the next key, or `none` at the end of the object. The first
key has no comma before it. -/
def nextKey? (first : Bool) (text : List Char) : Except Error (Option (List Char)) :=
  if (skipBlanks text).head? = some '\x7d' then .ok none
  else do
    let text ← if first then pure text else readMark ',' text
    return some (← readMark '"' text)

/-- A token from the fields of an object that are still to come, with so many fields at most, and as
many items in the value of each. The kind and the value may come only once. -/
def readFields : Nat → Bool → Option Kind → Option String → List Char →
    Except Error (Token × List Char)
  | 0, _, _, _, _ => .error .truncated
  | fields + 1, first, kind?, value?, text => do
    match ← nextKey? first text with
    | none =>
      match kind?, value? with
      | some kind, some value => return (⟨kind, value⟩, ← readMark '\x7d' text)
      | _, _ => .error .mismatched
    | some text =>
      let (key, text) ← readChars text
      if key = "kind".toList then
        if kind?.isSome then .error .mismatched
        else
          let (kind, text) ← readKind (← readMark ':' text)
          readFields fields false (some kind) value? text
      else if key = "value".toList then
        if value?.isSome then .error .mismatched
        else
          let (value, text) ← readString (← readMark ':' text)
          readFields fields false kind? (some value) text
      else
        let text ← skipValue fields (← readMark ':' text)
        readFields fields false kind? value? text

/-- A token, as an object or as an array. An object has fewer fields and items than its text has
characters. -/
def readToken (text : List Char) : Except Error (Token × List Char) :=
  match skipBlanks text with
  | '[' :: rest => readElements rest
  | '\x7b' :: rest => readFields (rest.length + 1) true none none rest
  | other => .error (otherType other)

end Json

/-- The kind that a JSON text stands for. -/
def Kind.ofJson (text : String) : Except Json.Error Kind :=
  Json.readWhole Json.readKind text.toList

/-- The token that a JSON text stands for. -/
def Token.ofJson (text : String) : Except Json.Error Token :=
  Json.readWhole Json.readToken text.toList

end Lexing
