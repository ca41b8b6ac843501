import Lexing.Text.CharClass

/-! # Reading JSON

A reader takes the text that is left and answers with a value and the text after it. Of an error
only its class is kept, and the first error met in reading order is the one that counts.
-/

namespace Lexing.Json

/-- What is wrong with a JSON text. -/
inductive Error
  /-- The text is no JSON. -/
  | malformed
  /-- The text is JSON as far as it was read, but not of the form asked for. -/
  | mismatched
  /-- The text ends too early. -/
  | truncated
deriving DecidableEq, Repr

/-- The text after leading white space. -/
def skipBlanks (text : List Char) : List Char := text.dropWhile Text.isSpace

/-- The text after a word that has to come next. -/
def readWord : List Char → List Char → Except Error (List Char)
  | [], text => .ok text
  | _ :: _, [] => .error .truncated
  | expected :: word, c :: rest =>
    if c = expected then readWord word rest else .error .malformed

theorem readWord_length_le {word text rest : List Char} (success : readWord word text = .ok rest) :
    rest.length ≤ text.length := by
  induction word generalizing text with
  | nil => simp_all [readWord]
  | cons expected word ih =>
    cases text with
    | nil => simp [readWord] at success
    | cons c tail =>
      simp only [readWord] at success
      split at success
      · have := ih success
        simp only [List.length_cons]
        omega
      · contradiction

/-- The text after a mark that has to come next, behind white space. -/
def readMark (mark : Char) (text : List Char) : Except Error (List Char) :=
  readWord [mark] (skipBlanks text)

/-- A reader for a text that has to hold one value and nothing more. -/
def readWhole {α : Type} (read : List Char → Except Error (α × List Char)) (text : List Char) :
    Except Error α := do
  let (value, rest) ← read text
  if (skipBlanks rest).isEmpty then return value else .error .malformed

end Lexing.Json
