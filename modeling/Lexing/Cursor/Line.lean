import Lexing.Cursor

/-! # Lines

A cursor knows the line it is on only as far as it is told: whoever passes a line terminator says so
once. A cursor that goes back after that may stand before the start of its current line; the column
is then zero, and the text of the line starts no later than it stops.
-/

namespace Lexing

/-- Where the text of a line stops. -/
inductive LineEnd
  /-- At the next line feed. -/
  | terminator
  /-- This many characters past the position. -/
  | chars (count : Nat)
  /-- At the next occurrence of a string. -/
  | needle (text : String)
deriving DecidableEq, Repr

namespace Cursor

/-- Note that a line terminator has just been passed. -/
def markNewLine (c : Cursor) : Cursor := { c with line := c.line + 1, lineStart := c.pos }

/-- The column of the position, in characters. -/
def linePosition (c : Cursor) : Nat :=
  match c.source.slice? c.lineStart c.pos with
  | some text => text.length
  | none => 0

/-- The offset at which the text of the line stops. What does not occur any more is taken to stand
at the end of the text. -/
def lineStop (c : Cursor) : LineEnd → Except Fault Nat
  | .terminator => return c.pos + Text.byteSize ((← c.rest).takeWhile (· != '\n'))
  | .chars count => c.offsetAfter c.pos count
  | .needle text => do
    match Text.offsetOf? text.toList (← c.rest) with
    | some distance => return c.pos + distance
    | none => return c.size

/-- The text of the current line up to its stop. -/
def lineText (c : Cursor) (lineEnd : LineEnd) : Except Fault String := do
  let stop ← c.lineStop lineEnd
  return String.ofList (← c.textBetween (min c.lineStart stop) stop)

end Cursor

end Lexing
