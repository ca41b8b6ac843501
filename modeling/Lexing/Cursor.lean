import Lexing.Fault
import Lexing.Nesting
import Lexing.Source

/-! # Cursors over a text

A cursor divides a text into three parts: what has become tokens, the token in progress, and what
has not been tested. The token in progress lies between `start` and `pos`. Moving forward is
tentative until the text is extracted or committed; until then the cursor may go back as far as
`start`. Offsets count bytes and lengths count characters, and a length that reaches past the end of
the text stops there.

Beside the offsets a cursor carries the line it is on, the frames of pending tokens, and the error
with which a grammar stops the token stream.
-/

namespace Lexing

/-- A place in a text, with the token in progress. -/
structure Cursor where
  source : Source
  /-- Offset of the next untested character. -/
  pos : Nat := 0
  /-- Offset at which the token in progress starts. -/
  start : Nat := 0
  /-- Number of lines ended so far. -/
  line : Nat := 0
  /-- Offset at which the current line starts. -/
  lineStart : Nat := 0
  nesting : Nesting := {}
  canceled : Bool := false
  error : Option String := none
deriving DecidableEq

/-- How much of the token in progress is left out of an extracted value. -/
inductive Skip
  /-- This many characters from the start of the token. -/
  | chars (count : Nat)
  /-- Everything that has been tested. -/
  | consumed
deriving DecidableEq, Repr

namespace Cursor

/-- A cursor at the beginning of a text. -/
def ofString (text : String) : Cursor where
  source := .ofList text.toList

/-! ## Reading -/

/-- Length of the text in bytes. -/
def size (c : Cursor) : Nat := c.source.size

def isEmpty (c : Cursor) : Bool := c.source.chars.isEmpty

/-- Whether untested text remains. -/
def hasRemaining (c : Cursor) : Bool := c.pos < c.size

/-- The text before an offset, its last character first. -/
def textBefore (c : Cursor) (last : Nat) : Except Fault (List Char) :=
  match c.source.splitAt? last with
  | some (before, _) => .ok before
  | none => .error (.brokenSlice 0 last)

/-- The text from an offset on. -/
def textFrom (c : Cursor) (first : Nat) : Except Fault (List Char) :=
  match c.source.splitAt? first with
  | some (_, after) => .ok after
  | none => .error (.brokenSlice first c.size)

/-- The text between two offsets. -/
def textBetween (c : Cursor) (first last : Nat) : Except Fault (List Char) :=
  match c.source.slice? first last with
  | some piece => .ok piece
  | none => .error (.brokenSlice first last)

/-- The untested text. -/
def rest (c : Cursor) : Except Fault (List Char) := c.textFrom c.pos

/-- The text of the token in progress. -/
def pending (c : Cursor) : Except Fault (List Char) := c.textBetween c.start c.pos

/-- The text before the token in progress, its last character first. -/
def behind (c : Cursor) : Except Fault (List Char) := c.textBefore c.start

/-- The number of characters of the token in progress. -/
def consumed (c : Cursor) : Except Fault Nat := return (← c.pending).length

/-- The untested character that is `n` characters away. -/
def peek (c : Cursor) (n : Nat) : Except Fault (Option Char) := return (← c.rest)[n]?

/-- The next untested character. -/
def current (c : Cursor) : Except Fault (Option Char) := return (← c.rest).head?

/-- The offset `n` characters after `first`. -/
def offsetAfter (c : Cursor) (first n : Nat) : Except Fault Nat :=
  return first + Text.byteSize ((← c.textFrom first).take n)

/-! ## Moving -/

/-- The cursor itself, if its token in progress is a stretch of whole characters of the text. -/
def checked (c : Cursor) : Except Fault Cursor :=
  if c.pos < c.start then .error (.startPastPos c.start c.pos)
  else if c.size < c.pos then .error (.posPastEnd c.pos c.size)
  else if c.source.isBoundary c.pos && c.source.isBoundary c.start then .ok c
  else .error .offBoundary

/-- Test `n` more characters. The answer says whether untested text remains. -/
def advance (c : Cursor) (n : Nat) : Except Fault (Bool × Cursor) := do
  let pos ← c.offsetAfter c.pos n
  let c ← { c with pos }.checked
  return (c.hasRemaining, c)

/-- Pass `n` more characters and leave the token in progress behind, for good. -/
def commit (c : Cursor) (n : Nat) : Except Fault Cursor := do
  let pos ← c.offsetAfter c.pos n
  { c with pos, start := pos }.checked

/-- Give up the token in progress. -/
def rewind (c : Cursor) : Cursor := { c with pos := c.start }

/-- Go back to an earlier position of the token in progress. -/
def reset (c : Cursor) (checkpoint : Nat) : Except Fault Cursor :=
  if c.start ≤ checkpoint ∧ checkpoint ≤ c.pos then { c with pos := checkpoint }.checked
  else .error (.outsideAttempt checkpoint c.start c.pos)

/-- Take the token in progress together with `suffix` untested characters. The value leaves out
what `skip` says, and afterwards no token is in progress. -/
def extract (c : Cursor) (skip : Skip) (suffix : Nat) : Except Fault (String × Cursor) := do
  let stop ← c.offsetAfter c.pos suffix
  let first ← match skip with
    | .chars count => (min · stop) <$> c.offsetAfter c.start count
    | .consumed => pure c.pos
  let value ← c.textBetween first stop
  let c ← { c with pos := stop, start := stop }.checked
  return (String.ofList value, c)

/-- Take exactly the token in progress. -/
def extractAll (c : Cursor) : Except Fault (String × Cursor) := c.extract (.chars 0) 0

/-! ## Pending tokens -/

def push (c : Cursor) (token : Token) : Cursor := { c with nesting := c.nesting.push token }

def pop (c : Cursor) : Option Token × Cursor :=
  (c.nesting.pop.1, { c with nesting := c.nesting.pop.2 })

def pushLevel (c : Cursor) : Cursor := { c with nesting := c.nesting.pushLevel }

def popLevel (c : Cursor) : Except NestingError Cursor :=
  c.nesting.popLevel.map fun nesting => { c with nesting }

/-! ## Errors -/

def setError (c : Cursor) (message : String) : Cursor := { c with error := some message }

/-- Forget the error. A canceled cursor stays canceled. -/
def clearError (c : Cursor) : Cursor := { c with error := none }

/-- Record an error and ask the token stream to stop. -/
def cancel (c : Cursor) (message : String) : Cursor :=
  { c with error := some message, canceled := true }

end Cursor

end Lexing
