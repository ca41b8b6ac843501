import Lexing.Cursor.Line
import Lexing.Cursor.Lookup

/-! # Cursor operations as data

Every operation on a cursor is named by an `Op`, so that a history of a cursor is a list of
operations. Performing one gives an `Answer` and the cursor afterwards. Closing a nesting level that
cannot be closed is an answer, and the cursor goes on; a fault is none, and the history ends.
-/

namespace Lexing

/-- What a cursor shows of its text at a glance. -/
structure View where
  size : Nat
  isEmpty : Bool
  hasRemaining : Bool
  rest : String
  pending : String
  consumed : Nat
  current : Option Char
deriving DecidableEq

/-- The answer to an operation. -/
inductive Answer
  /-- The operation has nothing to tell. -/
  | done
  | view (view : View)
  | text (text : String)
  | char (char : Option Char)
  | flag (flag : Bool)
  | flags (flags : List Bool)
  | offset (offset : Nat)
  /-- The number of characters of a literal, if it matched. -/
  | width (width : Option Nat)
  /-- The side a matcher looks at, and the number of characters, if the literal matched. -/
  | sided (side : Side) (width : Option Nat)
  /-- The index and the number of characters of the first literal that matched. -/
  | entry (entry : Option (Nat × Nat))
  | indices (indices : List (Option Nat))
  | token (token : Option Token)
  | tokens (tokens : List Token)
  /-- A nesting level could not be closed. -/
  | refused (error : NestingError)
deriving DecidableEq

namespace Cursor

/-- The operations on a cursor. -/
inductive Op
  | view
  | text
  | peek (n : Nat)
  | advance (n : Nat)
  | commit (n : Nat)
  | rewind
  | reset (checkpoint : Nat)
  | extract (skip : Skip) (suffix : Nat)
  | matchLiteral (literal : String) (lookup : Lookup)
  | matchWith (literal : String) (matcher : Matcher)
  | matchAny (set : Literals) (lookup : Lookup)
  | matchAnyWith (set : Literals) (matcher : Matcher)
  | isNear (literal : String)
  | indexNear (set : Literals)
  | markNewLine
  | lineText (lineEnd : LineEnd)
  | push (token : Token)
  | pop
  | last
  | pushLevel
  | popLevel
  | setError (message : String)
  | clearError
  | cancel (message : String)

/-- What the cursor shows of its text. -/
def view (c : Cursor) : Except Fault View := do
  let rest ← c.rest
  let pending ← c.pending
  return {
    size := c.size
    isEmpty := c.isEmpty
    hasRemaining := c.hasRemaining
    rest := String.ofList rest
    pending := String.ofList pending
    consumed := ← c.consumed
    current := ← c.current }

/-- Whether a literal is ahead and behind, each first with and then without regard to case. -/
def isNear (c : Cursor) (literal : String) : Except Fault (List Bool) := do
  return [← c.isAhead literal .sensitive, ← c.isAhead literal .insensitive,
    ← c.isBehind literal .sensitive, ← c.isBehind literal .insensitive]

/-- The first literal of a set ahead and behind, each first with and then without regard to
case. -/
def indexNear (c : Cursor) (set : Literals) : Except Fault (List (Option Nat)) := do
  return [← c.indexAhead set .sensitive, ← c.indexAhead set .insensitive,
    ← c.indexBehind set .sensitive, ← c.indexBehind set .insensitive]

/-- Perform an operation. -/
def perform (c : Cursor) : Op → Except Fault (Answer × Cursor)
  | .view => return (.view (← c.view), c)
  | .text => return (.text (String.ofList c.source.chars), c)
  | .peek n => return (.char (← c.peek n), c)
  | .advance n => do
    let (remains, c) ← c.advance n
    return (.flag remains, c)
  | .commit n => return (.done, ← c.commit n)
  | .rewind => return (.done, c.rewind)
  | .reset checkpoint => return (.done, ← c.reset checkpoint)
  | .extract skip suffix => do
    let (value, c) ← c.extract skip suffix
    return (.text value, c)
  | .matchLiteral literal lookup => return (.width (← c.matchLiteral literal lookup), c)
  | .matchWith literal matcher => return (.sided matcher.side (← c.matchWith literal matcher), c)
  | .matchAny set lookup => return (.entry (← c.matchAny set lookup), c)
  | .matchAnyWith set matcher => return (.entry (← c.matchAnyWith set matcher), c)
  | .isNear literal => return (.flags (← c.isNear literal), c)
  | .indexNear set => return (.indices (← c.indexNear set), c)
  | .markNewLine => return (.done, c.markNewLine)
  | .lineText lineEnd => return (.text (← c.lineText lineEnd), c)
  | .push token => return (.done, c.push token)
  | .pop => return (.token c.pop.1, c.pop.2)
  | .last => return (.token c.nesting.last?, c)
  | .pushLevel => return (.done, c.pushLevel)
  | .popLevel =>
    match c.popLevel with
    | .ok c => return (.done, c)
    | .error error => return (.refused error, c)
  | .setError message => return (.done, c.setError message)
  | .clearError => return (.done, c.clearError)
  | .cancel message => return (.done, c.cancel message)

end Cursor

/-- The state of a cursor apart from its text. -/
structure Snapshot where
  pos : Nat
  start : Nat
  line : Nat
  lineStart : Nat
  linePosition : Nat
  level : Nat
  pendingTokens : Nat
  canceled : Bool
  error : Option String
deriving DecidableEq, Repr

/-- The state of a cursor apart from its text. -/
def Cursor.snapshot (c : Cursor) : Snapshot where
  pos := c.pos
  start := c.start
  line := c.line
  lineStart := c.lineStart
  linePosition := c.linePosition
  level := c.nesting.level
  pendingTokens := c.nesting.pending
  canceled := c.canceled
  error := c.error

end Lexing
