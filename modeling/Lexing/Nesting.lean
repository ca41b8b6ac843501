import Lexing.Token

/-! # Nested frames of pending tokens

A grammar keeps the tokens it cannot reduce yet in the top frame and opens a new frame when it
enters a bracketed part. A frame is closed only when it is empty, so tokens that were forgotten show
up at the closing bracket and never leak into the enclosing frame. The base frame is never closed.
-/

namespace Lexing

/-- Why a nesting level cannot be closed. -/
inductive NestingError
  /-- The top frame still holds tokens. -/
  | pendingTokens (count : Nat)
  /-- Only the base frame is left. -/
  | noEnclosingLevel
deriving DecidableEq, Repr

/-- The wording of a nesting error. -/
def NestingError.message : NestingError → String
  | pendingTokens count =>
    s!"cannot close nesting level: {count} pending token(s) in the top frame"
  | noEnclosingLevel => "cannot close nesting level: no enclosing level"

/-- A stack of frames that holds at least one. In a frame the latest token comes first. -/
structure Nesting where
  top : List Token := []
  enclosing : List (List Token) := []
deriving DecidableEq

namespace Nesting

/-- The number of open levels. -/
def level (nesting : Nesting) : Nat := nesting.enclosing.length + 1

/-- The number of tokens in the top frame. -/
def pending (nesting : Nesting) : Nat := nesting.top.length

/-- The latest token of the top frame. -/
def last? (nesting : Nesting) : Option Token := nesting.top.head?

def push (nesting : Nesting) (token : Token) : Nesting :=
  { nesting with top := token :: nesting.top }

/-- Take the latest token off the top frame. -/
def pop (nesting : Nesting) : Option Token × Nesting :=
  (nesting.top.head?, { nesting with top := nesting.top.tail })

/-- Open a level with an empty frame. -/
def pushLevel (nesting : Nesting) : Nesting := ⟨[], nesting.top :: nesting.enclosing⟩

/-- Close the top level. A frame that holds tokens is reported before a missing level. -/
def popLevel (nesting : Nesting) : Except NestingError Nesting :=
  if nesting.top ≠ [] then .error (.pendingTokens nesting.pending)
  else
    match nesting.enclosing with
    | [] => .error .noEnclosingLevel
    | top :: enclosing => .ok ⟨top, enclosing⟩

end Nesting

end Lexing
