import Lexing.Token

/-! # Faults

A fault is a broken contract of the code that uses a cursor. It is no property of the text: input
that nothing recognizes is not a fault.
-/

namespace Lexing

/-- A broken contract. -/
inductive Fault
  /-- A cursor was to go back to a place outside the token in progress. -/
  | outsideAttempt (checkpoint start pos : Nat)
  /-- The start of the token in progress lies past the position. -/
  | startPastPos (start pos : Nat)
  /-- The position lies past the end of the text. -/
  | posPastEnd (pos size : Nat)
  /-- A position lies inside a character. -/
  | offBoundary
  /-- A piece of text was asked for that does not lie between two characters. -/
  | brokenSlice (first last : Nat)
  /-- A recognizer moved the cursor and then reported no match; both places are position and start
  of the token in progress. -/
  | movedWithoutMatch (kind : Kind) (after before : Nat × Nat)
  /-- A lexer was still skipping when its steps ran out. -/
  | exhausted
  /-- A mark was named that has not been set. -/
  | unknownMark (index : Nat)
  /-- A saved cursor was named that has not been saved. -/
  | unknownSave (index : Nat)
deriving DecidableEq

namespace Fault

/-- A pair of offsets between round brackets. -/
def pairText (pair : Nat × Nat) : String :=
  let first := pair.1
  let second := pair.2
  s!"({first}, {second})"

/-- The wording of a fault. -/
def message : Fault → String
  | outsideAttempt checkpoint start pos =>
    s!"checkpoint {checkpoint} is outside the pending attempt {start}..{pos}"
  | startPastPos start pos => s!"extraction pointer {start} is past scan pointer {pos}"
  | posPastEnd pos size => s!"scan pointer {pos} exceeds text length {size}"
  | offBoundary => "pointers must sit on char boundaries"
  | brokenSlice first last => s!"byte range {first}..{last} is not a range of whole characters"
  | movedWithoutMatch kind after before =>
    let number := kind.decimal
    let left := pairText after
    let right := pairText before
    "assertion `left == right` failed: " ++
      s!"extractor for type {number} moved the pointers without matching\n" ++
      s!"  left: {left}\n right: {right}"
  | exhausted => "skipping did not come to an end"
  | unknownMark index => s!"mark {index} has not been set"
  | unknownSave index => s!"cursor {index} has not been saved"

end Fault

end Lexing
