import Lexing.Pattern

/-! # Recognizers

A recognizer is a pattern, a function written by hand, or a choice between two recognizers. Whoever
reports no match has to leave the cursor where it was; this is checked for every recognizer, also
inside a choice, and a recognizer that does otherwise is a fault.
-/

namespace Lexing

/-- Decides whether a token of a given kind starts at a cursor. -/
inductive Recognizer
  | pattern (shape : Pattern)
  | custom (attempt : Kind → Cursor → Except Fault (Option Token × Cursor))
  /-- The second recognizer is tried only when the first does not match. -/
  | orElse (first second : Recognizer)

namespace Recognizer

/-- Let a result pass unless it reports no match at a place other than `before`. -/
def keepPlace (kind : Kind) (before : Cursor) (result : Option Token × Cursor) :
    Except Fault (Option Token × Cursor) :=
  let (found, after) := result
  if found.isNone ∧ (after.pos, after.start) ≠ (before.pos, before.start) then
    .error (.movedWithoutMatch kind (after.pos, after.start) (before.pos, before.start))
  else .ok result

/-- Recognize a token of the given kind at the cursor. -/
def recognize : Recognizer → Kind → Cursor → Except Fault (Option Token × Cursor)
  | .pattern shape, kind, c => shape.recognize kind c >>= keepPlace kind c
  | .custom attempt, kind, c => attempt kind c >>= keepPlace kind c
  | .orElse first second, kind, c => do
    let (found, after) ← first.recognize kind c
    let result ← if found.isSome then pure (found, after) else second.recognize kind after
    keepPlace kind c result

end Recognizer

end Lexing
