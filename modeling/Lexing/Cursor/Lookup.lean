import Lexing.Cursor
import Lexing.Literal

/-! # Looking up literals at a cursor

Literals are compared with the untested text ahead or with the text behind the token in progress.
The token in progress itself is never looked at. A match is answered with its number of characters.
-/

namespace Lexing.Cursor

/-- The text on one side of the token in progress, its nearest character first. -/
def sideText (c : Cursor) : Side → Except Fault (List Char)
  | .ahead => c.rest
  | .behind => c.behind

/-- Compare a literal by a resolved matcher. -/
def matchWith (c : Cursor) (literal : String) (matcher : Matcher) : Except Fault (Option Nat) :=
  return matcher.compare (← c.sideText matcher.side) literal.toList

/-- Compare a literal under a lookup. -/
def matchLiteral (c : Cursor) (literal : String) (lookup : Lookup) : Except Fault (Option Nat) :=
  c.matchWith literal lookup.resolve

/-- The first literal of a set by a resolved matcher, as its index and number of characters. -/
def matchAnyWith (c : Cursor) (set : Literals) (matcher : Matcher) :
    Except Fault (Option (Nat × Nat)) :=
  return set.find? matcher (← c.sideText matcher.side)

/-- The first literal of a set under a lookup, as its index and number of characters. -/
def matchAny (c : Cursor) (set : Literals) (lookup : Lookup) : Except Fault (Option (Nat × Nat)) :=
  c.matchAnyWith set lookup.resolve

/-- Whether the untested text starts with a literal. -/
def isAhead (c : Cursor) (literal : String) (mode : CaseMode) : Except Fault Bool :=
  return (← c.matchLiteral literal ⟨.ahead, mode⟩).isSome

/-- Whether the text behind the token in progress ends with a literal. -/
def isBehind (c : Cursor) (literal : String) (mode : CaseMode) : Except Fault Bool :=
  return (← c.matchLiteral literal ⟨.behind, mode⟩).isSome

/-- The index of the first literal of a set that the untested text starts with. -/
def indexAhead (c : Cursor) (set : Literals) (mode : CaseMode) : Except Fault (Option Nat) :=
  return (← c.matchAny set ⟨.ahead, mode⟩).map (·.1)

/-- The index of the first literal of a set that the text behind the token in progress ends with. -/
def indexBehind (c : Cursor) (set : Literals) (mode : CaseMode) : Except Fault (Option Nat) :=
  return (← c.matchAny set ⟨.behind, mode⟩).map (·.1)

end Lexing.Cursor
