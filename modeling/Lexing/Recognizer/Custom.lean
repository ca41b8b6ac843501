import Lexing.Recognizer

/-! # Recognizers written by hand

Small recognizers that use the cursor directly. Some of them test the edges of what a recognizer may
do: a match without progress, a match that cancels the stream, a move without a match.
-/

namespace Lexing.Recognizer

/-- Takes the token in progress and tests nothing more, so it always matches. -/
def takePending : Recognizer :=
  .custom fun kind c => do
    let (value, c) ← c.extractAll
    return (some ⟨kind, value⟩, c)

/-- Matches nothing. -/
def never : Recognizer := .custom fun _ c => return (none, c)

/-- Tests `n` characters and takes the token with the given extent, if any text remains. -/
def take (n : Nat) (skip : Skip) (suffix : Nat) : Recognizer :=
  .custom fun kind c => do
    if !c.hasRemaining then return (none, c)
    let (_, c) ← c.advance n
    let (value, c) ← c.extract skip suffix
    return (some ⟨kind, value⟩, c)

/-- Tests `n` characters and reports no match. -/
def advanceOnly (n : Nat) : Recognizer :=
  .custom fun _ c => do
    let (_, c) ← c.advance n
    return (none, c)

/-- Passes `n` characters and reports no match. -/
def commitOnly (n : Nat) : Recognizer :=
  .custom fun _ c => return (none, ← c.commit n)

/-- Takes the token in progress with a literal, and cancels the stream with a message. -/
def cancelAt (literal message : String) : Recognizer :=
  .custom fun kind c => do
    match ← c.matchLiteral literal ⟨.ahead, .sensitive⟩ with
    | none => return (none, c)
    | some width =>
      let (_, c) ← (c.cancel message).advance width
      let (value, c) ← c.extractAll
      return (some ⟨kind, value⟩, c)

end Lexing.Recognizer
