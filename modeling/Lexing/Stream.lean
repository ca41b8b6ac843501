import Lexing.Lexer

/-! # Token streams

A stream yields the tokens of a text one by one. Where no rule matches it yields a token of a single
unrecognized character and goes on behind it. It ends with the text, or before the next token once
its cursor has been canceled, and a stream that has ended stays so.
-/

namespace Lexing

/-- A lexer at work on a text. -/
structure Stream where
  lexer : Lexer
  cursor : Cursor
  finished : Bool := false

/-- The stream of the tokens of a text. -/
def Lexer.stream (lexer : Lexer) (text : String) : Stream where
  lexer := lexer
  cursor := Cursor.ofString text

namespace Stream

/-- The next token, or `none` at the end. -/
def pull (s : Stream) : Traced Fault (Option Token × Stream) := do
  if s.finished then return (none, s)
  else if s.cursor.canceled then
    Traced.report (.canceled s.cursor.error s.cursor.pos s.cursor.line)
    return (none, { s with finished := true })
  else
    let (found, c) ← s.lexer.next s.cursor
    match found with
    | some token => return (some token, { s with cursor := c })
    | none =>
      match ← Traced.ofExcept c.current with
      | none => return (none, { s with cursor := c, finished := true })
      | some char =>
        Traced.report (.unrecognized char c.pos c.line)
        let c ← Traced.ofExcept (c.commit 1)
        return (some (.unrecognized char), { s with cursor := c })

/-- The remaining tokens, if so many pulls reach the end. -/
def drainWithin : Nat → Stream → Traced Fault (List Token × Stream)
  | 0, _ => Traced.fail .exhausted
  | pulls + 1, s => do
    let (found, s) ← s.pull
    match found with
    | none => return ([], s)
    | some token => (fun (tokens, s) => (token :: tokens, s)) <$> drainWithin pulls s

/-- The remaining tokens. Every token takes some text, so one pull more than bytes remain reaches
the end. -/
def drain (s : Stream) : Traced Fault (List Token × Stream) :=
  s.drainWithin (s.cursor.size - s.cursor.pos + 1)

end Stream

end Lexing
