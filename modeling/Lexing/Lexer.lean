import Lexing.Event

/-! # Lexers

A lexer is a checked list of rules. At every place the rules are tried in their order and the first
match wins. A match that makes no progress does not count, and after a match of an ignored rule the
search starts again behind it.
-/

namespace Lexing

/-- A list of rules of which the first `recognizing` have a recognizer. -/
structure Lexer where
  rules : List Rule
  recognizing : Nat

namespace Lexer

/-- The lexer without rules. -/
def empty : Lexer := ⟨[], 0⟩

/-- Check a list of rules and make it a lexer. -/
def ofRules (rules : List Rule) : Traced RuleError Lexer := do
  Traced.report (.checkingRules rules.length)
  match Rule.check [] rules with
  | .error error =>
    Traced.report (.rulesRejected error)
    Traced.fail error
  | .ok () =>
    let recognizing := (rules.takeWhile fun rule => !rule.isVirtual).length
    Traced.report (.rulesAccepted recognizing)
    return ⟨rules, recognizing⟩

/-! ## Looking up rules -/

def rule? (lexer : Lexer) (kind : Kind) : Option Rule := lexer.rules.find? (·.kind == kind)

/-- The name of a kind. -/
def name? (lexer : Lexer) (kind : Kind) : Option String := (lexer.rule? kind).map (·.name)

/-- The kind with a name. -/
def kind? (lexer : Lexer) (name : String) : Option Kind :=
  (lexer.rules.find? (·.name == name)).map (·.kind)

/-- Whether tokens of a kind are left out of the stream. Those of a kind without a rule are not. -/
def isIgnored (lexer : Lexer) (kind : Kind) : Bool := (lexer.rule? kind).any (·.isIgnored)

/-! ## Finding the next token -/

/-- What came of trying the rules at one place. -/
inductive Found
  | nothing
  /-- Text of an ignored rule was passed. -/
  | skipped
  | token (token : Token)
deriving DecidableEq

/-- Try rules in their order at a cursor whose position was `origin` when the first was tried. -/
def tryRules (origin : Nat) : List Rule → Cursor → Traced Fault (Found × Cursor)
  | [], c => return (.nothing, c)
  | rule :: rest, c =>
    match rule.recognizer? with
    | none => tryRules origin rest c
    | some recognizer => do
      let (found, c) ← Traced.ofExcept (recognizer.recognize rule.kind c)
      match found with
      | none => tryRules origin rest c
      | some token =>
        if c.pos = origin then
          Traced.report (.zeroWidth rule.name origin)
          tryRules origin rest c
        else if rule.isIgnored then return (.skipped, c)
        else
          Traced.report (.token token.kind rule.name token.value)
          return (.token token, c)

/-- The next token at a cursor, with so many tries of all rules at most. -/
def nextWithin (lexer : Lexer) : Nat → Cursor → Traced Fault (Option Token × Cursor)
  | 0, _ => Traced.fail .exhausted
  | tries + 1, c => do
    let (found, c) ← tryRules c.pos (lexer.rules.take lexer.recognizing) c
    match found with
    | .nothing => return (none, c)
    | .skipped => lexer.nextWithin tries c
    | .token token => return (some token, c)

/-- The next token at a cursor. Without one, the cursor stands behind the last ignored match. As
every try but the last passes some text, one try more than bytes remain is enough. -/
def next (lexer : Lexer) (c : Cursor) : Traced Fault (Option Token × Cursor) :=
  lexer.nextWithin (c.size - c.pos + 1) c

end Lexer

end Lexing
