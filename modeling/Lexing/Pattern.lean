import Lexing.Condition
import Lexing.Cursor.Line
import Lexing.Cursor.Lookup
import Lexing.Text.CharClass

/-! # Patterns

The shapes of tokens a lexer knows. A pattern first looks at the untested text to see whether it
matches and how far; only then does it move the cursor, so a pattern that does not match leaves the
cursor as it is. Names, runs, layout and numbers take the token in progress into their value; quoted
values and literals leave it out.
-/

namespace Lexing

/-- The shape of a token. -/
inductive Pattern
  /-- A character that starts a name, then all that continue it. -/
  | name (first body : Char → Bool)
  /-- As many members as there are, at least one. -/
  | run (member : Char → Bool)
  /-- A run in which every complete terminator ends a line. -/
  | layout (member : Char → Bool) (terminator : String)
  /-- A value between two equal delimiters. -/
  | quoted (quote quotable : Char → Bool)
  /-- Digits with at most one separator, which alone is no number. -/
  | number (digit : Char → Bool) (separator : Char)
  /-- The first literal of a set. -/
  | literal (set : Literals) (mode : CaseMode)
  /-- The first literal of a set, if a condition next to it is present, or absent. -/
  | conditional (set condition : Literals) (options : ConditionOptions)

namespace Pattern

/-! ## The text a pattern covers -/

/-- The name at the beginning of a text, or nothing. -/
def nameSpan (first body : Char → Bool) : List Char → List Char
  | [] => []
  | c :: rest => if first c then c :: rest.takeWhile body else []

/-- The digits at the beginning of a text with at most one separator; `separated` says whether it
has been passed already. -/
def numberSpan (digit : Char → Bool) (separator : Char) (separated : Bool) : List Char → List Char
  | [] => []
  | c :: rest =>
    if c = separator then
      if separated then [] else c :: numberSpan digit separator true rest
    else if digit c then c :: numberSpan digit separator separated rest
    else []

/-- The text between the delimiters of a quoted value, if the text starts with one. -/
def quotedSpan? (quote quotable : Char → Bool) : List Char → Option (List Char)
  | [] => none
  | delimiter :: rest =>
    let interior := rest.takeWhile fun c => c != delimiter && quotable c
    if quote delimiter ∧ (rest.drop interior.length).head? = some delimiter then some interior
    else none

/-- The strides in which layout is passed, from its beginning to its end: `true` is a stride over a
whole terminator, `false` one over a single character. A stride starts only at a member, but a
terminator may hold characters that are none. -/
def strides (member : Char → Bool) (terminator : List Char) (text : List Char) : List Bool :=
  match text with
  | [] => []
  | c :: rest =>
    if member c then
      if terminator ≠ [] ∧ terminator.isPrefixOf (c :: rest) then
        true :: strides member terminator (rest.drop (terminator.length - 1))
      else false :: strides member terminator rest
    else []
termination_by text.length
decreasing_by
  all_goals simp only [List.length_cons, List.length_drop]; omega

/-! ## Recognizing -/

/-- Take the token in progress and a span of the untested text, if the span is not empty. -/
def takeSpan (kind : Kind) (c : Cursor) (span : List Char) :
    Except Fault (Option Token × Cursor) := do
  if span.isEmpty then return (none, c)
  let (_, c) ← c.advance span.length
  let (value, c) ← c.extractAll
  return (some ⟨kind, value⟩, c)

/-- Take a literal of known width and leave out the token in progress. -/
def takeLiteral (kind : Kind) (c : Cursor) (width : Nat) :
    Except Fault (Option Token × Cursor) := do
  let (value, c) ← c.extract .consumed width
  return (some ⟨kind, value⟩, c)

/-- Pass one stride of layout. -/
def stride (width : Nat) (c : Cursor) (ending : Bool) : Except Fault Cursor := do
  if ending then
    let (_, c) ← c.advance width
    return c.markNewLine
  else
    let (_, c) ← c.advance 1
    return c

/-- Recognize a token of the given kind at the cursor. -/
def recognize (pattern : Pattern) (kind : Kind) (c : Cursor) :
    Except Fault (Option Token × Cursor) := do
  match pattern with
  | name first body => takeSpan kind c (nameSpan first body (← c.rest))
  | run member => takeSpan kind c ((← c.rest).takeWhile member)
  | layout member terminator =>
    let path := strides member terminator.toList (← c.rest)
    if path.isEmpty then return (none, c)
    let c ← path.foldlM (stride terminator.length) c
    let (value, c) ← c.extractAll
    return (some ⟨kind, value⟩, c)
  | quoted quote quotable =>
    match quotedSpan? quote quotable (← c.rest) with
    | none => return (none, c)
    | some interior =>
      let pending ← c.consumed
      let (_, c) ← c.advance (interior.length + 1)
      let (value, c) ← c.extract (.chars (pending + 1)) 0
      return (some ⟨kind, value⟩, ← c.commit 1)
  | number digit separator =>
    let span := numberSpan digit separator false (← c.rest)
    takeSpan kind c (if span = [separator] then [] else span)
  | literal set mode =>
    match ← c.matchAny set ⟨.ahead, mode⟩ with
    | none => return (none, c)
    | some (_, width) => takeLiteral kind c width
  | conditional set condition options =>
    match ← c.matchAny set ⟨.ahead, options.matchMode⟩ with
    | none => return (none, c)
    | some (_, width) =>
      let present := (← c.matchAny condition options.conditionLookup).isSome
      if present = options.conditionNegated then return (none, c)
      takeLiteral kind c width

/-! ## Common patterns -/

/-- Names of letters, digits and a few marks. -/
def identifier : Pattern := name Text.isNameStart Text.isNameChar

/-- Runs of white space. -/
def whitespace : Pattern := run Text.isSpace

/-- Strings in single or double quotes that stay on one line. -/
def quotedString : Pattern := quoted Text.isQuote Text.isQuotable

/-- Decimal numbers with a point. -/
def decimal : Pattern := number Text.isDigit '.'

end Pattern

end Lexing
