import Lexing.Cursor.Op
import Lexing.Recognizer.Custom
import Lexing.Stream

/-! # Sessions

A session works on one stream step by step. Between pulls it may do anything to the cursor, go back
to marks it has set, and replace the cursor by one it has saved. What a stream remembers beside its
cursor, whether it has ended, no step undoes.
-/

namespace Lexing

/-- A stream in use, with the marks set and the cursors saved so far. -/
structure Session where
  stream : Stream
  marks : List Nat := []
  saved : List Cursor := []

/-- One step of a session. -/
inductive Step
  /-- Perform an operation on the cursor. -/
  | act (op : Cursor.Op)
  /-- Mark the position. -/
  | mark
  /-- Go back to a mark. -/
  | resetTo (index : Nat)
  /-- Save the cursor. -/
  | save
  /-- Replace the cursor by a saved one. -/
  | restore (index : Nat)
  /-- Try a recognizer at the cursor. -/
  | recognize (recognizer : Recognizer) (kind : Kind)
  /-- Ask the lexer for a token at the cursor, past the stream. -/
  | next
  /-- Pull one token from the stream. -/
  | pull
  /-- Pull all remaining tokens from the stream. -/
  | drain

namespace Session

/-- The session with another cursor. -/
def withCursor (s : Session) (c : Cursor) : Session :=
  { s with stream := { s.stream with cursor := c } }

/-- Take one step. -/
def step (s : Session) : Step → Traced Fault (Answer × Session)
  | .act op => do
    let (answer, c) ← Traced.ofExcept (s.stream.cursor.perform op)
    return (answer, s.withCursor c)
  | .mark =>
    let pos := s.stream.cursor.pos
    return (.offset pos, { s with marks := s.marks ++ [pos] })
  | .resetTo index =>
    match s.marks[index]? with
    | none => Traced.fail (.unknownMark index)
    | some checkpoint => do
      let c ← Traced.ofExcept (s.stream.cursor.reset checkpoint)
      return (.done, s.withCursor c)
  | .save => return (.done, { s with saved := s.saved ++ [s.stream.cursor] })
  | .restore index =>
    match s.saved[index]? with
    | none => Traced.fail (.unknownSave index)
    | some c => return (.done, s.withCursor c)
  | .recognize recognizer kind => do
    let (found, c) ← Traced.ofExcept (recognizer.recognize kind s.stream.cursor)
    return (.token found, s.withCursor c)
  | .next => do
    let (found, c) ← s.stream.lexer.next s.stream.cursor
    return (.token found, s.withCursor c)
  | .pull => do
    let (found, stream) ← s.stream.pull
    return (.token found, { s with stream })
  | .drain => do
    let (tokens, stream) ← s.stream.drain
    return (.tokens tokens, { s with stream })

/-- What is left of a run of steps: the answers with the state after each, the events, and how it
ended. -/
structure Record where
  answers : List (Answer × Snapshot)
  events : List Event
  ending : Except Fault Session

/-- Take steps until the last one or the first fault. -/
def run (s : Session) : List Step → Record
  | [] => ⟨[], [], .ok s⟩
  | step :: rest =>
    let taken := s.step step
    match taken.outcome with
    | .error fault => ⟨[], taken.events, .error fault⟩
    | .ok (answer, s) =>
      let record := s.run rest
      { record with
        answers := (answer, s.stream.cursor.snapshot) :: record.answers
        events := taken.events ++ record.events }

end Session

end Lexing
