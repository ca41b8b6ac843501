import Lexing.Rule

/-! # Events

A lexer reports what it does. `Traced` is a computation that may fail together with the events it
reported, in their order; the events before a failure are kept.
-/

namespace Lexing

/-- Something a lexer reports. -/
inductive Event
  /-- A list of rules is about to be checked. -/
  | checkingRules (count : Nat)
  /-- The rules are valid, and so many of them have a recognizer. -/
  | rulesAccepted (recognizing : Nat)
  | rulesRejected (error : RuleError)
  /-- A rule matched without making progress. -/
  | zeroWidth (name : String) (offset : Nat)
  | token (kind : Kind) (name value : String)
  /-- No rule matched at a character. -/
  | unrecognized (char : Char) (offset line : Nat)
  /-- A stream found its cursor canceled. -/
  | canceled (error : Option String) (offset line : Nat)
deriving DecidableEq

/-- How much detail an event belongs to. -/
inductive Event.Level
  | debug
  | trace
deriving DecidableEq, Repr

/-- A value reported with an event. -/
inductive Event.Field
  | number (value : Nat)
  | text (value : String)
deriving DecidableEq, Repr

namespace Event

def level : Event → Level
  | checkingRules _ | rulesAccepted _ | rulesRejected _ | canceled .. => .debug
  | zeroWidth .. | token .. | unrecognized .. => .trace

/-- Whether the event opens a span of time instead of marking a moment. -/
def isSpan : Event → Bool
  | checkingRules _ => true
  | _ => false

/-- The title an event is reported under. -/
def title : Event → String
  | checkingRules _ => "from_definitions"
  | rulesAccepted _ => "token definitions accepted"
  | rulesRejected _ => "token definitions rejected"
  | zeroWidth .. => "zero-width match skipped"
  | token .. => "token"
  | unrecognized .. => "unrecognized character"
  | canceled .. => "token stream canceled"

/-- The values reported with an event, by name. An error that was not set is left out. -/
def fields : Event → List (String × Field)
  | checkingRules count => [("count", .number count)]
  | rulesAccepted recognizing => [("extracting", .number recognizing)]
  | rulesRejected error => [("err", .text error.message)]
  | zeroWidth name offset => [("name", .text name), ("offset", .number offset)]
  | token kind name value =>
    [("kind", .text kind.decimal), ("name", .text name), ("value", .text value)]
  | unrecognized char offset line =>
    [("c", .text (Text.display '\'' [char])), ("offset", .number offset), ("line", .number line)]
  | canceled error offset line =>
    [("offset", .number offset), ("line", .number line)] ++
      error.toList.map fun message => ("error", .text message)

end Event

/-- A computation that may fail, with the events it reported. -/
structure Traced (ε α : Type) where
  events : List Event
  outcome : Except ε α

namespace Traced

variable {ε α β : Type}

/-- Apply a function to the value. The events stay as they are. -/
def map (f : α → β) (first : Traced ε α) : Traced ε β := ⟨first.events, first.outcome.map f⟩

/-- Run a second computation on the value of the first, if there is one. -/
def andThen (first : Traced ε α) (next : α → Traced ε β) : Traced ε β :=
  match first.outcome with
  | .error error => ⟨first.events, .error error⟩
  | .ok value =>
    let second := next value
    ⟨first.events ++ second.events, second.outcome⟩

instance : Monad (Traced ε) where
  pure value := ⟨[], .ok value⟩
  map := map
  bind := andThen

/-- Report an event. -/
def report (event : Event) : Traced ε Unit := ⟨[event], .ok ()⟩

/-- A computation that reports nothing. -/
def ofExcept (outcome : Except ε α) : Traced ε α := ⟨[], outcome⟩

/-- Fail without a report. -/
def fail (error : ε) : Traced ε α := ⟨[], .error error⟩

@[simp] theorem pure_eq (value : α) : (pure value : Traced ε α) = ⟨[], .ok value⟩ := rfl

@[simp] theorem map_eq (f : α → β) (first : Traced ε α) :
    f <$> first = ⟨first.events, first.outcome.map f⟩ := rfl

@[simp] theorem bind_ok (events : List Event) (value : α) (next : α → Traced ε β) :
    (⟨events, .ok value⟩ : Traced ε α) >>= next =
      ⟨events ++ (next value).events, (next value).outcome⟩ := rfl

@[simp] theorem bind_error (events : List Event) (error : ε) (next : α → Traced ε β) :
    (⟨events, .error error⟩ : Traced ε α) >>= next = ⟨events, .error error⟩ := rfl

@[simp] theorem outcome_bind (first : Traced ε α) (next : α → Traced ε β) :
    (first >>= next).outcome = first.outcome >>= fun value => (next value).outcome := by
  obtain ⟨events, _ | value⟩ := first <;> rfl

end Traced

end Lexing
