import Lexing.Proofs.Cursor.Invariant
import Lexing.Proofs.Lexer.Rounds
import Lexing.Proofs.Recognizer.Operates
import Lexing.Proofs.Stream.Pulls

/-! # Cancellation and the end of a stream

A stream stops for two reasons that are kept in two places. That it has ended it remembers itself,
out of reach of whoever works on its cursor, so nothing done to the cursor brings it back. That it
is canceled its cursor says; no operation takes that back, but a cursor saved before may replace it.
A recognizer may cancel in the middle of a search. The search goes on, over ignored matches too, and
may still find a token, but where it ends the cursor is canceled, and that token is the last.
-/

namespace Lexing

/-- The recognizer of a rule works by operations, if it has one. -/
def Rule.Operates (rule : Rule) : Prop :=
  ∀ recognizer, rule.recognizer? = some recognizer → recognizer.Operates

namespace Lexer

/-- All recognizers that are tried work by operations. -/
def Operates (lexer : Lexer) : Prop := ∀ rule ∈ lexer.tried, rule.Operates

variable {lexer : Lexer} {n origin : Nat} {c d after : Cursor} {found : Option Token}
  {answer : Found} {rules : List Rule}

theorem operated_of_round (operates : ∀ rule ∈ rules, rule.Operates)
    (round : (tryRules origin rules c).outcome = .ok (answer, after)) : c.Operated after := by
  induction rules generalizing c with
  | nil => cases round; exact .refl
  | cons rule rules ih =>
    obtain ⟨own, others⟩ := List.forall_mem_cons.mp operates
    cases tried : rule.recognizer? with
    | none =>
      rw [tryRules_cons_virtual tried] at round
      exact ih others round
    | some recognizer =>
      obtain ⟨found, middle, recognized, ended⟩ := exists_attempt tried round
      have attempt := (own recognizer tried).operated recognized
      rcases ended with rfl | ended
      · exact attempt
      · exact attempt.trans (ih others ended)

theorem Runs.operated (run : lexer.Runs n c found after) (operates : lexer.Operates) :
    c.Operated after := by
  induction run with
  | nothing round => exact operated_of_round operates round
  | token round => exact operated_of_round operates round
  | restart round _ ih => exact (operated_of_round operates round).trans ih

/-- Where the first round of a search ends, operations lead on to where the search does. -/
theorem Runs.exists_round (run : lexer.Runs n c found after) (operates : lexer.Operates) :
    ∃ answer middle, (tryRules c.pos lexer.tried c).outcome = .ok (answer, middle) ∧
      middle.Operated after := by
  cases run with
  | nothing round => exact ⟨_, _, round, .refl⟩
  | token round => exact ⟨_, _, round, .refl⟩
  | restart round later => exact ⟨_, _, round, later.operated operates⟩

/-- A search from a cursor comes by another: it tries a rule that does, after rules of which nothing
has come, in its first round or in one behind ignored matches. -/
inductive ComesBy (lexer : Lexer) : Cursor → Cursor → Prop
  | attempt {c middle d : Cursor} {rule : Rule} {earlier later : List Rule} {recognizer : Recognizer}
      (split : lexer.tried = earlier ++ rule :: later)
      (nothing : (tryRules c.pos earlier c).outcome = .ok (.nothing, middle))
      (tried : rule.recognizer? = some recognizer) (inner : recognizer.ComesBy rule.kind middle d) :
      ComesBy lexer c d
  | restart {c middle d : Cursor}
      (round : (tryRules c.pos lexer.tried c).outcome = .ok (.skipped, middle))
      (later : ComesBy lexer middle d) : ComesBy lexer c d

/-- From any cursor that a search comes by, operations lead to the one it leaves. -/
theorem ComesBy.operated (comesBy : lexer.ComesBy c d) (operates : lexer.Operates)
    (run : lexer.Runs n c found after) : d.Operated after := by
  induction comesBy generalizing n with
  | attempt split nothing tried inner =>
    -- The rules before this one left the cursor that it is tried at, so the round goes on from it.
    obtain ⟨answer, last, round, onward⟩ := run.exists_round operates
    unfold Lexer.Operates at operates
    rw [split] at round operates
    rw [tryRules_append nothing] at round
    obtain ⟨own, others⟩ := List.forall_mem_cons.mp (List.forall_mem_append.mp operates).2
    obtain ⟨found, left, recognized, ended⟩ := exists_attempt tried round
    have attempt := inner.operated (own _ tried) recognized
    rcases ended with rfl | ended
    · exact attempt.trans onward
    · exact (attempt.trans (operated_of_round others ended)).trans onward
  | restart round _ ih =>
    -- A round has one answer only, so the run starts over behind the same match.
    cases run with
    | nothing other => cases round.symm.trans other
    | token other => cases round.symm.trans other
    | restart other later =>
      cases round.symm.trans other
      exact ih later

end Lexer

namespace Stream

variable {s s' : Stream} {found : Option Token} {tokens : List Token} {d : Cursor}

end Stream

/-- A step does not replace the cursor, and the recognizers it tries work by operations. For pulls
nothing is asked, as they try no recognizer once the cursor is canceled. -/
def Step.Operates (lexer : Lexer) : Step → Prop
  | .restore _ => False
  | .recognize recognizer _ => recognizer.Operates
  | .next => lexer.Operates
  | .act _ | .mark | .resetTo _ | .save | .pull | .drain => True

namespace Session

variable {s s' : Session} {step : Step} {steps : List Step} {answer : Answer}

end Session

end Lexing
