import Lexing.Proofs.Lexer.Accepted

/-! # Searches without a token

A search may go over any number of ignored matches before it finds that no rule matches. What it
then leaves is settled by where it stands: the cursor behind the last ignored match, or the cursor
as it was, with the token in progress, if there is no such match (`next_eq_none_iff`). No rule
matches at this cursor, so to search again finds nothing and changes nothing.
-/

namespace Lexing

/-- Only the match of an ignored rule has no token. -/
theorem Piece.token?_eq_none_iff {piece : Piece} :
    piece.token? = none ↔ ∃ rule leaf segment token,
      piece = .matched rule leaf segment token ∧ rule.isIgnored = true := by
  cases piece with
  | unknown char => simp [token?]
  | matched rule leaf segment token => simp [token?]

namespace Lexer

variable {rules : List Rule} {lexer : Lexer} {c after : Cursor} {pieces : List Piece}
  {before pending rest : List Char}

/-- A search finds nothing exactly if ignored matches lead to a cursor at which no rule matches. -/
theorem next_eq_none_iff (builtIn : lexer.BuiltIn) (valid : c.Valid) :
    (lexer.next c).outcome = .ok (none, after) ↔
      ∃ pieces, lexer.Path c pieces after ∧ (∀ piece ∈ pieces, piece.token? = none) ∧
        ∀ rule ∈ lexer.tried, rule.FailsAt after := by
  constructor
  · intro searched
    generalize remaining : c.size - c.pos = bytes
    induction bytes using Nat.strongRecOn generalizing c with
    | ind bytes ih =>
      obtain ⟨before, pending, rest, divides⟩ := Cursor.valid_iff_divides.mp valid
      rcases fails_or_exists_step builtIn divides with failed | ⟨rule, _, _, token, middle, step⟩
      · rw [next_of_fails failed] at searched
        cases searched
        exact ⟨[], .nil _, List.forall_mem_nil _, failed⟩
      · cases ignored : rule.isIgnored with
        | true =>
          rw [next_of_ignored builtIn valid step (if_pos ignored)] at searched
          have less := remaining ▸ step.remaining_lt valid
          obtain ⟨pieces, path, skipped, failed⟩ := ih _ less (step.valid valid) searched rfl
          exact ⟨_ :: pieces, .cons step path,
            List.forall_mem_cons.mpr ⟨if_pos ignored, skipped⟩, failed⟩
        | false =>
          rw [next_of_kept valid step ignored] at searched
          cases searched
  · rintro ⟨pieces, path, skipped, failed⟩
    induction path with
    | nil c => rw [next_of_fails failed]
    | cons step _ ih =>
      obtain ⟨ignored, others⟩ := List.forall_mem_cons.mp skipped
      rw [next_of_ignored builtIn valid step ignored]
      exact ih (step.valid valid) others failed

/-- A path with a piece settles the token in progress together with the text of its pieces. -/
theorem Path.divides_of_ne_nil (path : lexer.Path c pieces after)
    (divides : c.Divides before pending rest) (passes : pieces ≠ []) :
    ∃ left, rest = pieces.flatMap Piece.segment ++ left ∧
      after.Divides (before ++ pending ++ pieces.flatMap Piece.segment) [] left := by
  cases path with
  | nil => contradiction
  | cons step later =>
    obtain ⟨middle, rfl, -, divided, -⟩ := step.divides divides
    obtain ⟨left, rfl, final⟩ := later.divides_passed divided
    rw [List.append_assoc, ← List.flatMap_cons] at final
    exact ⟨left, by rw [List.flatMap_cons, List.append_assoc], final⟩

/-- The text that a path passes is that of its pieces. -/
theorem Path.textBetween_eq (path : lexer.Path c pieces after) (valid : c.Valid) :
    c.textBetween c.pos after.pos = .ok (pieces.flatMap Piece.segment) := by
  obtain ⟨before, pending, rest, divides⟩ := Cursor.valid_iff_divides.mp valid
  by_cases passes : pieces = []
  · subst passes
    cases path
    simpa using divides.textBetween_pos 0
  · obtain ⟨left, whole, final⟩ := path.divides_of_ne_nil divides passes
    rw [divides.pos, final.pos, List.append_nil]
    apply divides.textBetween_eq _ _ left
    rw [whole, List.append_assoc _ _ left]

/-- A search that finds nothing has passed ignored matches and nothing else. If there are none, the
cursor is unchanged, and if there are some, no token is in progress behind them. No rule matches
where it stops, and to search again finds nothing, reports nothing and leaves the cursor as it is. -/
theorem next_stops_behind_ignored (accepted : (ofRules rules).outcome = .ok lexer)
    (builtIn : ∀ rule ∈ rules, rule.BuiltIn) (valid : c.Valid)
    (missed : (lexer.next c).outcome = .ok (none, after)) :
    (∃ pieces, lexer.Path c pieces after ∧
      c.textBetween c.pos after.pos = .ok (pieces.flatMap Piece.segment) ∧
      (∀ piece ∈ pieces, ∃ rule ∈ rules, rule.isIgnored = true ∧
        ∃ leaf segment token, piece = .matched rule leaf segment token) ∧
      (pieces = [] → after = c) ∧ (pieces ≠ [] → after.start = after.pos)) ∧
    (∀ rule ∈ rules, ∀ recognizer, rule.recognizer? = some recognizer →
      recognizer.recognize rule.kind after = .ok (none, after)) ∧
    lexer.next after = ⟨[], .ok (none, after)⟩ := by
  have tryable := builtIn_of_accepted accepted builtIn
  obtain ⟨pieces, path, skipped, failed⟩ := (next_eq_none_iff tryable valid).mp missed
  refine ⟨⟨pieces, path, path.textBetween_eq valid, ?_, ?_, ?_⟩, failsAt_of_tried accepted failed,
    next_of_fails failed⟩
  · intro piece member
    obtain ⟨rule, leaf, segment, token, rfl, ignored⟩ :=
      Piece.token?_eq_none_iff.mp (skipped piece member)
    obtain ⟨tried, -⟩ := path.rule_of_matched valid member
    exact ⟨rule, mem_of_tried accepted tried, ignored, leaf, segment, token, rfl⟩
  · rintro rfl
    cases path
    rfl
  · intro passes
    obtain ⟨before, pending, rest, divides⟩ := Cursor.valid_iff_divides.mp valid
    obtain ⟨left, -, final⟩ := path.divides_of_ne_nil divides passes
    exact final.start_eq_pos

/-- A name in progress goes with the spaces behind it, which are ignored, and a mark after it is no
match: the search stops before the mark. Right at the mark the name stays in progress. -/
theorem next_stops_behind_ignored_before_mark :
    ∃ (rules : List Rule) (lexer : Lexer) (c d after : Cursor) (pieces : List Piece),
      (ofRules rules).outcome = .ok lexer ∧
      (Cursor.ofString "é \n?").advance 1 = .ok (true, c) ∧
      (Cursor.ofString "é?").advance 1 = .ok (true, d) ∧
      (lexer.next c).outcome = .ok (none, after) ∧ after.pos = 4 ∧ after.start = 4 ∧
      lexer.Path c pieces after ∧ pieces.flatMap Piece.segment = [' ', '\n'] ∧
      lexer.next after = ⟨[], .ok (none, after)⟩ ∧
      (lexer.next d).outcome = .ok (none, d) ∧ d.pending = .ok ['é'] ∧
      lexer.next d = ⟨[], .ok (none, d)⟩ := by
  let space := (Rule.keep ⟨1⟩ "space" (.pattern (.run (Text.oneOf " ")))).ignored
  let line := (Rule.keep ⟨2⟩ "line" (.pattern (.literal (.ofList ["\n"]) .sensitive))).ignored
  let name := Rule.keep ⟨3⟩ "name" (.pattern .identifier)
  let call := Rule.virtual ⟨4⟩ "call"
  let lexer : Lexer := ⟨[space, line, name, call], 3⟩
  let c : Cursor := { Cursor.ofString "é \n?" with pos := 2 }
  let d : Cursor := { Cursor.ofString "é?" with pos := 2 }
  have accepted : (ofRules lexer.rules).outcome = .ok lexer := rfl
  have builtIn : ∀ rule ∈ lexer.rules, rule.BuiltIn := by
    simp [lexer, space, line, name, call, Rule.BuiltIn, Rule.keep, Rule.ignored, Rule.virtual,
      Rule.recognizer?, Recognizer.BuiltIn]
  have missed : (lexer.next c).outcome = .ok (none, c.settledAt 4) := rfl
  have missed' : (lexer.next d).outcome = .ok (none, d) := rfl
  obtain ⟨⟨pieces, path, text, -⟩, -, again⟩ := next_stops_behind_ignored accepted builtIn
    ⟨by decide, by decide, by decide, by decide⟩ missed
  obtain ⟨-, -, again'⟩ := next_stops_behind_ignored accepted builtIn
    ⟨by decide, by decide, by decide, by decide⟩ missed'
  have passed : c.textBetween 2 4 = .ok [' ', '\n'] := rfl
  exact ⟨_, lexer, c, d, _, pieces, accepted, rfl, rfl, missed, rfl, rfl, path,
    Except.ok.inj (text.symm.trans passed), again, missed', rfl, again'⟩

end Lexer

end Lexing
