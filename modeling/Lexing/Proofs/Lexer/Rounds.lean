import Lexing.Proofs.Lexer.Path

/-! # The rounds of a search

A search tries the rules in rounds, each of which begins behind the last ignored match. `Runs` is
this loop as a relation without a bound on its rounds; it counts how often the search has started
over. The function comes to an answer exactly if such a run has fewer restarts than the function has
tries (`nextWithin_eq_ok_iff`). Nothing is asked of the recognizers here: they may match without
progress, and change the cursor without a match.
-/

namespace Lexing.Lexer

variable {lexer : Lexer} {origin n tries : Nat} {c d middle after : Cursor} {found : Option Token}
  {rule : Rule} {recognizer : Recognizer} {earlier later rest : List Rule}

/-! ## One round -/

/-- The match of a rule, if it counts: the position has to be another than at the beginning of the
round. -/
def counted (origin : Nat) (after : Cursor) (found : Option Token) : Option Token :=
  if after.pos = origin then none else found

theorem counted_eq_some {token : Token} (counts : counted origin after found = some token) :
    found = some token ∧ after.pos ≠ origin := by
  unfold counted at counts
  split at counts
  · contradiction
  · next moved => exact ⟨counts, moved⟩

/-- An attempt ends the round if its match counts. If not, the other rules are tried at the cursor
it has left. -/
theorem tryRules_cons (tried : rule.recognizer? = some recognizer) :
    (tryRules origin (rule :: rest) c).outcome =
      recognizer.recognize rule.kind c >>= fun (found, middle) =>
        match counted origin middle found with
        | none => (tryRules origin rest middle).outcome
        | some token => .ok (if rule.isIgnored then .skipped else .token token, middle) := by
  rw [tryRules, tried]
  refine (Traced.outcome_bind ..).trans (congrArg _ (funext fun result => ?_))
  obtain ⟨_ | token, middle⟩ := result
  · simp only [counted, ite_self]
  · by_cases idle : middle.pos = origin
    · simp only [counted, if_pos idle]
      rfl
    · simp only [counted, if_neg idle]
      split
      · rfl
      · rfl

/-- A round ends with its first attempt or goes on with the other rules. -/
theorem exists_attempt {answer : Found} (tried : rule.recognizer? = some recognizer)
    (round : (tryRules origin (rule :: rest) c).outcome = .ok (answer, after)) :
    ∃ found middle, recognizer.recognize rule.kind c = .ok (found, middle) ∧
      (middle = after ∨ (tryRules origin rest middle).outcome = .ok (answer, after)) := by
  rw [tryRules_cons tried] at round
  obtain ⟨⟨found, middle⟩, recognized, others⟩ := bind_eq_ok.mp round
  refine ⟨found, middle, recognized, ?_⟩
  dsimp only at others
  cases counts : counted origin middle found with
  | none =>
    rw [counts] at others
    exact .inr others
  | some token =>
    rw [counts] at others
    exact .inl (Prod.mk.inj (Except.ok.inj others)).2

theorem tryRules_cons_virtual (virtual : rule.recognizer? = none) :
    tryRules origin (rule :: rest) c = tryRules origin rest c := by
  rw [tryRules, virtual]

/-- If nothing comes of some rules, those after them are tried at the cursor these have left. -/
theorem tryRules_append (nothing : (tryRules origin earlier c).outcome = .ok (.nothing, d)) :
    (tryRules origin (earlier ++ later) c).outcome = (tryRules origin later d).outcome := by
  induction earlier generalizing c with
  | nil => cases nothing; rfl
  | cons rule earlier ih =>
    rw [List.cons_append]
    cases tried : rule.recognizer? with
    | none =>
      rw [tryRules_cons_virtual tried] at nothing ⊢
      exact ih nothing
    | some recognizer =>
      rw [tryRules_cons tried] at nothing ⊢
      obtain ⟨⟨found, middle⟩, recognized, others⟩ := bind_eq_ok.mp nothing
      rw [recognized, ok_bind]
      dsimp only at others ⊢
      cases counts : counted origin middle found with
      | none =>
        rw [counts] at others
        exact ih others
      | some token =>
        -- A match that counts is never nothing.
        rw [counts] at others
        have impossible := (Prod.mk.inj (Except.ok.inj others)).1
        split at impossible
        · contradiction
        · contradiction

/-! ## All rounds -/

/-- A search of any length: it starts over so many times, each time behind an ignored match, and
its last round comes to an answer. -/
inductive Runs (lexer : Lexer) : Nat → Cursor → Option Token → Cursor → Prop
  | nothing {c after : Cursor}
      (round : (tryRules c.pos lexer.tried c).outcome = .ok (.nothing, after)) :
      Runs lexer 0 c none after
  | token {c after : Cursor} {token : Token}
      (round : (tryRules c.pos lexer.tried c).outcome = .ok (.token token, after)) :
      Runs lexer 0 c (some token) after
  | restart {n : Nat} {c middle after : Cursor} {found : Option Token}
      (round : (tryRules c.pos lexer.tried c).outcome = .ok (.skipped, middle))
      (later : Runs lexer n middle found after) : Runs lexer (n + 1) c found after

/-- The bounded search comes to an answer exactly if it needs no more restarts than it has tries
left after the first. -/
theorem nextWithin_eq_ok_iff :
    (lexer.nextWithin tries c).outcome = .ok (found, after) ↔
      ∃ n < tries, lexer.Runs n c found after := by
  constructor
  · intro searched
    induction tries generalizing c with
    | zero => contradiction
    | succ tries ih =>
      rw [nextWithin_outcome] at searched
      obtain ⟨⟨answer, middle⟩, round, rest⟩ := bind_eq_ok.mp searched
      cases answer with
      | nothing => cases rest; exact ⟨0, Nat.succ_pos _, .nothing round⟩
      | token token => cases rest; exact ⟨0, Nat.succ_pos _, .token round⟩
      | skipped =>
        obtain ⟨n, fewer, later⟩ := ih rest
        exact ⟨n + 1, Nat.succ_lt_succ fewer, .restart round later⟩
  · rintro ⟨n, fewer, run⟩
    induction run generalizing tries with
    | nothing round =>
      obtain ⟨tries, rfl⟩ := Nat.exists_eq_add_of_lt fewer
      rw [Nat.zero_add, nextWithin_outcome, round]
      rfl
    | token round =>
      obtain ⟨tries, rfl⟩ := Nat.exists_eq_add_of_lt fewer
      rw [Nat.zero_add, nextWithin_outcome, round]
      rfl
    | restart round _ ih =>
      obtain ⟨tries, rfl⟩ : ∃ k, tries = k + 1 := ⟨tries - 1, by omega⟩
      rw [nextWithin_outcome, round]
      exact ih (Nat.lt_of_succ_lt_succ fewer)

end Lexing.Lexer
