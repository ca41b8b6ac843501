import Lexing.Proofs.Lexer.Path

/-! # Any number of pulls

One pull goes over ignored pieces until it finds a token or the end of the text. `Search` is this
run as a relation over the steps of a lexer, and `Search.pull` ties it to the function. A stream is
pulled any number of times, past its end too; what the steps of a lexer keep, all these pulls keep.
The induction is done once, for two cursors whose steps go together (`pulls_related`). An invariant
of one stream is the case of a cursor that goes together with itself (`pulls_keep`).
-/

namespace Lexing

namespace Lexer

/-- A search passes ignored pieces and stops behind the first piece with a token, or at the end of
the text without one. -/
inductive Search (lexer : Lexer) : Cursor → Option Token → Cursor → Prop
  | ended {c : Cursor} (atEnd : c.pos = c.size) : Search lexer c none c
  | found {c after : Cursor} {piece : Piece} {token : Token} (step : lexer.Step c piece after)
      (yielded : piece.token? = some token) : Search lexer c (some token) after
  | skipped {c middle last : Cursor} {piece : Piece} {found : Option Token}
      (step : lexer.Step c piece middle) (ignored : piece.token? = none)
      (later : Search lexer middle found last) : Search lexer c found last

variable {lexer : Lexer} {c last : Cursor} {found : Option Token}

theorem exists_search (builtIn : lexer.BuiltIn) (valid : c.Valid) :
    ∃ found last, lexer.Search c found last := by
  obtain ⟨pieces, last, path, ended⟩ := exists_path builtIn valid
  clear valid
  induction path with
  | nil c => exact ⟨none, c, .ended ended⟩
  | @cons c middle last piece pieces step _ ih =>
    cases yielded : piece.token? with
    | none =>
      obtain ⟨found, stop, later⟩ := ih ended
      exact ⟨found, stop, .skipped step yielded later⟩
    | some token => exact ⟨some token, middle, .found step yielded⟩

namespace Search

/-- Without a token the search has come to the end of the text. -/
theorem pos_eq_size (search : lexer.Search c none last) : last.pos = last.size := by
  generalize missing : (none : Option Token) = found at search
  induction search with
  | ended atEnd => exact atEnd
  | found step yielded => contradiction
  | skipped step ignored later ih => exact ih missing

/-- The next token of a stream is what the search from its cursor finds. -/
theorem pull (search : lexer.Search c found last) (builtIn : lexer.BuiltIn) (valid : c.Valid)
    (running : c.canceled = false) :
    (⟨lexer, c, false⟩ : Stream).pull.outcome = .ok (found, ⟨lexer, last, found.isNone⟩) := by
  induction search with
  | ended atEnd =>
    obtain ⟨before, pending, rest, divides⟩ := Cursor.valid_iff_divides.mp valid
    obtain rfl := divides.pos_eq_size_iff.mp atEnd
    rw [Stream.pull_of_end builtIn divides running]
    rfl
  | found step yielded =>
    rw [Stream.pull_of_token valid running step yielded]
    rfl
  | skipped step ignored later ih =>
    rw [Stream.pull_of_ignored builtIn valid running step ignored]
    exact ih (step.valid valid) ((step.alike valid).canceled.trans running)

end Search

end Lexer

namespace Stream

/-- At a canceled cursor a pull yields nothing and leaves the cursor as it is. -/
theorem pull_of_canceled {s : Stream} (canceled : s.cursor.canceled = true) :
    s.pull.outcome = .ok (none, { s with finished := true }) := by
  obtain ⟨lexer, c, _ | _⟩ := s
  · rw [pull, if_neg Bool.false_ne_true, if_pos canceled]
    rfl
  · rfl

/-- What a search and the fallback to a single character make of a pull, apart from the reports. -/
theorem pull_outcome {lexer : Lexer} {c : Cursor} (running : c.canceled = false) :
    (⟨lexer, c, false⟩ : Stream).pull.outcome = (lexer.next c).outcome >>= fun (found, middle) =>
      match found with
      | some token => .ok (some token, ⟨lexer, middle, false⟩)
      | none => middle.current >>= fun current =>
        match current with
        | none => .ok (none, ⟨lexer, middle, true⟩)
        | some char => middle.commit 1 >>= fun after =>
          .ok (some (.unrecognized char), ⟨lexer, after, false⟩) := by
  rw [pull_of_running running, Traced.outcome_bind]
  refine congrArg _ (funext fun result => ?_)
  obtain ⟨_ | token, middle⟩ := result
  · refine (Traced.outcome_bind ..).trans (congrArg _ (funext fun current => ?_))
    cases current with
    | none => rfl
    | some char =>
      simp only [Traced.outcome_bind, Traced.report, Traced.ofExcept, ok_bind, Traced.pure_eq]
  · rfl

/-- Draining is pulling until there is no token, apart from the reports. -/
theorem drainWithin_succ (s : Stream) (m : Nat) :
    (drainWithin (m + 1) s).outcome = s.pull.outcome >>= fun (found, s) =>
      match found with
      | none => .ok ([], s)
      | some token => (drainWithin m s).outcome.map fun (tokens, s) => (token :: tokens, s) := by
  rw [drainWithin, Traced.outcome_bind]
  refine congrArg _ (funext fun result => ?_)
  obtain ⟨_ | token, middle⟩ := result
  · rfl
  · rfl

/-- The answers to so many pulls, and the stream after the last. -/
def pulls : Nat → Stream → Except Fault (List (Option Token) × Stream)
  | 0, s => .ok ([], s)
  | n + 1, s => do
    let (found, s) ← s.pull.outcome
    let (later, s) ← pulls n s
    return (found :: later, s)

theorem pulls_succ {n : Nat} {s middle last : Stream} {found : Option Token}
    {later : List (Option Token)} (first : s.pull.outcome = .ok (found, middle))
    (others : middle.pulls n = .ok (later, last)) :
    s.pulls (n + 1) = .ok (found :: later, last) := by
  simp only [pulls, first, ok_bind, others]
  rfl

/-- A stream that has ended stays as it is. -/
theorem pulls_finished (lexer : Lexer) (c : Cursor) (n : Nat) :
    (⟨lexer, c, true⟩ : Stream).pulls n = .ok (List.replicate n none, ⟨lexer, c, true⟩) := by
  induction n with
  | zero => rfl
  | succ n ih => exact pulls_succ rfl ih

variable {lexer : Lexer} {c d : Cursor}

/-- Cursors whose steps go together stay together: `R` asks of two cursors that both are in order
and running, that the second is at its end when the first is, and that a step from the first is
one from the second, with the same piece, to cursors that are related again. -/
structure Together (lexer : Lexer) (R : Cursor → Cursor → Prop) : Prop where
  left : ∀ {c d}, R c d → c.Valid ∧ c.canceled = false
  right : ∀ {c d}, R c d → d.Valid ∧ d.canceled = false
  ended : ∀ {c d}, R c d → c.pos = c.size → d.pos = d.size
  step : ∀ {c d piece after}, R c d → lexer.Step c piece after →
    ∃ after', lexer.Step d piece after' ∧ R after after'

variable {R : Cursor → Cursor → Prop}

theorem Together.path {last : Cursor} {pieces : List Piece} (together : Together lexer R)
    (related : R c d) (path : lexer.Path c pieces last) :
    ∃ last', lexer.Path d pieces last' ∧ R last last' := by
  induction path generalizing d with
  | nil c => exact ⟨d, .nil d, related⟩
  | cons step _ ih =>
    obtain ⟨middle, step', relatedMiddle⟩ := together.step related step
    obtain ⟨last', path', relatedLast⟩ := ih relatedMiddle
    exact ⟨last', .cons step' path', relatedLast⟩

theorem Together.search {last : Cursor} {found : Option Token} (together : Together lexer R)
    (related : R c d) (search : lexer.Search c found last) :
    ∃ last', lexer.Search d found last' ∧ R last last' := by
  induction search generalizing d with
  | ended atEnd => exact ⟨d, .ended (together.ended related atEnd), related⟩
  | found step yielded =>
    obtain ⟨after', step', relatedAfter⟩ := together.step related step
    exact ⟨after', .found step' yielded, relatedAfter⟩
  | skipped step ignored later ih =>
    obtain ⟨middle, step', relatedMiddle⟩ := together.step related step
    obtain ⟨last', search', relatedLast⟩ := ih relatedMiddle
    exact ⟨last', .skipped step' ignored search', relatedLast⟩

/-- Any number of pulls from two related cursors give the same answers and end at related cursors,
and a stream that has ended is at the end of its text. -/
theorem pulls_related (together : Together lexer R) (builtIn : lexer.BuiltIn) (related : R c d)
    (n : Nat) :
    ∃ answers last last' finished,
      (⟨lexer, c, false⟩ : Stream).pulls n = .ok (answers, ⟨lexer, last, finished⟩) ∧
      (⟨lexer, d, false⟩ : Stream).pulls n = .ok (answers, ⟨lexer, last', finished⟩) ∧
      R last last' ∧ (finished = true → last.pos = last.size) := by
  induction n generalizing c d with
  | zero => exact ⟨[], c, d, false, rfl, rfl, related, nofun⟩
  | succ n ih =>
    obtain ⟨valid, running⟩ := together.left related
    obtain ⟨valid', running'⟩ := together.right related
    obtain ⟨found, middle, search⟩ := Lexer.exists_search builtIn valid
    obtain ⟨middle', search', relatedMiddle⟩ := together.search related search
    have pulled := search.pull builtIn valid running
    have pulled' := search'.pull builtIn valid' running'
    cases found with
    | none =>
      exact ⟨_, middle, middle', true, pulls_succ pulled (pulls_finished ..),
        pulls_succ pulled' (pulls_finished ..), relatedMiddle, fun _ => search.pos_eq_size⟩
    | some token =>
      obtain ⟨later, last, last', finished, pulls, pulls', relatedLast, ended⟩ := ih relatedMiddle
      exact ⟨_, last, last', finished, pulls_succ pulled pulls, pulls_succ pulled' pulls',
        relatedLast, ended⟩

/-- What every step of a lexer keeps holds after any number of pulls. -/
theorem pulls_keep (Inv : Cursor → Prop) (builtIn : lexer.BuiltIn)
    (ready : ∀ {c}, Inv c → c.Valid ∧ c.canceled = false)
    (keeps : ∀ {c piece after}, Inv c → lexer.Step c piece after → Inv after) (holds : Inv c)
    (n : Nat) :
    ∃ answers last finished,
      (⟨lexer, c, false⟩ : Stream).pulls n = .ok (answers, ⟨lexer, last, finished⟩) ∧
      Inv last ∧ (finished = true → last.pos = last.size) := by
  have together : Together lexer fun c d => c = d ∧ Inv c :=
    { left := fun related => ready related.2
      right := fun related => related.1 ▸ ready related.2
      ended := fun related => related.1 ▸ id
      step := by
        rintro c d piece after ⟨rfl, inv⟩ step
        exact ⟨after, step, rfl, keeps inv step⟩ }
  obtain ⟨answers, last, _, finished, pulls, -, ⟨-, inv⟩, ended⟩ :=
    pulls_related together builtIn ⟨rfl, holds⟩ n
  exact ⟨answers, last, finished, pulls, inv, ended⟩

end Stream

end Lexing
