import Lexing.Proofs.Recognizer.Choice
import Lexing.Stream

/-! # The path of a lexer through a text

A lexer passes a text piece by piece. A piece is the text of one match, kept or ignored, or a single
character that no rule recognizes. `Step` says when a piece may come next at a cursor, in terms of
what the recognizers of the rules answer there, and a `Path` is a finite run of steps. The functions
that pull tokens have their own loops, with restarts inside a pull; the lemmas here tie each of them
to one step, so that a drained stream yields the tokens of the pieces of its path in their order.
-/

namespace Lexing

namespace Rule

/-- A rule without a function written by hand. -/
def BuiltIn (rule : Rule) : Prop :=
  ∀ recognizer, rule.recognizer? = some recognizer → recognizer.BuiltIn

/-- A rule is tried at a cursor and does not match. -/
def FailsAt (rule : Rule) (c : Cursor) : Prop :=
  ∀ recognizer, rule.recognizer? = some recognizer →
    recognizer.recognize rule.kind c = .ok (none, c)

end Rule

/-- A stretch of text that a lexer passes at once. -/
inductive Piece
  /-- The segment that a pattern of a rule covers, with the token made of it. -/
  | matched (rule : Rule) (leaf : Pattern) (segment : List Char) (token : Token)
  /-- A character that no rule recognizes. -/
  | unknown (char : Char)

namespace Piece

/-- The text of a piece. -/
def segment : Piece → List Char
  | matched _ _ segment _ => segment
  | unknown char => [char]

/-- The token that a stream yields for a piece, unless the piece is ignored. -/
def token? : Piece → Option Token
  | matched rule _ _ token => if rule.isIgnored then none else some token
  | unknown char => some (.unrecognized char)

end Piece

namespace Lexer

/-- The rules that are tried at a cursor. -/
def tried (lexer : Lexer) : List Rule := lexer.rules.take lexer.recognizing

/-- No rule with a function written by hand is tried. -/
def BuiltIn (lexer : Lexer) : Prop := ∀ rule ∈ lexer.tried, rule.BuiltIn

/-- A lexer passes one piece of text. A match belongs to the first rule that matches, and a
character is unknown where none does. -/
inductive Step (lexer : Lexer) : Cursor → Piece → Cursor → Prop
  | matched {c after : Cursor} {earlier later : List Rule} {rule : Rule} {recognizer : Recognizer}
      {leaf : Pattern} {segment : List Char} {token : Token}
      (rules : lexer.tried = earlier ++ rule :: later)
      (failed : ∀ other ∈ earlier, other.FailsAt c)
      (tried : rule.recognizer? = some recognizer)
      (origin : recognizer.MatchedBy rule.kind c token after leaf)
      (passed : c.textBetween c.pos after.pos = .ok segment) :
      Step lexer c (.matched rule leaf segment token) after
  | unknown {c after : Cursor} {char : Char}
      (failed : ∀ rule ∈ lexer.tried, rule.FailsAt c)
      (current : c.current = .ok (some char))
      (passed : c.commit 1 = .ok after) :
      Step lexer c (.unknown char) after

/-- A finite run of steps with the pieces they pass. -/
inductive Path (lexer : Lexer) : Cursor → List Piece → Cursor → Prop
  | nil (c : Cursor) : Path lexer c [] c
  | cons {c middle last : Cursor} {piece : Piece} {pieces : List Piece}
      (step : lexer.Step c piece middle) (rest : Path lexer middle pieces last) :
      Path lexer c (piece :: pieces) last

variable {lexer : Lexer} {c after : Cursor} {before pending rest : List Char}

/-! ## One step -/

/-- Where rules built of patterns are tried, all of them fail or one of them is the first to
match. -/
theorem fails_or_exists_match {rules : List Rule} (builtIn : ∀ rule ∈ rules, rule.BuiltIn)
    (divides : c.Divides before pending rest) :
    (∀ rule ∈ rules, rule.FailsAt c) ∨
      ∃ earlier rule later recognizer leaf token after, rules = earlier ++ rule :: later ∧
        (∀ other ∈ earlier, other.FailsAt c) ∧ rule.recognizer? = some recognizer ∧
        recognizer.MatchedBy rule.kind c token after leaf := by
  induction rules with
  | nil => exact .inl (List.forall_mem_nil _)
  | cons rule rules ih =>
    have others : ∀ other ∈ rules, other.BuiltIn :=
      fun other member => builtIn other (List.mem_cons_of_mem _ member)
    by_cases fails : rule.FailsAt c
    · rcases ih others with
        failed | ⟨earlier, found, later, recognizer, leaf, token, after, rfl, failed, rest⟩
      · exact .inl (List.forall_mem_cons.mpr ⟨fails, failed⟩)
      · exact .inr ⟨rule :: earlier, found, later, recognizer, leaf, token, after, rfl,
          List.forall_mem_cons.mpr ⟨fails, failed⟩, rest⟩
    · simp only [Rule.FailsAt, Classical.not_forall] at fails
      obtain ⟨recognizer, tried, succeeds⟩ := fails
      have known := builtIn rule (List.mem_cons_self ..) recognizer tried
      rcases Recognizer.recognize_cases known divides rule.kind with failed | ⟨leaf, n, -, matched⟩
      · exact absurd failed succeeds
      · exact .inr ⟨[], rule, rules, recognizer, leaf, _, _, rfl, List.forall_mem_nil _, tried, matched⟩

/-- A step passes a piece of the untested text that is not empty, and no token is in progress
behind it. -/
theorem Step.divides {piece : Piece} (step : lexer.Step c piece after)
    (divides : c.Divides before pending rest) :
    ∃ left, rest = piece.segment ++ left ∧ piece.segment ≠ [] ∧
      after.Divides (before ++ pending ++ piece.segment) [] left ∧ c.Alike after := by
  cases step with
  | matched rules failed tried origin passed =>
    obtain ⟨n, width, -, rfl⟩ := origin.extent divides
    cases (divides.textBetween_pos n).symm.trans passed
    exact ⟨rest.drop n, (List.take_append_drop n rest).symm, Pattern.take_ne_nil_of_width? width,
      Pattern.divides_after divides _ n, Pattern.alike_after _ rest n c⟩
  | unknown failed current passed =>
    rw [divides.current_eq] at current
    obtain ⟨left, rfl⟩ := List.head?_eq_some_iff.mp (Except.ok.inj current)
    rw [divides.commit_eq] at passed
    cases passed
    exact ⟨left, rfl, List.cons_ne_nil _ _, divides.divides_settled 1, rfl, rfl, rfl, rfl⟩

theorem Step.pos_lt {piece : Piece} (step : lexer.Step c piece after) (valid : c.Valid) :
    c.pos < after.pos := by
  obtain ⟨before, pending, rest, divides⟩ := Cursor.valid_iff_divides.mp valid
  obtain ⟨left, -, nonempty, divided, -⟩ := step.divides divides
  have positive : Text.byteSize piece.segment ≠ 0 := mt Text.byteSize_eq_zero_iff.mp nonempty
  rw [divides.pos, divided.pos, List.append_nil, Text.byteSize_append _ piece.segment]
  omega

theorem Step.valid {piece : Piece} (step : lexer.Step c piece after) (valid : c.Valid) :
    after.Valid := by
  obtain ⟨before, pending, rest, divides⟩ := Cursor.valid_iff_divides.mp valid
  obtain ⟨left, -, -, divided, -⟩ := step.divides divides
  exact divided.valid

theorem Step.alike {piece : Piece} (step : lexer.Step c piece after) (valid : c.Valid) :
    c.Alike after := by
  obtain ⟨before, pending, rest, divides⟩ := Cursor.valid_iff_divides.mp valid
  obtain ⟨left, -, -, -, alike⟩ := step.divides divides
  exact alike

/-- Every step leaves less text. -/
theorem Step.remaining_lt {piece : Piece} (step : lexer.Step c piece after) (valid : c.Valid) :
    after.size - after.pos < c.size - c.pos := by
  have moved := step.pos_lt valid
  have bounded := (step.valid valid).pos_le_size
  have sameSize : after.size = c.size := congrArg Source.size (step.alike valid).source
  omega

theorem fails_or_exists_step (builtIn : lexer.BuiltIn) (divides : c.Divides before pending rest) :
    (∀ rule ∈ lexer.tried, rule.FailsAt c) ∨
      ∃ rule leaf segment token after, lexer.Step c (.matched rule leaf segment token) after := by
  rcases fails_or_exists_match builtIn divides with
    failed | ⟨earlier, rule, later, recognizer, leaf, token, after, rules, failed, tried, origin⟩
  · exact .inl failed
  · obtain ⟨n, width, -, rfl⟩ := origin.extent divides
    exact .inr ⟨_, _, _, _, _, .matched rules failed tried origin (divides.textBetween_pos n)⟩

/-- While untested text remains there is a step. -/
theorem exists_step (builtIn : lexer.BuiltIn) (divides : c.Divides before pending rest)
    (remains : rest ≠ []) : ∃ piece after, lexer.Step c piece after := by
  rcases fails_or_exists_step builtIn divides with failed | ⟨_, _, _, _, after, step⟩
  · obtain ⟨char, left, rfl⟩ := List.exists_cons_of_ne_nil remains
    exact ⟨.unknown char, _, .unknown failed divides.current_eq (divides.commit_eq 1)⟩
  · exact ⟨_, after, step⟩

/-- At the end of the text no rule matches. -/
theorem fails_at_end (builtIn : lexer.BuiltIn) (divides : c.Divides before pending []) :
    ∀ rule ∈ lexer.tried, rule.FailsAt c := by
  rcases fails_or_exists_step builtIn divides with failed | ⟨_, _, _, _, _, step⟩
  · exact failed
  · obtain ⟨left, split, nonempty, -⟩ := step.divides divides
    exact absurd (List.append_eq_nil_iff.mp split.symm).1 nonempty

/-! ## The search for the next token -/

theorem tryRules_of_fails {origin : Nat} {earlier later : List Rule}
    (failed : ∀ rule ∈ earlier, rule.FailsAt c) :
    tryRules origin (earlier ++ later) c = tryRules origin later c := by
  induction earlier with
  | nil => rfl
  | cons rule earlier ih =>
    obtain ⟨fails, others⟩ := List.forall_mem_cons.mp failed
    rw [List.cons_append, tryRules]
    split
    · exact ih others
    · next recognizer tried =>
      rw [fails recognizer tried]
      exact ih others

/-- A rule that matches ends the try, whatever rules come after it. -/
theorem tryRules_of_match {rule : Rule} {recognizer : Recognizer} {leaf : Pattern} {token : Token}
    (tried : rule.recognizer? = some recognizer)
    (origin : recognizer.MatchedBy rule.kind c token after leaf) (moved : c.pos < after.pos)
    (later : List Rule) :
    tryRules c.pos (rule :: later) c =
      if rule.isIgnored then ⟨[], .ok (.skipped, after)⟩
      else ⟨[.token token.kind rule.name token.value], .ok (.token token, after)⟩ := by
  rw [tryRules, tried]
  simp only [Traced.ofExcept, origin.recognize, Traced.bind_ok, List.nil_append,
    if_neg (Nat.ne_of_gt moved)]
  split
  · rfl
  · rfl

/-- What the first rule that matches makes of its match. -/
theorem tryRules_of_step {rule : Rule} {leaf : Pattern} {segment : List Char} {token : Token}
    (step : lexer.Step c (.matched rule leaf segment token) after) (valid : c.Valid) :
    tryRules c.pos lexer.tried c =
      if rule.isIgnored then ⟨[], .ok (.skipped, after)⟩
      else ⟨[.token token.kind rule.name token.value], .ok (.token token, after)⟩ := by
  have moved := step.pos_lt valid
  cases step with
  | matched rules failed tried origin passed =>
    rw [rules, tryRules_of_fails failed]
    exact tryRules_of_match tried origin moved _

theorem tryRules_nothing {origin : Nat} {rules : List Rule}
    (failed : ∀ rule ∈ rules, rule.FailsAt c) :
    tryRules origin rules c = ⟨[], .ok (.nothing, c)⟩ := by
  have nothing : tryRules origin (rules ++ []) c = tryRules origin [] c := tryRules_of_fails failed
  rw [List.append_nil] at nothing
  rw [nothing]
  rfl

/-- What a search makes of one try of the rules, if it goes on with `search` behind an ignored
match. -/
def Found.conclude (search : Cursor → Except Fault (Option Token × Cursor)) (after : Cursor) :
    Found → Except Fault (Option Token × Cursor)
  | .nothing => .ok (none, after)
  | .skipped => search after
  | .token made => .ok (some made, after)

theorem nextWithin_outcome (lexer : Lexer) (tries : Nat) (c : Cursor) :
    (lexer.nextWithin (tries + 1) c).outcome =
      (tryRules c.pos lexer.tried c).outcome >>= fun (found, after) =>
        found.conclude (fun middle => (lexer.nextWithin tries middle).outcome) after := by
  rw [nextWithin, Traced.outcome_bind]
  refine congrArg _ (funext fun result => ?_)
  obtain ⟨_ | _ | token, after⟩ := result
  · rfl
  · rfl
  · rfl

theorem nextWithin_of_fails (failed : ∀ rule ∈ lexer.tried, rule.FailsAt c) (tries : Nat) :
    lexer.nextWithin (tries + 1) c = ⟨[], .ok (none, c)⟩ := by
  rw [nextWithin, show lexer.rules.take lexer.recognizing = lexer.tried from rfl,
    tryRules_nothing failed]
  rfl

theorem nextWithin_of_step {rule : Rule} {leaf : Pattern} {segment : List Char} {token : Token}
    (step : lexer.Step c (.matched rule leaf segment token) after) (valid : c.Valid) (tries : Nat) :
    lexer.nextWithin (tries + 1) c =
      if rule.isIgnored then lexer.nextWithin tries after
      else ⟨[.token token.kind rule.name token.value], .ok (some token, after)⟩ := by
  rw [nextWithin, show lexer.rules.take lexer.recognizing = lexer.tried from rfl,
    tryRules_of_step step valid]
  split
  · rfl
  · rfl

/-- One try more than bytes remain is enough, and further tries change nothing. -/
theorem nextWithin_enough (builtIn : lexer.BuiltIn) (valid : c.Valid) {m n : Nat}
    (enough : c.size - c.pos < m) (more : c.size - c.pos < n) :
    lexer.nextWithin m c = lexer.nextWithin n c := by
  induction m generalizing n c with
  | zero => omega
  | succ m ih =>
    obtain ⟨n, rfl⟩ : ∃ k, n = k + 1 := ⟨n - 1, by omega⟩
    obtain ⟨before, pending, rest, divides⟩ := Cursor.valid_iff_divides.mp valid
    rcases fails_or_exists_step builtIn divides with failed | ⟨_, _, _, _, after, step⟩
    · rw [nextWithin_of_fails failed, nextWithin_of_fails failed]
    · have less := step.remaining_lt valid
      rw [nextWithin_of_step step valid, nextWithin_of_step step valid]
      split
      · exact ih (step.valid valid) (by omega) (by omega)
      · rfl

theorem next_of_fails (failed : ∀ rule ∈ lexer.tried, rule.FailsAt c) :
    lexer.next c = ⟨[], .ok (none, c)⟩ := nextWithin_of_fails failed _

/-- An ignored match is passed inside one search, which goes on as if it had begun behind it. -/
theorem next_of_ignored (builtIn : lexer.BuiltIn) (valid : c.Valid) {piece : Piece}
    (step : lexer.Step c piece after) (ignored : piece.token? = none) :
    lexer.next c = lexer.next after := by
  cases piece with
  | unknown char => contradiction
  | matched rule leaf segment token =>
    have less := step.remaining_lt valid
    have skipped : rule.isIgnored = true := by
      cases skipped : rule.isIgnored with
      | true => rfl
      | false => simp [Piece.token?, skipped] at ignored
    rw [next, nextWithin_of_step step valid, if_pos skipped, next]
    exact nextWithin_enough builtIn (step.valid valid) (by omega) (by omega)

theorem next_of_kept {rule : Rule} {leaf : Pattern} {segment : List Char} {token : Token}
    (valid : c.Valid) (step : lexer.Step c (.matched rule leaf segment token) after)
    (kept : rule.isIgnored = false) :
    lexer.next c = ⟨[.token token.kind rule.name token.value], .ok (some token, after)⟩ := by
  rw [next, nextWithin_of_step step valid, kept]
  rfl

/-- A search always comes to an answer. -/
theorem exists_next (builtIn : lexer.BuiltIn) (valid : c.Valid) :
    ∃ found after, (lexer.next c).outcome = .ok (found, after) := by
  generalize remaining : c.size - c.pos = bytes
  induction bytes using Nat.strongRecOn generalizing c with
  | ind bytes ih =>
    obtain ⟨before, pending, rest, divides⟩ := Cursor.valid_iff_divides.mp valid
    rcases fails_or_exists_step builtIn divides with failed | ⟨rule, _, _, token, after, step⟩
    · exact ⟨none, c, by rw [next_of_fails failed]⟩
    · cases ignored : rule.isIgnored with
      | true =>
        have passed : lexer.next c = lexer.next after :=
          next_of_ignored builtIn valid step (if_pos ignored)
        rw [passed]
        exact ih _ (remaining ▸ step.remaining_lt valid) (step.valid valid) rfl
      | false => exact ⟨some token, after, by rw [next_of_kept valid step ignored]⟩

end Lexer

namespace Stream

variable {lexer : Lexer} {c after : Cursor} {before pending rest : List Char}

/-! ## Pulling tokens -/

theorem pull_of_running (running : c.canceled = false) :
    (⟨lexer, c, false⟩ : Stream).pull = (do
      let (found, c) ← lexer.next c
      match found with
      | some token => return (some token, ⟨lexer, c, false⟩)
      | none =>
        match ← Traced.ofExcept c.current with
        | none => return (none, ⟨lexer, c, true⟩)
        | some char =>
          Traced.report (.unrecognized char c.pos c.line)
          let c ← Traced.ofExcept (c.commit 1)
          return (some (.unrecognized char), ⟨lexer, c, false⟩)) := by
  rw [pull, if_neg Bool.false_ne_true, running]
  exact if_neg Bool.false_ne_true

theorem pull_of_ignored (builtIn : lexer.BuiltIn) (valid : c.Valid) (running : c.canceled = false)
    {piece : Piece} (step : lexer.Step c piece after) (ignored : piece.token? = none) :
    (⟨lexer, c, false⟩ : Stream).pull = (⟨lexer, after, false⟩ : Stream).pull := by
  have stillRunning := (step.alike valid).canceled.trans running
  rw [pull_of_running running, pull_of_running stillRunning,
    Lexer.next_of_ignored builtIn valid step ignored]

/-- What a stream reports about a piece at a cursor. -/
def report (c : Cursor) : Piece → List Event
  | .matched rule _ _ token =>
    if rule.isIgnored then [] else [.token token.kind rule.name token.value]
  | .unknown char => [.unrecognized char c.pos c.line]

/-- A piece with a token is what a pull yields. -/
theorem pull_of_token (valid : c.Valid) (running : c.canceled = false) {piece : Piece}
    {token : Token} (step : lexer.Step c piece after) (yielded : piece.token? = some token) :
    (⟨lexer, c, false⟩ : Stream).pull =
      ⟨report c piece, .ok (some token, ⟨lexer, after, false⟩)⟩ := by
  rw [pull_of_running running]
  cases piece with
  | matched rule leaf segment made =>
    have kept : rule.isIgnored = false ∧ made = token := by
      simpa [Piece.token?] using yielded
    obtain ⟨kept, rfl⟩ := kept
    rw [Lexer.next_of_kept valid step kept, report, kept]
    rfl
  | unknown char =>
    cases yielded
    cases step with
    | unknown failed current passed =>
      rw [Lexer.next_of_fails failed]
      simp only [Traced.bind_ok, current, passed, Traced.ofExcept, Traced.report]
      rfl

/-- A pull at the end of the text yields nothing and finishes the stream. -/
theorem pull_of_end (builtIn : lexer.BuiltIn) (divides : c.Divides before pending [])
    (running : c.canceled = false) :
    (⟨lexer, c, false⟩ : Stream).pull = ⟨[], .ok (none, ⟨lexer, c, true⟩)⟩ := by
  rw [pull_of_running running, Lexer.next_of_fails (Lexer.fails_at_end builtIn divides)]
  simp only [Traced.bind_ok, divides.current_eq, Traced.ofExcept]
  rfl

/-! ## Draining -/

theorem drainWithin_of_ignored (builtIn : lexer.BuiltIn) (valid : c.Valid)
    (running : c.canceled = false) {piece : Piece} (step : lexer.Step c piece after)
    (ignored : piece.token? = none) (pulls : Nat) :
    drainWithin (pulls + 1) ⟨lexer, c, false⟩ = drainWithin (pulls + 1) ⟨lexer, after, false⟩ := by
  rw [drainWithin, drainWithin, pull_of_ignored builtIn valid running step ignored]

theorem drainWithin_of_token (valid : c.Valid) (running : c.canceled = false) {piece : Piece}
    {token : Token} (step : lexer.Step c piece after) (yielded : piece.token? = some token)
    (pulls : Nat) :
    drainWithin (pulls + 1) ⟨lexer, c, false⟩ =
      ⟨report c piece ++ (drainWithin pulls ⟨lexer, after, false⟩).events,
        (drainWithin pulls ⟨lexer, after, false⟩).outcome.map
          fun (tokens, s) => (token :: tokens, s)⟩ := by
  rw [drainWithin, pull_of_token valid running step yielded]
  rfl

theorem drainWithin_of_end (builtIn : lexer.BuiltIn) (divides : c.Divides before pending [])
    (running : c.canceled = false) (pulls : Nat) :
    drainWithin (pulls + 1) ⟨lexer, c, false⟩ = ⟨[], .ok ([], ⟨lexer, c, true⟩)⟩ := by
  rw [drainWithin, pull_of_end builtIn divides running]
  rfl

end Stream

namespace Lexer.Path

variable {lexer : Lexer} {c last : Cursor} {before pending rest : List Char} {pieces : List Piece}

/-- The segments of a path follow one another in the untested text. -/
theorem divides (path : lexer.Path c pieces last) (divides : c.Divides before pending rest) :
    ∃ before' pending' left, rest = pieces.flatMap Piece.segment ++ left ∧
      last.Divides before' pending' left := by
  induction path generalizing before pending rest with
  | nil c => exact ⟨before, pending, rest, rfl, divides⟩
  | cons step _ ih =>
    obtain ⟨middle, rfl, -, divided, -⟩ := step.divides divides
    obtain ⟨before', pending', left, rfl, final⟩ := ih divided
    exact ⟨before', pending', left, by rw [List.flatMap_cons, List.append_assoc], final⟩

/-- Where no token is in progress, a path settles the text of its pieces. -/
theorem divides_passed (path : lexer.Path c pieces last) (divides : c.Divides before [] rest) :
    ∃ left, rest = pieces.flatMap Piece.segment ++ left ∧
      last.Divides (before ++ pieces.flatMap Piece.segment) [] left := by
  induction path generalizing before rest with
  | nil c => exact ⟨rest, rfl, by rwa [List.flatMap_nil, List.append_nil]⟩
  | cons step _ ih =>
    obtain ⟨middle, rfl, -, divided, -⟩ := step.divides divides
    obtain ⟨left, rfl, final⟩ := ih divided
    refine ⟨left, by rw [List.flatMap_cons, List.append_assoc], ?_⟩
    rwa [List.append_nil, List.append_assoc, ← List.flatMap_cons] at final

/-- Every piece of a path has a step of its own. -/
theorem exists_step_of_mem (path : lexer.Path c pieces last) (valid : c.Valid) :
    ∀ piece ∈ pieces, ∃ first second, first.Valid ∧ lexer.Step first piece second := by
  induction path with
  | nil c => exact List.forall_mem_nil _
  | @cons c middle last piece pieces step _ ih =>
    exact List.forall_mem_cons.mpr ⟨⟨c, middle, valid, step⟩, ih (step.valid valid)⟩

theorem segment_ne_nil (path : lexer.Path c pieces last) (valid : c.Valid) {piece : Piece}
    (member : piece ∈ pieces) : piece.segment ≠ [] := by
  obtain ⟨first, second, firstValid, step⟩ := path.exists_step_of_mem valid piece member
  obtain ⟨before, pending, rest, divides⟩ := Cursor.valid_iff_divides.mp firstValid
  obtain ⟨left, -, nonempty, -⟩ := step.divides divides
  exact nonempty

/-- A token that is matched has the kind of its rule, one of those tried. -/
theorem rule_of_matched (path : lexer.Path c pieces last) (valid : c.Valid) {rule : Rule}
    {leaf : Pattern} {segment : List Char} {token : Token}
    (member : .matched rule leaf segment token ∈ pieces) :
    rule ∈ lexer.tried ∧ token.kind = rule.kind ∧
      ∃ recognizer, rule.recognizer? = some recognizer := by
  obtain ⟨first, second, firstValid, step⟩ := path.exists_step_of_mem valid _ member
  obtain ⟨before, pending, rest, divides⟩ := Cursor.valid_iff_divides.mp firstValid
  cases step with
  | matched rules failed tried origin passed =>
    obtain ⟨n, -, rfl, -⟩ := origin.extent divides
    have listed := rules ▸ List.mem_append_right _ (List.mem_cons_self ..)
    exact ⟨listed, rfl, _, tried⟩

theorem length_le (path : lexer.Path c pieces last) (valid : c.Valid) :
    pieces.length ≤ c.size - c.pos := by
  induction path with
  | nil c => exact Nat.zero_le _
  | cons step _ ih =>
    have less := step.remaining_lt valid
    have later := ih (step.valid valid)
    rw [List.length_cons]
    omega

theorem length_tokens_le (path : lexer.Path c pieces last) (valid : c.Valid) :
    (pieces.filterMap Piece.token?).length ≤ c.size - c.pos :=
  Nat.le_trans (List.length_filterMap_le ..) (path.length_le valid)

end Lexer.Path

namespace Lexer

variable {lexer : Lexer} {c last : Cursor} {pieces : List Piece}

/-- From every cursor in order there is a path to the end of the text. -/
theorem exists_path (builtIn : lexer.BuiltIn) (valid : c.Valid) :
    ∃ pieces last, lexer.Path c pieces last ∧ last.pos = last.size := by
  generalize remaining : c.size - c.pos = bytes
  induction bytes using Nat.strongRecOn generalizing c with
  | ind bytes ih =>
    obtain ⟨before, pending, rest, divides⟩ := Cursor.valid_iff_divides.mp valid
    by_cases ended : rest = []
    · exact ⟨[], c, .nil c, divides.pos_eq_size_iff.mpr ended⟩
    · obtain ⟨piece, after, step⟩ := exists_step builtIn divides ended
      have less := step.remaining_lt valid
      obtain ⟨pieces, last, path, final⟩ := ih _ (remaining ▸ less) (step.valid valid) rfl
      exact ⟨piece :: pieces, last, .cons step path, final⟩

/-- A stream yields the tokens of the pieces on its path and ends where the path does. -/
theorem Path.drainWithin (path : lexer.Path c pieces last) (builtIn : lexer.BuiltIn)
    (valid : c.Valid) (running : c.canceled = false) (ended : last.pos = last.size) {pulls : Nat}
    (enough : (pieces.filterMap Piece.token?).length < pulls) :
    (Stream.drainWithin pulls ⟨lexer, c, false⟩).outcome =
      .ok (pieces.filterMap Piece.token?, ⟨lexer, last, true⟩) := by
  induction path generalizing pulls with
  | nil c =>
    obtain ⟨pulls, rfl⟩ : ∃ k, pulls = k + 1 := ⟨pulls - 1, by omega⟩
    obtain ⟨before, pending, rest, divides⟩ := Cursor.valid_iff_divides.mp valid
    obtain rfl := divides.pos_eq_size_iff.mp ended
    rw [Stream.drainWithin_of_end builtIn divides running]
    rfl
  | @cons c middle last piece pieces step _ ih =>
    obtain ⟨pulls, rfl⟩ : ∃ k, pulls = k + 1 := ⟨pulls - 1, by omega⟩
    have stillRunning := (step.alike valid).canceled.trans running
    cases yielded : piece.token? with
    | none =>
      rw [List.filterMap_cons_none yielded] at enough ⊢
      rw [Stream.drainWithin_of_ignored builtIn valid running step yielded]
      exact ih (step.valid valid) stillRunning ended enough
    | some token =>
      rw [List.filterMap_cons_some yielded] at enough ⊢
      rw [Stream.drainWithin_of_token valid running step yielded]
      have later := ih (step.valid valid) stillRunning ended (Nat.lt_of_succ_lt_succ enough)
      simp only [later, Except.map]

theorem Path.drain (path : lexer.Path c pieces last) (builtIn : lexer.BuiltIn)
    (valid : c.Valid) (running : c.canceled = false) (ended : last.pos = last.size) :
    (⟨lexer, c, false⟩ : Stream).drain.outcome =
      .ok (pieces.filterMap Piece.token?, ⟨lexer, last, true⟩) :=
  path.drainWithin builtIn valid running ended (Nat.lt_succ_of_le (path.length_tokens_le valid))

end Lexer

end Lexing
