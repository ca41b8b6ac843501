import Lexing.Proofs.Cursor.Division
import Lexing.Session

/-! # What every history of a cursor keeps

`Sound` is the invariant of a cursor over a text: its offsets are in order, its line starts between
two characters, and the text is the one it was made for. The line may start past the position, as a
cursor may go back after a line has been marked, so the reads of a line rest on the cuts being
there and not on their order. An operation keeps the invariant and answers, unless it resets the
cursor to a place that is no cut of the token in progress. `Session.Sound` carries the invariant
through saved cursors, and `Cursor.Reached` names the cursors that some history leads to.
-/

namespace Lexing

namespace Cursor

variable {c : Cursor} {before pending rest : List Char} {text : String}

/-! ## Operations that may fail -/

/-- Whether a cursor may go back to an offset. -/
def CanReset (c : Cursor) (checkpoint : Nat) : Prop :=
  (c.start ≤ checkpoint ∧ checkpoint ≤ c.pos) ∧ c.source.isBoundary checkpoint = true

instance (c : Cursor) (checkpoint : Nat) : Decidable (c.CanReset checkpoint) :=
  inferInstanceAs (Decidable (_ ∧ _))

theorem Valid.moveBack {checkpoint : Nat} (valid : c.Valid) (inside : c.CanReset checkpoint) :
    { c with pos := checkpoint }.Valid where
  start_le_pos := inside.1.1
  pos_le_size := Nat.le_trans inside.1.2 valid.pos_le_size
  pos_boundary := inside.2
  start_boundary := valid.start_boundary

/-- The order of the offsets is no matter of lines, pending tokens and errors. -/
theorem Valid.of_offsets {c' : Cursor} (valid : c.Valid) (source : c'.source = c.source)
    (pos : c'.pos = c.pos) (start : c'.start = c.start) : c'.Valid := by
  obtain ⟨ordered, bounded, posCut, startCut⟩ := valid
  refine ⟨?_, ?_, ?_, ?_⟩
  · rwa [pos, start]
  · rwa [size, source, pos]
  · rwa [source, pos]
  · rwa [source, start]

theorem Valid.checked_eq (valid : c.Valid) : c.checked = .ok c := by
  obtain ⟨before, pending, rest, divides⟩ := valid_iff_divides.mp valid
  exact divides.checked_eq

theorem Valid.reset_eq {checkpoint : Nat} (valid : c.Valid) (inside : c.CanReset checkpoint) :
    c.reset checkpoint = .ok { c with pos := checkpoint } := by
  rw [reset, if_pos inside.1]
  exact (valid.moveBack inside).checked_eq

/-- A reset to any other place is a fault: outside the token in progress it names the three offsets,
and inside a character it says so. -/
theorem Valid.reset_error {checkpoint : Nat} (valid : c.Valid)
    (outside : ¬ c.CanReset checkpoint) :
    c.reset checkpoint =
      .error (if c.start ≤ checkpoint ∧ checkpoint ≤ c.pos then .offBoundary
        else .outsideAttempt checkpoint c.start c.pos) := by
  rw [reset]
  by_cases inside : c.start ≤ checkpoint ∧ checkpoint ≤ c.pos
  · have off : c.source.isBoundary checkpoint = false :=
      Bool.eq_false_iff.mpr fun cut => outside ⟨inside, cut⟩
    have bounded : ¬ c.source.size < checkpoint :=
      Nat.not_lt.mpr (Nat.le_trans inside.2 valid.pos_le_size)
    rw [if_pos inside, if_pos inside]
    simp only [checked, size, Nat.not_lt.mpr inside.1, bounded, off, Bool.false_and,
      Bool.false_eq_true, if_false]
  · rw [if_neg inside, if_neg inside]

/-! ## Reading a line -/

/-- The text of a line stops at a cut, no earlier than the position. -/
theorem Divides.exists_lineStop (divides : c.Divides before pending rest) (lineEnd : LineEnd) :
    ∃ stop, c.lineStop lineEnd = .ok stop ∧ c.source.isBoundary stop = true := by
  have cut {passed : List Char} (starts : passed <+: rest) :
      c.source.isBoundary (c.pos + Text.byteSize passed) = true := by
    obtain ⟨after, rfl⟩ := starts
    rw [divides.pos, ← Text.byteSize_append]
    exact Source.isBoundary_byteSize (divides.chars.trans (List.append_assoc ..).symm)
  cases lineEnd with
  | terminator =>
    refine ⟨c.pos + Text.byteSize (rest.takeWhile (· != '\n')), ?_, cut (List.takeWhile_prefix _)⟩
    rw [lineStop, divides.rest_eq]
    rfl
  | chars count =>
    refine ⟨c.pos + Text.byteSize (rest.take count), ?_, cut (List.take_prefix ..)⟩
    rw [lineStop, divides.offsetAfter_pos]
  | needle needle =>
    rw [lineStop, divides.rest_eq, ok_bind]
    cases found : Text.offsetOf? needle.toList rest with
    | none =>
      refine ⟨c.size, rfl, ?_⟩
      rw [divides.size_eq, ← divides.pos]
      exact cut (List.prefix_refl rest)
    | some distance =>
      obtain ⟨passed, after, rfl, rfl⟩ := Text.offsetOf?_eq_some found
      exact ⟨_, rfl, cut (List.prefix_append ..)⟩

theorem Divides.exists_lineText (divides : c.Divides before pending rest)
    (lineCut : c.source.isBoundary c.lineStart = true) (lineEnd : LineEnd) :
    ∃ line, c.lineText lineEnd = .ok line := by
  obtain ⟨stop, stops, stopCut⟩ := divides.exists_lineStop lineEnd
  have firstCut : c.source.isBoundary (min c.lineStart stop) = true := by
    rcases Nat.le_total c.lineStart stop with le | le
    · rwa [Nat.min_eq_left le]
    · rwa [Nat.min_eq_right le]
  obtain ⟨line, read⟩ := exists_textBetween (Nat.min_le_right c.lineStart stop) firstCut stopCut
  exact ⟨String.ofList line, by rw [lineText, stops, ok_bind, read]; rfl⟩

/-! ## Looking around -/

theorem Divides.exists_view (divides : c.Divides before pending rest) :
    ∃ view, c.view = .ok view := by
  rw [view, divides.rest_eq, divides.pending_eq, divides.consumed_eq, divides.current_eq]
  exact ⟨_, rfl⟩

theorem Divides.exists_matchWith (divides : c.Divides before pending rest) (literal : String)
    (matcher : Matcher) : ∃ width, c.matchWith literal matcher = .ok width := by
  obtain ⟨side, read⟩ := divides.exists_sideText matcher.side
  rw [matchWith, read]
  exact ⟨_, rfl⟩

theorem Divides.exists_matchAnyWith (divides : c.Divides before pending rest) (set : Literals)
    (matcher : Matcher) : ∃ entry, c.matchAnyWith set matcher = .ok entry := by
  obtain ⟨side, read⟩ := divides.exists_sideText matcher.side
  rw [matchAnyWith, read]
  exact ⟨_, rfl⟩

theorem Divides.exists_isNear (divides : c.Divides before pending rest) (literal : String) :
    ∃ flags, c.isNear literal = .ok flags := by
  have looked (lookup : Lookup) : ∃ width, c.matchLiteral literal lookup = .ok width :=
    divides.exists_matchWith literal lookup.resolve
  obtain ⟨ahead, aheadEq⟩ := looked ⟨.ahead, .sensitive⟩
  obtain ⟨aheadFolded, aheadFoldedEq⟩ := looked ⟨.ahead, .insensitive⟩
  obtain ⟨behind, behindEq⟩ := looked ⟨.behind, .sensitive⟩
  obtain ⟨behindFolded, behindFoldedEq⟩ := looked ⟨.behind, .insensitive⟩
  rw [isNear, isAhead, isAhead, isBehind, isBehind, aheadEq, aheadFoldedEq, behindEq, behindFoldedEq]
  exact ⟨_, rfl⟩

theorem Divides.exists_indexNear (divides : c.Divides before pending rest) (set : Literals) :
    ∃ indices, c.indexNear set = .ok indices := by
  have looked (lookup : Lookup) : ∃ entry, c.matchAny set lookup = .ok entry :=
    divides.exists_matchAnyWith set lookup.resolve
  obtain ⟨ahead, aheadEq⟩ := looked ⟨.ahead, .sensitive⟩
  obtain ⟨aheadFolded, aheadFoldedEq⟩ := looked ⟨.ahead, .insensitive⟩
  obtain ⟨behind, behindEq⟩ := looked ⟨.behind, .sensitive⟩
  obtain ⟨behindFolded, behindFoldedEq⟩ := looked ⟨.behind, .insensitive⟩
  rw [indexNear, indexAhead, indexAhead, indexBehind, indexBehind, aheadEq, aheadFoldedEq, behindEq,
    behindFoldedEq]
  exact ⟨_, rfl⟩

/-! ## The invariant -/

/-- What holds of a cursor over a text at all times. -/
structure Sound (text : String) (c : Cursor) : Prop extends c.Valid where
  lineStart_boundary : c.source.isBoundary c.lineStart = true
  source_eq : c.source = .ofList text.toList

theorem sound_ofString (text : String) : (ofString text).Sound text where
  toValid := (divides_ofString text).valid
  lineStart_boundary := (divides_ofString text).valid.start_boundary
  source_eq := rfl

theorem Sound.of_valid {c' : Cursor} (sound : c.Sound text) (valid : c'.Valid)
    (source : c'.source = c.source) (line : c'.lineStart = c.lineStart ∨ c'.lineStart = c.pos) :
    c'.Sound text where
  toValid := valid
  lineStart_boundary := by
    rw [source]
    rcases line with line | line
    · rw [line]; exact sound.lineStart_boundary
    · rw [line]; exact sound.pos_boundary
  source_eq := source.trans sound.source_eq

theorem Sound.of_offsets {c' : Cursor} (sound : c.Sound text) (source : c'.source = c.source)
    (pos : c'.pos = c.pos) (start : c'.start = c.start)
    (line : c'.lineStart = c.lineStart ∨ c'.lineStart = c.pos) : c'.Sound text :=
  sound.of_valid (sound.toValid.of_offsets source pos start) source line

/-- Whether an operation has an answer: only a reset may have none. -/
def Op.Answers (c : Cursor) : Op → Prop
  | .reset checkpoint => c.CanReset checkpoint
  | _ => True

/-- An operation that has an answer gives one and keeps the invariant. -/
theorem Sound.perform (sound : c.Sound text) (op : Op) (answers : op.Answers c) :
    ∃ answer c', c.perform op = .ok (answer, c') ∧ c'.Sound text := by
  obtain ⟨before, pending, rest, divides⟩ := valid_iff_divides.mp sound.toValid
  -- An operation that only reads leaves the cursor as it is.
  have reads {α : Type} {make : α → Answer} {read : Except Fault α} (value : ∃ a, read = .ok a) :
      ∃ answer c', (return (make (← read), c) : Except Fault (Answer × Cursor)) =
        .ok (answer, c') ∧ c'.Sound text := by
    obtain ⟨a, rfl⟩ := value
    exact ⟨make a, c, rfl, sound⟩
  cases op with
  | view => exact reads divides.exists_view
  | text => exact ⟨_, c, rfl, sound⟩
  | peek n => exact reads ⟨_, divides.peek_eq n⟩
  | advance n =>
    rw [Cursor.perform, divides.advance_eq]
    exact ⟨_, _, rfl, sound.of_valid (divides.divides_advance n).valid rfl (.inl rfl)⟩
  | commit n =>
    rw [Cursor.perform, divides.commit_eq]
    exact ⟨_, _, rfl, sound.of_valid (divides.divides_settled n).valid rfl (.inl rfl)⟩
  | rewind => exact ⟨_, _, rfl, sound.of_valid divides.divides_rewind.valid rfl (.inl rfl)⟩
  | reset checkpoint =>
    rw [Cursor.perform, sound.reset_eq answers]
    exact ⟨_, _, rfl, sound.of_valid (sound.moveBack answers) rfl (.inl rfl)⟩
  | extract skip suffix =>
    rw [Cursor.perform, divides.extract_eq]
    exact ⟨_, _, rfl, sound.of_valid (divides.divides_settled suffix).valid rfl (.inl rfl)⟩
  | matchLiteral literal lookup => exact reads (divides.exists_matchWith literal lookup.resolve)
  | matchWith literal matcher => exact reads (divides.exists_matchWith literal matcher)
  | matchAny set lookup => exact reads (divides.exists_matchAnyWith set lookup.resolve)
  | matchAnyWith set matcher => exact reads (divides.exists_matchAnyWith set matcher)
  | isNear literal => exact reads (divides.exists_isNear literal)
  | indexNear set => exact reads (divides.exists_indexNear set)
  | markNewLine => exact ⟨_, _, rfl, sound.of_offsets rfl rfl rfl (.inr rfl)⟩
  | lineText lineEnd => exact reads (divides.exists_lineText sound.lineStart_boundary lineEnd)
  | push token => exact ⟨_, _, rfl, sound.of_offsets rfl rfl rfl (.inl rfl)⟩
  | pop => exact ⟨_, _, rfl, sound.of_offsets rfl rfl rfl (.inl rfl)⟩
  | last => exact ⟨_, c, rfl, sound⟩
  | pushLevel => exact ⟨_, _, rfl, sound.of_offsets rfl rfl rfl (.inl rfl)⟩
  | popLevel =>
    rw [Cursor.perform, Cursor.popLevel]
    cases c.nesting.popLevel with
    | error error => exact ⟨_, c, rfl, sound⟩
    | ok nesting => exact ⟨_, _, rfl, sound.of_offsets rfl rfl rfl (.inl rfl)⟩
  | setError message =>
    exact ⟨_, _, rfl, sound.of_offsets rfl rfl rfl (.inl rfl)⟩
  | clearError => exact ⟨_, _, rfl, sound.of_offsets rfl rfl rfl (.inl rfl)⟩
  | cancel message =>
    exact ⟨_, _, rfl, sound.of_offsets rfl rfl rfl (.inl rfl)⟩

/-- An operation without an answer is a fault. -/
theorem Valid.perform_error (valid : c.Valid) {op : Op} (refuses : ¬ op.Answers c) :
    ∃ fault, c.perform op = .error fault := by
  cases op with
  | reset checkpoint =>
    rw [Cursor.perform, valid.reset_error refuses]
    exact ⟨_, rfl⟩
  | _ => exact absurd trivial refuses

theorem Op.answers_of_perform {op : Op} {answer : Answer} {c' : Cursor} (valid : c.Valid)
    (performed : c.perform op = .ok (answer, c')) : op.Answers c := by
  apply Classical.byContradiction
  intro refuses
  obtain ⟨fault, failed⟩ := valid.perform_error refuses
  rw [failed] at performed
  contradiction

theorem Sound.of_perform {op : Op} {answer : Answer} {c' : Cursor} (sound : c.Sound text)
    (performed : c.perform op = .ok (answer, c')) : c'.Sound text := by
  obtain ⟨answer, after, success, afterSound⟩ :=
    sound.perform op (Op.answers_of_perform sound.toValid performed)
  cases success.symm.trans performed
  exact afterSound

end Cursor

/-! ## Histories -/

/-- Whether a step works on the cursor alone, without the lexer and its stream. -/
def Step.onCursor : Step → Bool
  | .act _ | .mark | .resetTo _ | .save | .restore _ => true
  | .recognize .. | .next | .pull | .drain => false

namespace Session

variable {s s' : Session} {text : String}

/-- The cursor in use and all those saved are sound. -/
structure Sound (text : String) (s : Session) : Prop where
  cursor : s.stream.cursor.Sound text
  saved : ∀ c ∈ s.saved, c.Sound text

theorem Sound.withCursor {c : Cursor} (sound : s.Sound text) (cursor : c.Sound text) :
    (s.withCursor c).Sound text := ⟨cursor, sound.saved⟩

theorem step_act {op : Cursor.Op} {answer : Answer}
    (taken : (s.step (.act op)).outcome = .ok (answer, s')) :
    ∃ c, s.stream.cursor.perform op = .ok (answer, c) ∧ s' = s.withCursor c := by
  obtain ⟨⟨told, c⟩, performed, same⟩ := bind_eq_ok.mp ((Traced.outcome_bind ..).symm.trans taken)
  cases same
  exact ⟨c, performed, rfl⟩

/-- Going back to a mark is a reset to the offset that was marked. -/
theorem step_resetTo {index : Nat} {answer : Answer}
    (taken : (s.step (.resetTo index)).outcome = .ok (answer, s')) :
    ∃ checkpoint c, s.stream.cursor.perform (.reset checkpoint) = .ok (answer, c) ∧
      s' = s.withCursor c := by
  rw [Session.step] at taken
  cases found : s.marks[index]? with
  | none => rw [found] at taken; cases taken
  | some checkpoint =>
    rw [found] at taken
    obtain ⟨c, back, same⟩ := bind_eq_ok.mp ((Traced.outcome_bind ..).symm.trans taken)
    cases same
    refine ⟨checkpoint, c, ?_, rfl⟩
    rw [Cursor.perform, show s.stream.cursor.reset checkpoint = .ok c from back]
    rfl

theorem Sound.step {step : Step} {answer : Answer} (sound : s.Sound text)
    (own : step.onCursor = true) (taken : (s.step step).outcome = .ok (answer, s')) :
    s'.Sound text := by
  cases step with
  | act op =>
    obtain ⟨c, performed, rfl⟩ := step_act taken
    exact sound.withCursor (sound.cursor.of_perform performed)
  | mark => cases taken; exact ⟨sound.cursor, sound.saved⟩
  | resetTo index =>
    obtain ⟨checkpoint, c, performed, rfl⟩ := step_resetTo taken
    exact sound.withCursor (sound.cursor.of_perform performed)
  | save =>
    cases taken
    refine ⟨sound.cursor, fun c member => ?_⟩
    rcases List.mem_append.mp member with old | new
    · exact sound.saved c old
    · obtain rfl := List.mem_singleton.mp new
      exact sound.cursor
  | restore index =>
    rw [Session.step] at taken
    cases found : s.saved[index]? with
    | none => rw [found] at taken; cases taken
    | some c =>
      rw [found] at taken
      cases taken
      exact sound.withCursor (sound.saved c (List.mem_of_getElem? found))
  | recognize recognizer kind => contradiction
  | next => contradiction
  | pull => contradiction
  | drain => contradiction

theorem run_cons_ending {step : Step} {steps : List Step}
    (ended : (s.run (step :: steps)).ending = .ok s') :
    ∃ answer middle, (s.step step).outcome = .ok (answer, middle) ∧
      (middle.run steps).ending = .ok s' := by
  rw [run] at ended
  cases taken : (s.step step).outcome with
  | error fault => simp only [taken, reduceCtorEq] at ended
  | ok result =>
    obtain ⟨answer, middle⟩ := result
    simp only [taken] at ended
    exact ⟨answer, middle, rfl, ended⟩

/-- A run is its first step and the run from where that leads. -/
theorem run_of_step {step : Step} {answer : Answer} (steps : List Step)
    (taken : (s.step step).outcome = .ok (answer, s')) :
    s.run (step :: steps) =
      { s'.run steps with
        answers := (answer, s'.stream.cursor.snapshot) :: (s'.run steps).answers
        events := (s.step step).events ++ (s'.run steps).events } := by
  simp only [run, taken]

/-- The steps that a run has taken, each with its answer. -/
def log (s : Session) (steps : List Step) : List (Step × Answer) :=
  steps.zip ((s.run steps).answers.map (·.1))

theorem log_of_step {step : Step} {answer : Answer} (steps : List Step)
    (taken : (s.step step).outcome = .ok (answer, s')) :
    s.log (step :: steps) = (step, answer) :: s'.log steps := by
  rw [log, run_of_step steps taken, List.map_cons, List.zip_cons_cons]
  rfl

/-- A history keeps the invariant, whatever it saves and restores. -/
theorem Sound.run {steps : List Step} (sound : s.Sound text)
    (own : ∀ step ∈ steps, step.onCursor = true) (ended : (s.run steps).ending = .ok s') :
    s'.Sound text := by
  induction steps generalizing s with
  | nil => cases ended; exact sound
  | cons step rest ih =>
    obtain ⟨answer, middle, taken, later⟩ := run_cons_ending ended
    have next := sound.step (own step (List.mem_cons_self ..)) taken
    exact ih next (fun other member => own other (List.mem_cons_of_mem _ member)) later

/-- A session that has just begun, with nothing but a cursor to use. -/
def fresh (text : String) : Session where
  stream := Lexer.empty.stream text

theorem sound_fresh (text : String) : (fresh text).Sound text where
  cursor := Cursor.sound_ofString text
  saved := by intro c member; cases member

end Session

namespace Cursor

/-- A cursor that some history over a text leads to: a list of cursor operations with any arguments,
of resets to marks, and of saving the cursor and restoring a saved one. -/
def Reached (text : String) (c : Cursor) : Prop :=
  ∃ steps s, (∀ step ∈ steps, step.onCursor = true) ∧
    ((Session.fresh text).run steps).ending = .ok s ∧ s.stream.cursor = c

theorem Reached.sound {text : String} {c : Cursor} (reached : c.Reached text) : c.Sound text := by
  obtain ⟨steps, s, own, ended, rfl⟩ := reached
  exact ((Session.sound_fresh text).run own ended).cursor

/-- Every history of a cursor keeps the invariant, and at the end of each the one operation that may
be a fault is a reset to a place that is no cut of the token in progress. -/
theorem sound_and_fault_iff_of_reached {text : String} {c : Cursor} (reached : c.Reached text) :
    c.Sound text ∧ c.lineStart ≤ c.size ∧ 1 ≤ c.nesting.level ∧
      ∀ op, (∃ fault, c.perform op = .error fault) ↔
        ∃ checkpoint, op = .reset checkpoint ∧ ¬ c.CanReset checkpoint := by
  have sound := reached.sound
  have lineInside := Source.le_size_of_isBoundary sound.lineStart_boundary
  refine ⟨sound, lineInside, Nat.le_add_left .., fun op => ⟨?_, ?_⟩⟩
  · rintro ⟨fault, failed⟩
    have refuses : ¬ op.Answers c := by
      intro answers
      obtain ⟨answer, after, success, -⟩ := sound.perform op answers
      rw [success] at failed
      contradiction
    cases op with
    | reset checkpoint => exact ⟨checkpoint, rfl, refuses⟩
    | _ => exact absurd trivial refuses
  · rintro ⟨checkpoint, rfl, outside⟩
    exact sound.perform_error outside

/-- The line of a cursor may start past its position, and a reset into the middle of a character is
then still the only fault. -/
theorem sound_and_fault_after_going_back :
    ∃ c : Cursor, c.Reached "é\nb" ∧ c.pos < c.lineStart ∧ c.Sound "é\nb" ∧ 1 ≤ c.nesting.level ∧
      (∃ fault, c.perform (.reset 1) = .error fault) ∧ ¬ ∃ fault, c.perform (.reset 0) = .error fault := by
  have reached : Reached "é\nb" { ofString "é\nb" with pos := 2, line := 1, lineStart := 3 } :=
    ⟨[.act (.advance 1), .mark, .act (.advance 1), .act .markNewLine, .save, .act (.commit 1),
      .restore 0, .resetTo 0], _, by decide, rfl, rfl⟩
  obtain ⟨sound, -, level, faults⟩ := sound_and_fault_iff_of_reached reached
  refine ⟨_, reached, by decide, sound, level, (faults _).mpr ⟨1, rfl, by decide⟩, ?_⟩
  rw [faults]
  rintro ⟨checkpoint, same, outside⟩
  cases same
  exact outside (by decide)

end Cursor

end Lexing
