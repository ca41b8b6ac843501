import Lexing.Proofs.Cursor.Zipper

/-! # Extracted text is final

A cursor goes back and forth in the token in progress, but what lies before its start is settled. A
single operation says it all: it adds some text to what is settled, possibly none, and an operation
that loses no text has returned exactly what it adds (`Divides.of_perform`). Along a history
these additions follow one another, so the values extracted so far make up the text before the start,
nothing is left out and nothing comes twice. Only an operation that skips text on purpose breaks this
up, and even then the start of the token in progress does not move back.
-/

namespace Lexing

namespace Cursor

namespace Op

/-- Whether an operation returns all the text that it settles. -/
def keepsText : Op → Bool
  | .commit _ => false
  | .extract skip _ => skip == .chars 0
  | _ => true

/-- The text that an operation has extracted. -/
def extracted : Op → Answer → List Char
  | .extract .., .text value => value.toList
  | _, _ => []

end Op

variable {c d : Cursor} {before pending rest : List Char} {op : Op} {answer : Answer}

/-- Where the offsets are the same, the division of the text is. -/
theorem Divides.of_offsets (divides : c.Divides before pending rest) (source : d.source = c.source)
    (pos : d.pos = c.pos) (start : d.start = c.start) : d.Divides before pending rest where
  chars := source ▸ divides.chars
  start := start.trans divides.start
  pos := pos.trans divides.pos

/-- An operation adds text to what is settled. If it loses none, this is the text it has
extracted. -/
theorem Divides.of_perform (divides : c.Divides before pending rest)
    (performed : c.perform op = .ok (answer, d)) :
    ∃ added pending' rest', d.Divides (before ++ added) pending' rest' ∧
      (op.keepsText = true → added = op.extracted answer) := by
  -- Most operations add nothing, as they leave the start of the token in progress where it is.
  have nothing {pending' rest' : List Char} (divided : d.Divides before pending' rest')
      (none : op.extracted answer = []) :
      ∃ added pending' rest', d.Divides (before ++ added) pending' rest' ∧
        (op.keepsText = true → added = op.extracted answer) :=
    ⟨[], pending', rest', by rwa [List.append_nil], fun _ => none.symm⟩
  have reads {α : Type} {make : α → Answer} {read : Except Fault α}
      (performed : (return (make (← read), c) : Except Fault (Answer × Cursor)) = .ok (answer, d)) :
      d.Divides before pending rest := by
    obtain ⟨value, -, same⟩ := bind_eq_ok.mp performed
    cases same
    exact divides
  cases op with
  | view => exact nothing (reads performed) rfl
  | text => cases performed; exact nothing divides rfl
  | peek n => exact nothing (reads performed) rfl
  | advance n =>
    rw [perform, divides.advance_eq] at performed
    cases performed
    exact nothing (divides.divides_advance n) rfl
  | commit n =>
    rw [perform, divides.commit_eq] at performed
    cases performed
    have settled := divides.divides_settled n
    rw [List.append_assoc] at settled
    exact ⟨_, _, _, settled, fun keeps => absurd keeps Bool.false_ne_true⟩
  | rewind => cases performed; exact nothing divides.divides_rewind rfl
  | reset checkpoint =>
    have inside : c.CanReset checkpoint := Op.answers_of_perform divides.valid performed
    obtain ⟨kept, back, c', -, -, success, moved⟩ := divides.movesTo_reset inside
    rw [perform, success] at performed
    cases performed
    exact nothing moved.divides rfl
  | extract skip suffix =>
    rw [perform, divides.extract_eq] at performed
    cases performed
    have settled := divides.divides_settled suffix
    rw [List.append_assoc] at settled
    refine ⟨_, _, _, settled, fun keeps => ?_⟩
    obtain rfl : skip = .chars 0 := beq_iff_eq.mp keeps
    exact String.toList_ofList.symm
  | matchLiteral literal lookup => exact nothing (reads performed) rfl
  | matchWith literal matcher => exact nothing (reads performed) rfl
  | matchAny set lookup => exact nothing (reads performed) rfl
  | matchAnyWith set matcher => exact nothing (reads performed) rfl
  | isNear literal => exact nothing (reads performed) rfl
  | indexNear set => exact nothing (reads performed) rfl
  | markNewLine => cases performed; exact nothing (divides.of_offsets rfl rfl rfl) rfl
  | lineText lineEnd => exact nothing (reads performed) rfl
  | push token => cases performed; exact nothing (divides.of_offsets rfl rfl rfl) rfl
  | pop => cases performed; exact nothing (divides.of_offsets rfl rfl rfl) rfl
  | last => cases performed; exact nothing divides rfl
  | pushLevel => cases performed; exact nothing (divides.of_offsets rfl rfl rfl) rfl
  | popLevel =>
    rw [perform, popLevel] at performed
    cases closed : c.nesting.popLevel with
    | error error => rw [closed] at performed; cases performed; exact nothing divides rfl
    | ok nesting =>
      rw [closed] at performed
      cases performed
      exact nothing (divides.of_offsets rfl rfl rfl) rfl
  | setError message => cases performed; exact nothing (divides.of_offsets rfl rfl rfl) rfl
  | clearError => cases performed; exact nothing (divides.of_offsets rfl rfl rfl) rfl
  | cancel message => cases performed; exact nothing (divides.of_offsets rfl rfl rfl) rfl

end Cursor

namespace Step

/-- Whether a step works on the cursor in use and puts no other in its place. -/
def inPlace : Step → Bool
  | .act _ | .mark | .resetTo _ | .save => true
  | .restore _ | .recognize .. | .next | .pull | .drain => false

/-- Whether a step works in place and returns all the text that it settles. -/
def keepsText : Step → Bool
  | .act op => op.keepsText
  | step => step.inPlace

/-- The text that a step has extracted. -/
def extracted : Step × Answer → List Char
  | (.act op, answer) => op.extracted answer
  | _ => []

theorem inPlace_of_keepsText {step : Step} (keeps : step.keepsText = true) :
    step.inPlace = true := by
  cases step with
  | act op => rfl
  | _ => exact keeps

theorem onCursor_of_inPlace {step : Step} (own : step.inPlace = true) : step.onCursor = true := by
  cases step with
  | act op => rfl
  | mark => rfl
  | resetTo index => rfl
  | save => rfl
  | _ => contradiction

end Step

namespace Session

variable {s s' : Session} {step : Step} {steps : List Step} {answer : Answer} {text : String}
  {before pending rest : List Char}

/-! ## Steps in place -/

theorem divides_of_step (divides : s.stream.cursor.Divides before pending rest)
    (own : step.inPlace = true) (taken : (s.step step).outcome = .ok (answer, s')) :
    ∃ added pending' rest', s'.stream.cursor.Divides (before ++ added) pending' rest' ∧
      (step.keepsText = true → added = Step.extracted (step, answer)) := by
  cases step with
  | act op =>
    obtain ⟨c, performed, rfl⟩ := step_act taken
    exact divides.of_perform performed
  | mark =>
    cases taken
    exact ⟨[], pending, rest, by rwa [List.append_nil], fun _ => rfl⟩
  | resetTo index =>
    obtain ⟨checkpoint, c, performed, rfl⟩ := step_resetTo taken
    obtain ⟨added, pending', rest', divided, extracted⟩ := divides.of_perform performed
    exact ⟨added, pending', rest', divided, fun _ => extracted rfl⟩
  | save =>
    cases taken
    exact ⟨[], pending, rest, by rwa [List.append_nil], fun _ => rfl⟩
  | _ => contradiction

/-- What a history without loss has extracted follows the text that was settled before. -/
theorem divides_of_run (divides : s.stream.cursor.Divides before pending rest)
    (keep : ∀ step ∈ steps, step.keepsText = true) (ended : (s.run steps).ending = .ok s') :
    ∃ pending' rest', s'.stream.cursor.Divides (before ++ (s.log steps).flatMap Step.extracted)
      pending' rest' := by
  induction steps generalizing s before pending rest with
  | nil =>
    cases ended
    exact ⟨pending, rest, by rwa [log, List.zip_nil_left, List.flatMap_nil, List.append_nil]⟩
  | cons step steps ih =>
    obtain ⟨first, others⟩ := List.forall_mem_cons.mp keep
    obtain ⟨answer, middle, taken, later⟩ := run_cons_ending ended
    obtain ⟨added, pending', rest', divided, extracted⟩ :=
      divides_of_step divides (Step.inPlace_of_keepsText first) taken
    obtain ⟨pending'', rest'', final⟩ := ih divided others later
    refine ⟨pending'', rest'', ?_⟩
    rwa [log_of_step steps taken, List.flatMap_cons, ← List.append_assoc, ← extracted first]

/-- The token in progress never starts further back than before. -/
theorem starts_pairwise (divides : s.stream.cursor.Divides before pending rest)
    (own : ∀ step ∈ steps, step.inPlace = true) :
    (s.stream.cursor.start :: (s.run steps).answers.map (·.2.start)).Pairwise (· ≤ ·) := by
  induction steps generalizing s before pending rest with
  | nil => exact List.pairwise_singleton ..
  | cons step steps ih =>
    obtain ⟨first, others⟩ := List.forall_mem_cons.mp own
    cases taken : (s.step step).outcome with
    | error fault =>
      simp only [run, taken]
      exact List.pairwise_singleton ..
    | ok result =>
      obtain ⟨answer, middle⟩ := result
      obtain ⟨added, pending', rest', divided, -⟩ := divides_of_step divides first taken
      have forward : s.stream.cursor.start ≤ middle.stream.cursor.start := by
        rw [divides.start, divided.start, Text.byteSize_append]
        omega
      have later := ih divided others
      rw [run_of_step steps taken, List.map_cons]
      refine List.pairwise_cons.mpr ⟨?_, later⟩
      refine List.forall_mem_cons.mpr ⟨forward, fun start member => ?_⟩
      exact Nat.le_trans forward ((List.pairwise_cons.mp later).1 start member)

/-! ## Histories that come to their end -/

/-- A step that goes back finds a place where the cursor may go back to. -/
def CanTake (s : Session) : Step → Prop
  | .act op => op.Answers s.stream.cursor
  | .resetTo index =>
    ∃ checkpoint, s.marks[index]? = some checkpoint ∧ s.stream.cursor.CanReset checkpoint
  | _ => True

/-- Every step of a history that goes back finds a place where the cursor may then go back to. -/
def CanRun (s : Session) : List Step → Prop
  | [] => True
  | step :: steps =>
    s.CanTake step ∧ ∀ answer s', (s.step step).outcome = .ok (answer, s') → s'.CanRun steps

theorem canRun_of_step (taken : (s.step step).outcome = .ok (answer, s')) (can : s.CanTake step)
    (later : s'.CanRun steps) : s.CanRun (step :: steps) := by
  refine ⟨can, fun answer' other same => ?_⟩
  cases taken.symm.trans same
  exact later

theorem Sound.exists_step (sound : s.Sound text) (own : step.inPlace = true)
    (can : s.CanTake step) : ∃ answer s', (s.step step).outcome = .ok (answer, s') := by
  cases step with
  | act op =>
    obtain ⟨answer, c, performed, -⟩ := sound.cursor.perform op can
    refine ⟨answer, s.withCursor c, ?_⟩
    rw [Session.step, Traced.outcome_bind, Traced.ofExcept, performed]
    rfl
  | mark => exact ⟨_, _, rfl⟩
  | resetTo index =>
    obtain ⟨checkpoint, marked, inside⟩ := can
    refine ⟨.done, s.withCursor { s.stream.cursor with pos := checkpoint }, ?_⟩
    rw [Session.step, marked]
    simp only [Traced.outcome_bind, Traced.ofExcept, sound.cursor.reset_eq inside]
    rfl
  | save => exact ⟨_, _, rfl⟩
  | _ => contradiction

theorem Sound.exists_run (sound : s.Sound text) (own : ∀ step ∈ steps, step.inPlace = true)
    (can : s.CanRun steps) : ∃ s', (s.run steps).ending = .ok s' := by
  induction steps generalizing s with
  | nil => exact ⟨s, rfl⟩
  | cons step steps ih =>
    obtain ⟨first, others⟩ := List.forall_mem_cons.mp own
    obtain ⟨answer, middle, taken⟩ := sound.exists_step first can.1
    rw [run_of_step steps taken]
    exact ih (sound.step (Step.onCursor_of_inPlace first) taken) others (can.2 answer middle taken)

/-- A history of a text that goes back only to places where it may, and loses no text, comes to its
end, and what it has extracted makes up the text before the start of the token in progress. From
wherever a history has led, and with text lost on purpose, the start of the token in progress never
moves back as long as the cursor is not replaced. -/
theorem extracted_text_is_final (text : String) :
    (∀ steps, (∀ step ∈ steps, step.keepsText = true) → (fresh text).CanRun steps →
      ∃ s, ((fresh text).run steps).ending = .ok s ∧
        Text.takeBytes? text.toList s.stream.cursor.start =
          some (((fresh text).log steps).flatMap Step.extracted)) ∧
    ∀ (s : Session) steps, s.stream.cursor.Reached text → (∀ step ∈ steps, step.inPlace = true) →
      (s.stream.cursor.start :: (s.run steps).answers.map (·.2.start)).Pairwise (· ≤ ·) := by
  constructor
  · intro steps keep can
    have own : ∀ step ∈ steps, step.inPlace = true :=
      fun step member => Step.inPlace_of_keepsText (keep step member)
    obtain ⟨s, ended⟩ := (sound_fresh text).exists_run own can
    have start : (fresh text).stream.cursor.Divides [] [] text.toList := Cursor.divides_ofString text
    obtain ⟨pending, rest, divides⟩ := divides_of_run start keep ended
    refine ⟨s, ended, ?_⟩
    have sound := (sound_fresh text).run
      (fun step member => Step.onCursor_of_inPlace (own step member)) ended
    have chars : text.toList = _ :=
      (congrArg Source.chars sound.cursor.source_eq).symm.trans divides.chars
    rw [List.nil_append, List.append_assoc] at chars
    rw [divides.start, List.nil_append, chars]
    exact Text.takeBytes?_append ..
  · intro s steps reached own
    obtain ⟨before, pending, rest, divides⟩ := Cursor.valid_iff_divides.mp reached.sound.toValid
    exact starts_pairwise divides own

/-- A character that was given up by going back to a mark is still extracted, and the rest of the
text after it. A commit skips a character, and a rewind behind it goes no further back. -/
theorem extracted_text_is_final_after_going_back :
    (∃ (steps : List Step) (s : Session), (∀ step ∈ steps, step.keepsText = true) ∧
      (fresh "aé\nb").CanRun steps ∧ ((fresh "aé\nb").run steps).ending = .ok s ∧
      ((fresh "aé\nb").log steps).map Step.extracted =
        [[], [], [], [], "aé".toList, "\nb".toList] ∧
      Text.takeBytes? "aé\nb".toList s.stream.cursor.start = some "aé\nb".toList) ∧
    ∃ steps : List Step, (∀ step ∈ steps, step.inPlace = true) ∧
      ((fresh "aé\nb").run steps).answers.map (·.2.start) = [1, 1, 1, 3] ∧
      (0 :: ((fresh "aé\nb").run steps).answers.map (·.2.start)).Pairwise (· ≤ ·) := by
  constructor
  · let steps : List Step := [.act (.advance 1), .mark, .act (.advance 1), .resetTo 0,
      .act (.extract (.chars 0) 1), .act (.extract (.chars 0) 9)]
    have keep : ∀ step ∈ steps, step.keepsText = true := by decide
    have can : (fresh "aé\nb").CanRun steps := by
      refine canRun_of_step rfl trivial (canRun_of_step rfl trivial (canRun_of_step rfl trivial ?_))
      refine canRun_of_step rfl ⟨1, rfl, by decide⟩ ?_
      exact canRun_of_step rfl trivial (canRun_of_step rfl trivial trivial)
    obtain ⟨s, ended, final⟩ := (extracted_text_is_final "aé\nb").1 steps keep can
    exact ⟨steps, s, keep, can, ended, rfl, final⟩
  · let steps : List Step := [.act (.commit 1), .act (.advance 1), .act .rewind,
      .act (.extract .consumed 1)]
    have own : ∀ step ∈ steps, step.inPlace = true := by decide
    have reached : (fresh "aé\nb").stream.cursor.Reached "aé\nb" := ⟨[], _, nofun, rfl, rfl⟩
    exact ⟨steps, own, rfl, (extracted_text_is_final "aé\nb").2 _ steps reached own⟩

end Session

end Lexing
