import Lexing.Proofs.Recognizer.Behaved
import Lexing.Proofs.Recognizer.Operates

/-! # Choices as attempts in order

However choices are nested, what they come to is settled by the patterns and the functions written
by hand that they are made of, from left to right. `attempts` lists these and `attemptInOrder` makes
them one after the other, with the check of a failed attempt behind each. A recognizer does nothing
else (`recognize_eq_attemptInOrder`), so the checks of the choices themselves are always passed. Of
the attempts nothing is asked but an answer: one that moves the cursor and then reports no match is a
fault, which names where this attempt began and where it ended.
-/

namespace Lexing

/-- The two offsets of a cursor, which an attempt has to keep unless it matches. -/
def Cursor.place (c : Cursor) : Nat × Nat := (c.pos, c.start)

namespace Recognizer

/-- What a recognizer is made of, before it is checked. -/
abbrev Attempt := Kind → Cursor → Except Fault (Option Token × Cursor)

/-- The attempts of a recognizer, from left to right. -/
def attempts : Recognizer → List Attempt
  | .pattern shape => [shape.recognize]
  | .custom attempt => [attempt]
  | .orElse first second => first.attempts ++ second.attempts

/-- Make attempts one after the other until one matches, and check each that does not. -/
def attemptInOrder (kind : Kind) : List Attempt → Cursor → Except Fault (Option Token × Cursor)
  | [], c => .ok (none, c)
  | attempt :: rest, c => do
    let (found, after) ← attempt kind c >>= keepPlace kind c
    if found.isSome then return (found, after) else attemptInOrder kind rest after

/-- What a choice comes to before it is checked. -/
def choose (first second : Recognizer) (kind : Kind) (c : Cursor) :
    Except Fault (Option Token × Cursor) := do
  let (found, after) ← first.recognize kind c
  if found.isSome then return (found, after) else second.recognize kind after

/-- Attempts made one after the other lead from a cursor to another: none matches, and each leaves
both offsets where it found them. -/
inductive Passes (kind : Kind) : List Attempt → Cursor → Cursor → Prop
  | nil (c : Cursor) : Passes kind [] c c
  | cons {attempt : Attempt} {rest : List Attempt} {c middle after : Cursor}
      (failed : attempt kind c = .ok (none, middle)) (kept : middle.place = c.place)
      (later : Passes kind rest middle after) : Passes kind (attempt :: rest) c after

/-- Of attempts begun at a cursor, one is made at another: all before it have been passed. -/
def MadeAt (kind : Kind) (attempts : List Attempt) (c : Cursor) (attempt : Attempt)
    (middle : Cursor) : Prop :=
  ∃ tried left, attempts = tried ++ attempt :: left ∧ Passes kind tried c middle

/-- At every sound cursor over a text the attempt comes to an answer and leaves a sound cursor over
that text. Where it does not match it may have moved all the same. -/
def Answering (text : String) (attempt : Attempt) : Prop :=
  ∀ kind c, c.Sound text → ∃ found after, attempt kind c = .ok (found, after) ∧ after.Sound text

variable {r first second : Recognizer} {kind : Kind} {c middle after : Cursor} {token : Token}
  {attempt : Attempt} {attempts rest tried left : List Attempt} {text : String}

/-! ## The check -/

theorem keepPlace_of_moved (kind : Kind) (moved : after.place ≠ c.place) :
    keepPlace kind c (none, after) = .error (.movedWithoutMatch kind after.place c.place) := by
  have differs : (after.pos, after.start) ≠ (c.pos, c.start) := moved
  exact if_pos ⟨rfl, differs⟩

/-- Whoever passes the check without a match has kept its place. -/
theorem place_of_keepPlace {result : Option Token × Cursor}
    (passed : keepPlace kind c result = .ok (none, after)) :
    result = (none, after) ∧ after.place = c.place := by
  cases eq_of_keepPlace passed
  refine ⟨rfl, ?_⟩
  apply Classical.byContradiction
  intro moved
  rw [keepPlace_of_moved kind moved] at passed
  cases passed

/-! ## Attempts in order -/

theorem attemptInOrder_of_match (matched : attempt kind c = .ok (some token, after)) :
    attemptInOrder kind (attempt :: rest) c = .ok (some token, after) := by
  rw [attemptInOrder, matched, ok_bind, keepPlace_some]
  rfl

theorem attemptInOrder_of_moved (failed : attempt kind c = .ok (none, after))
    (moved : after.place ≠ c.place) :
    attemptInOrder kind (attempt :: rest) c =
      .error (.movedWithoutMatch kind after.place c.place) := by
  rw [attemptInOrder, failed, ok_bind, keepPlace_of_moved kind moved]
  rfl

theorem attemptInOrder_of_kept (failed : attempt kind c = .ok (none, after))
    (kept : after.place = c.place) :
    attemptInOrder kind (attempt :: rest) c = attemptInOrder kind rest after := by
  rw [attemptInOrder, failed, ok_bind, keepPlace_of_kept kind none kept]
  rfl

theorem attemptInOrder_singleton (kind : Kind) (attempt : Attempt) (c : Cursor) :
    attemptInOrder kind [attempt] c = attempt kind c >>= keepPlace kind c := by
  rw [attemptInOrder]
  cases attempt kind c >>= keepPlace kind c with
  | error fault => rfl
  | ok result =>
    obtain ⟨found, after⟩ := result
    cases found <;> rfl

theorem attemptInOrder_append (kind : Kind) (tried left : List Attempt) (c : Cursor) :
    attemptInOrder kind (tried ++ left) c = (do
      let (found, after) ← attemptInOrder kind tried c
      if found.isSome then return (found, after) else attemptInOrder kind left after) := by
  induction tried generalizing c with
  | nil => rfl
  | cons attempt tried ih =>
    rw [List.cons_append, attemptInOrder, attemptInOrder]
    cases attempt kind c >>= keepPlace kind c with
    | error fault => rfl
    | ok result =>
      obtain ⟨found, after⟩ := result
      cases found with
      | some token => rfl
      | none => exact ih after

/-- Attempts that have been passed play no further part. -/
theorem Passes.attemptInOrder_append (passes : Passes kind tried c middle) (left : List Attempt) :
    attemptInOrder kind (tried ++ left) c = attemptInOrder kind left middle := by
  induction passes with
  | nil c => rfl
  | cons failed kept _ ih => exact (attemptInOrder_of_kept failed kept).trans ih

theorem Passes.place_eq (passes : Passes kind tried c middle) : middle.place = c.place := by
  induction passes with
  | nil c => rfl
  | cons _ kept _ ih => exact ih.trans kept

/-- Where attempts in order come to no match, all of them have been passed. -/
theorem passes_of_attemptInOrder (missed : attemptInOrder kind tried c = .ok (none, after)) :
    Passes kind tried c after := by
  induction tried generalizing c with
  | nil => cases missed; exact .nil _
  | cons attempt tried ih =>
    obtain ⟨⟨found, middle⟩, checked, later⟩ := bind_eq_ok.mp missed
    cases found with
    | some token => cases later
    | none =>
      obtain ⟨result, failed, passed⟩ := bind_eq_ok.mp checked
      obtain ⟨rfl, kept⟩ := place_of_keepPlace passed
      exact .cons failed kept (ih later)

/-- What attempts in order come to passes the check once more. -/
theorem keepPlace_of_attemptInOrder {result : Option Token × Cursor}
    (ended : attemptInOrder kind tried c = .ok result) : keepPlace kind c result = .ok result := by
  obtain ⟨found, after⟩ := result
  cases found with
  | some token => exact keepPlace_some kind c after token
  | none => exact keepPlace_of_kept kind none (passes_of_attemptInOrder ended).place_eq

/-- An attempt that is made decides, if it matches. -/
theorem MadeAt.attemptInOrder_of_match (made : MadeAt kind attempts c attempt middle)
    (matched : attempt kind middle = .ok (some token, after)) :
    attemptInOrder kind attempts c = .ok (some token, after) := by
  obtain ⟨tried, left, rfl, passes⟩ := made
  exact (passes.attemptInOrder_append _).trans (Recognizer.attemptInOrder_of_match matched)

theorem MadeAt.attemptInOrder_of_moved (made : MadeAt kind attempts c attempt middle)
    (failed : attempt kind middle = .ok (none, after)) (moved : after.place ≠ middle.place) :
    attemptInOrder kind attempts c =
      .error (.movedWithoutMatch kind after.place middle.place) := by
  obtain ⟨tried, left, rfl, passes⟩ := made
  exact (passes.attemptInOrder_append _).trans (Recognizer.attemptInOrder_of_moved failed moved)

theorem MadeAt.cons {made : Attempt} (failed : attempt kind c = .ok (none, middle))
    (kept : middle.place = c.place) (later : MadeAt kind rest middle made after) :
    MadeAt kind (attempt :: rest) c made after := by
  obtain ⟨tried, left, rfl, passes⟩ := later
  exact ⟨attempt :: tried, left, rfl, .cons failed kept passes⟩

/-- Attempts that answer are all passed, or they end with one that matches or that moves without a
match. -/
theorem exists_ending (answering : ∀ attempt ∈ attempts, Answering text attempt)
    (sound : c.Sound text) (kind : Kind) :
    (∃ after, Passes kind attempts c after) ∨
      (∃ attempt middle token after, MadeAt kind attempts c attempt middle ∧
        attempt kind middle = .ok (some token, after)) ∨
      ∃ attempt middle after, MadeAt kind attempts c attempt middle ∧
        attempt kind middle = .ok (none, after) ∧ after.place ≠ middle.place := by
  induction attempts generalizing c with
  | nil => exact .inl ⟨c, .nil c⟩
  | cons attempt rest ih =>
    obtain ⟨answers, later⟩ := List.forall_mem_cons.mp answering
    obtain ⟨found, middle, answered, kept⟩ := answers kind c sound
    have here : MadeAt kind (attempt :: rest) c attempt c := ⟨[], rest, rfl, .nil c⟩
    cases found with
    | some token => exact .inr (.inl ⟨attempt, c, token, middle, here, answered⟩)
    | none =>
      by_cases stayed : middle.place = c.place
      · rcases ih later kept with ⟨after, passes⟩ | ⟨last, place, token, after, made, matched⟩ |
          ⟨last, place, after, made, failed, moved⟩
        · exact .inl ⟨after, .cons answered stayed passes⟩
        · exact .inr (.inl ⟨last, place, token, after, made.cons answered stayed, matched⟩)
        · exact .inr (.inr ⟨last, place, after, made.cons answered stayed, failed, moved⟩)
      · exact .inr (.inr ⟨attempt, c, middle, here, answered, stayed⟩)

theorem attemptInOrder_eq_none_iff :
    attemptInOrder kind attempts c = .ok (none, after) ↔ Passes kind attempts c after := by
  constructor
  · exact passes_of_attemptInOrder
  · intro passes
    have ended := passes.attemptInOrder_append []
    rwa [List.append_nil] at ended

theorem attemptInOrder_eq_some_iff (answering : ∀ attempt ∈ attempts, Answering text attempt)
    (sound : c.Sound text) :
    attemptInOrder kind attempts c = .ok (some token, after) ↔
      ∃ attempt middle, MadeAt kind attempts c attempt middle ∧
        attempt kind middle = .ok (some token, after) := by
  constructor
  · intro ended
    rcases exists_ending answering sound kind with ⟨last, passes⟩ |
      ⟨attempt, middle, token', last, made, matched⟩ | ⟨attempt, middle, last, made, failed, moved⟩
    · cases ended.symm.trans (attemptInOrder_eq_none_iff.mpr passes)
    · cases ended.symm.trans (made.attemptInOrder_of_match matched)
      exact ⟨attempt, middle, made, matched⟩
    · cases ended.symm.trans (made.attemptInOrder_of_moved failed moved)
  · rintro ⟨attempt, middle, made, matched⟩
    exact made.attemptInOrder_of_match matched

theorem attemptInOrder_eq_error_iff (answering : ∀ attempt ∈ attempts, Answering text attempt)
    (sound : c.Sound text) {fault : Fault} :
    attemptInOrder kind attempts c = .error fault ↔
      ∃ attempt middle after, MadeAt kind attempts c attempt middle ∧
        attempt kind middle = .ok (none, after) ∧ after.place ≠ middle.place ∧
        fault = .movedWithoutMatch kind after.place middle.place := by
  constructor
  · intro ended
    rcases exists_ending answering sound kind with ⟨last, passes⟩ |
      ⟨attempt, middle, token, last, made, matched⟩ | ⟨attempt, middle, last, made, failed, moved⟩
    · cases ended.symm.trans (attemptInOrder_eq_none_iff.mpr passes)
    · cases ended.symm.trans (made.attemptInOrder_of_match matched)
    · cases ended.symm.trans (made.attemptInOrder_of_moved failed moved)
      exact ⟨attempt, middle, last, made, failed, moved, rfl⟩
  · rintro ⟨attempt, middle, after, made, failed, moved, rfl⟩
    exact made.attemptInOrder_of_moved failed moved

/-! ## Trees of choices -/

theorem recognize_orElse_eq (first second : Recognizer) (kind : Kind) (c : Cursor) :
    (orElse first second).recognize kind c = choose first second kind c >>= keepPlace kind c := by
  rw [recognize, choose]
  cases first.recognize kind c with
  | error fault => rfl
  | ok result =>
    obtain ⟨found, after⟩ := result
    cases found <;> rfl

/-- Before it is checked a choice makes the attempts of both its parts, as far as these do. -/
theorem choose_eq_attemptInOrder
    (inFirst : ∀ c, first.recognize kind c = attemptInOrder kind first.attempts c)
    (inSecond : ∀ c, second.recognize kind c = attemptInOrder kind second.attempts c) (c : Cursor) :
    choose first second kind c = attemptInOrder kind (orElse first second).attempts c := by
  rw [Recognizer.attempts, attemptInOrder_append, choose, inFirst]
  simp only [inSecond]

/-- A recognizer makes its attempts in order, whatever the shape of its choices. -/
theorem recognize_eq_attemptInOrder (r : Recognizer) (kind : Kind) (c : Cursor) :
    r.recognize kind c = attemptInOrder kind r.attempts c := by
  induction r generalizing c with
  | pattern shape => exact (attemptInOrder_singleton kind shape.recognize c).symm
  | custom attempt => exact (attemptInOrder_singleton kind attempt c).symm
  | orElse first second ihFirst ihSecond =>
    -- The check of the choice looks at what the checks of its attempts have let pass.
    rw [recognize_orElse_eq, choose_eq_attemptInOrder ihFirst ihSecond]
    cases ended : attemptInOrder kind (orElse first second).attempts c with
    | error fault => rfl
    | ok result => exact keepPlace_of_attemptInOrder ended

/-- The check of a choice never fails. -/
theorem keepPlace_of_choose {result : Option Token × Cursor}
    (chosen : choose first second kind c = .ok result) : keepPlace kind c result = .ok result := by
  rw [choose_eq_attemptInOrder (first.recognize_eq_attemptInOrder kind)
    (second.recognize_eq_attemptInOrder kind)] at chosen
  exact keepPlace_of_attemptInOrder chosen

theorem answering_pattern (text : String) (shape : Pattern) : Answering text shape.recognize := by
  intro kind c sound
  obtain ⟨before, pending, rest, divides⟩ := Cursor.valid_iff_divides.mp sound.toValid
  refine ⟨_, _, Pattern.recognize_eq divides shape kind, ?_⟩
  cases shape.width? before.reverse rest with
  | none => exact sound
  | some n => exact Pattern.sound_after sound divides shape n

theorem answering_advanceOnly (text : String) (n : Nat) :
    ∀ attempt ∈ (advanceOnly n).attempts, Answering text attempt := by
  refine List.forall_mem_singleton.mpr ?_
  intro kind c sound
  obtain ⟨before, pending, rest, divides⟩ := Cursor.valid_iff_divides.mp sound.toValid
  refine ⟨none, { c with pos := c.pos + Text.byteSize (rest.take n) }, ?_,
    sound.of_valid (divides.divides_advance n).valid rfl (.inl rfl)⟩
  dsimp only
  rw [divides.advance_eq]
  rfl

/-- A tree of choices whose attempts answer makes them from left to right, whatever its shape. It
comes to no match if all are passed, and to the token and the cursor of the first that matches if
those before it are. It is a fault exactly if an attempt that is made moves the cursor and then
reports no match; the fault tells where this attempt ended and where it began, which is where the
whole began. No choice fails a check of its own. -/
theorem choices_make_attempts_in_order (answering : ∀ attempt ∈ r.attempts, Answering text attempt)
    (sound : c.Sound text) (kind : Kind) :
    (∀ other : Recognizer, other.attempts = r.attempts →
      other.recognize kind c = r.recognize kind c) ∧
    (∀ after, r.recognize kind c = .ok (none, after) ↔ Passes kind r.attempts c after) ∧
    (∀ token after, r.recognize kind c = .ok (some token, after) ↔
      ∃ attempt middle, MadeAt kind r.attempts c attempt middle ∧
        attempt kind middle = .ok (some token, after)) ∧
    (∀ fault, r.recognize kind c = .error fault ↔
      ∃ attempt middle after, MadeAt kind r.attempts c attempt middle ∧
        attempt kind middle = .ok (none, after) ∧ after.place ≠ middle.place ∧
        fault = .movedWithoutMatch kind after.place middle.place ∧
        fault.message = "assertion `left == right` failed: " ++
          ("extractor for type " ++ kind.decimal ++ " moved the pointers without matching\n") ++
          ("  left: " ++ Fault.pairText after.place ++
            "\n right: " ++ Fault.pairText middle.place)) ∧
    (∀ attempt middle, MadeAt kind r.attempts c attempt middle → middle.place = c.place) ∧
    ∀ (first second : Recognizer) (d : Cursor),
      (orElse first second).recognize kind d = choose first second kind d >>= keepPlace kind d ∧
      ∀ result, choose first second kind d = .ok result → keepPlace kind d result = .ok result := by
  have inOrder := r.recognize_eq_attemptInOrder kind c
  refine ⟨?_, ?_, ?_, ?_, ?_, ?_⟩
  · intro other same
    rw [inOrder, other.recognize_eq_attemptInOrder, same]
  · intro after
    rw [inOrder]
    exact attemptInOrder_eq_none_iff
  · intro token after
    rw [inOrder]
    exact attemptInOrder_eq_some_iff answering sound
  · intro fault
    rw [inOrder, attemptInOrder_eq_error_iff answering sound]
    constructor
    · rintro ⟨attempt, middle, after, made, failed, moved, rfl⟩
      exact ⟨attempt, middle, after, made, failed, moved, rfl, rfl⟩
    · rintro ⟨attempt, middle, after, made, failed, moved, same, -⟩
      exact ⟨attempt, middle, after, made, failed, moved, same⟩
  · rintro attempt middle ⟨tried, left, -, passes⟩
    exact passes.place_eq
  · intro first second d
    exact ⟨recognize_orElse_eq first second kind d, fun _ => keepPlace_of_choose⟩

/-- Between a number that is not there and a recognizer that is not tried any more, an attempt passes
a character and reports no match. Both trees of the three fail in the same way and with the places
of this attempt. -/
theorem choices_make_attempts_in_order_after_move :
    ∃ (r other : Recognizer) (c : Cursor) (fault : Fault), r ≠ other ∧ c.Sound "éxy" ∧
      (∀ attempt ∈ r.attempts, Answering "éxy" attempt) ∧
      r.recognize ⟨7⟩ c = .error fault ∧ other.recognize ⟨7⟩ c = .error fault ∧
      fault.message = "assertion `left == right` failed: " ++
        "extractor for type 7 moved the pointers without matching\n  left: (3, 0)\n right: (2, 0)" := by
  have sound : Cursor.Sound "éxy" { Cursor.ofString "éxy" with pos := 2 } :=
    ⟨⟨by decide, by decide, by decide, by decide⟩, by decide, rfl⟩
  have answering : ∀ attempt ∈ (orElse (orElse (.pattern .decimal) (advanceOnly 1)) never).attempts,
      Answering "éxy" attempt := by
    refine List.forall_mem_append.mpr ⟨List.forall_mem_append.mpr ⟨?_, ?_⟩, ?_⟩
    · exact List.forall_mem_singleton.mpr (answering_pattern "éxy" .decimal)
    · exact answering_advanceOnly "éxy" 1
    · exact List.forall_mem_singleton.mpr fun kind c sound => ⟨none, c, rfl, sound⟩
  obtain ⟨shapeless, -, -, faults, -⟩ := choices_make_attempts_in_order answering sound ⟨7⟩
  have made : MadeAt ⟨7⟩ (orElse (orElse (.pattern .decimal) (advanceOnly 1)) never).attempts
      { Cursor.ofString "éxy" with pos := 2 } _ { Cursor.ofString "éxy" with pos := 2 } :=
    ⟨[Pattern.decimal.recognize], _, rfl, .cons rfl rfl (.nil _)⟩
  have fails := (faults (.movedWithoutMatch ⟨7⟩ (3, 0) (2, 0))).mpr
    ⟨_, _, { Cursor.ofString "éxy" with pos := 3 }, made, rfl, by decide, rfl, rfl⟩
  refine ⟨_, orElse (.pattern .decimal) (orElse (advanceOnly 1) never), _, _, ?_, sound, answering,
    fails, (shapeless _ rfl).trans fails, by decide⟩
  intro same
  cases same

end Recognizer

end Lexing
