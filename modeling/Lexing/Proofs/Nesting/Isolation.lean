import Lexing.Proofs.Cursor.Invariant

/-! # Levels keep enclosing frames apart

Whatever happens inside a level, the frames around it stay as they are. The frames of a nesting are
divided in two: those of the nesting that the level was opened on, and the inner ones on top of them.
There is always an inner one as long as no more levels are closed than have been opened inside
(`StandsOn`). Tokens come and go in the top frame, which is an inner one. Closing takes an empty
frame from the top, and otherwise it is refused and changes nothing; which of the two refusals it is
depends on the top frame first.
-/

namespace Lexing

namespace Nesting

variable {nesting closed base : Nesting} {depth : Nat}

/-- The frames from the top one down to the base. -/
def frames (nesting : Nesting) : List (List Token) := nesting.top :: nesting.enclosing

theorem eq_of_frames (same : nesting.frames = closed.frames) : nesting = closed := by
  obtain ⟨top, enclosing⟩ := nesting
  obtain ⟨top', enclosing'⟩ := closed
  obtain ⟨rfl, rfl⟩ := List.cons_eq_cons.mp same
  rfl

/-! ## Closing a level -/

/-- Closing a level takes an empty frame from the top. -/
theorem popLevel_eq_ok_iff :
    nesting.popLevel = .ok closed ↔ nesting.frames = [] :: closed.frames := by
  obtain ⟨top, enclosing⟩ := nesting
  cases top with
  | nil =>
    cases enclosing with
    | nil => simp [popLevel, frames]
    | cons top enclosing =>
      obtain ⟨top', enclosing'⟩ := closed
      simp [popLevel, frames]
  | cons token top => simp [popLevel, frames]

theorem popLevel_eq_pendingTokens_iff {count : Nat} :
    nesting.popLevel = .error (.pendingTokens count) ↔ 0 < count ∧ nesting.pending = count := by
  obtain ⟨top, enclosing⟩ := nesting
  cases top with
  | nil =>
    have empty : ¬ (0 < count ∧ 0 = count) := by omega
    cases enclosing with
    | nil => simpa [popLevel, pending] using empty
    | cons top enclosing => simpa [popLevel, pending] using empty
  | cons token top =>
    simp only [popLevel, pending, List.length_cons, ne_eq, reduceCtorEq, not_false_eq_true, if_true,
      Except.error.injEq, NestingError.pendingTokens.injEq]
    omega

theorem popLevel_eq_noEnclosingLevel_iff :
    nesting.popLevel = .error .noEnclosingLevel ↔ nesting.pending = 0 ∧ nesting.level = 1 := by
  obtain ⟨top, enclosing⟩ := nesting
  cases top with
  | nil =>
    cases enclosing with
    | nil => simp [popLevel, pending, level]
    | cons top enclosing => simp [popLevel, pending, level]
  | cons token top => simp [popLevel, pending]

/-! ## Frames that are left alone -/

/-- The frames of a nesting are those of another, with one frame and `depth` more on top of them. -/
def StandsOn (base : Nesting) (depth : Nat) (nesting : Nesting) : Prop :=
  ∃ inner, inner.length = depth + 1 ∧ nesting.frames = inner ++ base.frames

theorem standsOn_pushLevel (base : Nesting) : base.StandsOn 0 base.pushLevel := ⟨[[]], rfl, rfl⟩

namespace StandsOn

/-- Only the top frame is changed, and that is an inner one. -/
theorem withTop (stands : base.StandsOn depth nesting) (top : List Token) :
    base.StandsOn depth { nesting with top } := by
  obtain ⟨inner, length, frames⟩ := stands
  obtain ⟨first, others, rfl⟩ := List.exists_cons_of_length_eq_add_one length
  obtain ⟨-, enclosing⟩ := List.cons_eq_cons.mp frames
  exact ⟨top :: others, length, congrArg (top :: ·) enclosing⟩

theorem pushLevel (stands : base.StandsOn depth nesting) :
    base.StandsOn (depth + 1) nesting.pushLevel := by
  obtain ⟨inner, length, frames⟩ := stands
  exact ⟨[] :: inner, congrArg (· + 1) length, congrArg ([] :: ·) frames⟩

/-- As long as the closed level is not the one that the others are in, inner frames are left. -/
theorem popLevel (stands : base.StandsOn (depth + 1) nesting) (success : nesting.popLevel = .ok closed) :
    base.StandsOn depth closed := by
  obtain ⟨inner, length, frames⟩ := stands
  obtain ⟨first, others, rfl⟩ := List.exists_cons_of_length_eq_add_one length
  rw [popLevel_eq_ok_iff.mp success] at frames
  exact ⟨others, Nat.succ.inj length, (List.cons_eq_cons.mp frames).2⟩

/-- When the level itself is closed, what it was opened on is left. -/
theorem eq_of_popLevel (stands : base.StandsOn 0 nesting) (success : nesting.popLevel = .ok closed) :
    closed = base := by
  obtain ⟨inner, length, frames⟩ := stands
  obtain ⟨first, rfl⟩ := List.length_eq_one_iff.mp length
  rw [popLevel_eq_ok_iff.mp success] at frames
  exact eq_of_frames (List.cons_eq_cons.mp frames).2

theorem level_eq (stands : base.StandsOn depth nesting) : nesting.level = base.level + depth + 1 := by
  obtain ⟨inner, length, frames⟩ := stands
  have total : nesting.level = inner.length + base.level :=
    (congrArg List.length frames).trans List.length_append
  omega

theorem suffix (stands : base.StandsOn depth nesting) : base.frames <:+ nesting.frames := by
  obtain ⟨inner, -, frames⟩ := stands
  exact ⟨inner, frames.symm⟩

end StandsOn

end Nesting

/-- Whether an operation works on the frames of pending tokens. -/
def Cursor.Op.onNesting : Cursor.Op → Bool
  | .push _ | .pop | .pushLevel | .popLevel => true
  | _ => false

namespace Step

/-- Whether a step has opened a level. -/
def opens : Step × Answer → Bool
  | (.act .pushLevel, _) => true
  | _ => false

/-- Whether a step has closed a level and was not refused. -/
def closes : Step × Answer → Bool
  | (.act .popLevel, .done) => true
  | _ => false

/-- At no time have more levels been closed than were open in the beginning and opened since. -/
def StayInside (depth : Nat) (log : List (Step × Answer)) : Prop :=
  ∀ n, (log.take n).countP closes ≤ depth + (log.take n).countP opens

instance (depth : Nat) (log : List (Step × Answer)) : Decidable (StayInside depth log) :=
  decidable_of_iff
    (∀ n < log.length + 1, (log.take n).countP closes ≤ depth + (log.take n).countP opens)
    ⟨fun upToEnd n => by
      rcases Nat.lt_or_ge n (log.length + 1) with short | long
      · exact upToEnd n short
      · rw [List.take_of_length_le (by omega), ← List.take_length (l := log)]
        exact upToEnd log.length (Nat.lt_succ_self _),
    fun inside n _ => inside n⟩

namespace StayInside

variable {depth : Nat} {entry : Step × Answer} {log : List (Step × Answer)}

theorem tail (inside : StayInside depth (entry :: log)) {left : Nat}
    (balance : left + (if closes entry then 1 else 0) = depth + if opens entry then 1 else 0) :
    StayInside left log := by
  intro n
  have upTo := inside (n + 1)
  simp only [List.take_succ_cons, List.countP_cons] at upTo
  omega

/-- What is closed first was open in the beginning. -/
theorem pos_of_closes (inside : StayInside depth (entry :: log)) (closing : closes entry = true)
    (opening : opens entry = false) : 0 < depth := by
  have first := inside 1
  simp only [List.take_succ_cons, List.take_zero, List.countP_singleton, closing, opening, if_true,
    Bool.false_eq_true, if_false] at first
  omega

end StayInside

end Step

namespace Session

variable {s s' : Session} {base : Nesting} {depth : Nat} {op : Cursor.Op} {ops : List Cursor.Op}

/-- The frames of pending tokens of a session. -/
def nesting (s : Session) : Nesting := s.stream.cursor.nesting

/-- A step that closes a level succeeds or is refused as the frames say, and a refusal leaves
everything as it is. -/
theorem step_popLevel (s : Session) :
    (s.step (.act .popLevel)).outcome =
      match s.nesting.popLevel with
      | .ok nesting => .ok (.done, s.withCursor { s.stream.cursor with nesting })
      | .error error => .ok (.refused error, s) := by
  simp only [step, Cursor.perform, Cursor.popLevel, nesting, Traced.outcome_bind, Traced.ofExcept]
  cases s.stream.cursor.nesting.popLevel with
  | ok nesting => rfl
  | error error => rfl

theorem popLevel_of_step (taken : (s.step (.act .popLevel)).outcome = .ok (.done, s')) :
    s.nesting.popLevel = .ok s'.nesting := by
  rw [step_popLevel] at taken
  cases closed : s.nesting.popLevel with
  | ok nesting =>
    rw [closed] at taken
    cases taken
    rfl
  | error error =>
    rw [closed] at taken
    cases taken

theorem step_popLevel_refused_iff {error : NestingError} :
    (s.step (.act .popLevel)).outcome = .ok (.refused error, s') ↔
      s.nesting.popLevel = .error error ∧ s' = s := by
  rw [step_popLevel]
  cases s.nesting.popLevel with
  | ok nesting => simp
  | error other => simp [eq_comm]

/-- What a step on the frames of pending tokens does: it opens a level, closes one, or changes no
other frame than the top one. It always comes to an answer. -/
theorem exists_step_onNesting (s : Session) (own : op.onNesting = true) :
    ∃ answer s', (s.step (.act op)).outcome = .ok (answer, s') ∧
      ((Step.opens (.act op, answer) = true ∧ Step.closes (.act op, answer) = false ∧
          s'.nesting = s.nesting.pushLevel) ∨
        (Step.opens (.act op, answer) = false ∧ Step.closes (.act op, answer) = true ∧
          s.nesting.popLevel = .ok s'.nesting) ∨
        (Step.opens (.act op, answer) = false ∧ Step.closes (.act op, answer) = false ∧
          ∃ top, s'.nesting = { s.nesting with top })) := by
  cases op with
  | push token => exact ⟨_, _, rfl, .inr (.inr ⟨rfl, rfl, _, rfl⟩)⟩
  | pop => exact ⟨_, _, rfl, .inr (.inr ⟨rfl, rfl, _, rfl⟩)⟩
  | pushLevel => exact ⟨_, _, rfl, .inl ⟨rfl, rfl, rfl⟩⟩
  | popLevel =>
    rw [step_popLevel]
    cases s.nesting.popLevel with
    | ok closed => exact ⟨_, _, rfl, .inr (.inl ⟨rfl, rfl, rfl⟩)⟩
    | error error => exact ⟨_, _, rfl, .inr (.inr ⟨rfl, rfl, s.nesting.top, rfl⟩)⟩
  | _ => contradiction

theorem exists_run_onNesting (s : Session) (own : ∀ op ∈ ops, op.onNesting = true) :
    ∃ s', (s.run (ops.map .act)).ending = .ok s' := by
  induction ops generalizing s with
  | nil => exact ⟨s, rfl⟩
  | cons op ops ih =>
    obtain ⟨first, others⟩ := List.forall_mem_cons.mp own
    obtain ⟨answer, middle, taken, -⟩ := s.exists_step_onNesting first
    rw [List.map_cons, run_of_step _ taken]
    exact ih middle others

/-- Steps on the frames of pending tokens that stay inside a level leave the frames around it as
they are. -/
theorem standsOn_of_run (stands : base.StandsOn depth s.nesting)
    (own : ∀ op ∈ ops, op.onNesting = true) (inside : Step.StayInside depth (s.log (ops.map .act)))
    (ended : (s.run (ops.map .act)).ending = .ok s') : ∃ left, base.StandsOn left s'.nesting := by
  induction ops generalizing s depth with
  | nil => cases ended; exact ⟨depth, stands⟩
  | cons op ops ih =>
    obtain ⟨first, others⟩ := List.forall_mem_cons.mp own
    obtain ⟨answer, middle, taken, effect⟩ := s.exists_step_onNesting first
    rw [List.map_cons, run_of_step _ taken] at ended
    rw [List.map_cons, log_of_step _ taken] at inside
    rcases effect with ⟨opens, closes, opened⟩ | ⟨opens, closes, closed⟩ | ⟨opens, closes, top, same⟩
    · exact ih (opened ▸ stands.pushLevel) others (inside.tail (by simp [opens, closes])) ended
    · obtain ⟨left, rfl⟩ := Nat.exists_eq_add_one.mpr (inside.pos_of_closes closes opens)
      exact ih (stands.popLevel closed) others (inside.tail (by simp [opens, closes])) ended
    · exact ih (same ▸ stands.withTop top) others (inside.tail (by simp [opens, closes])) ended

/-- Steps on the frames of pending tokens, taken right after a level has been opened, come to their
end. If at no time they have closed more levels than they have opened, all frames that were there
before are as they were; and once they are back at the level that was opened and it can be closed,
closing it restores all. Closing is refused because of the tokens in the top frame, on the base too,
and only without any because it is the base; a refusal changes nothing. -/
theorem levels_keep_enclosing_frames (s : Session) (ops : List Cursor.Op)
    (own : ∀ op ∈ ops, op.onNesting = true) :
    (∃ s₁ s₂, (s.step (.act .pushLevel)).outcome = .ok (.done, s₁) ∧
      (s₁.run (ops.map .act)).ending = .ok s₂ ∧
      (Step.StayInside 0 (s₁.log (ops.map .act)) →
        s.nesting.frames <:+ s₂.nesting.frames ∧
        ∀ s₃, s₂.nesting.level = s₁.nesting.level →
          (s₂.step (.act .popLevel)).outcome = .ok (.done, s₃) → s₃.nesting = s.nesting)) ∧
    (∀ count, (s.step (.act .popLevel)).outcome = .ok (.refused (.pendingTokens count), s) ↔
      0 < count ∧ s.nesting.pending = count) ∧
    ((s.step (.act .popLevel)).outcome = .ok (.refused .noEnclosingLevel, s) ↔
      s.nesting.pending = 0 ∧ s.nesting.level = 1) ∧
    ∀ error s', (s.step (.act .popLevel)).outcome = .ok (.refused error, s') → s' = s := by
  refine ⟨?_, fun count => ?_, ?_, fun error s' refused => ?_⟩
  · obtain ⟨s₂, ended⟩ := exists_run_onNesting (s.withCursor s.stream.cursor.pushLevel) own
    refine ⟨_, s₂, rfl, ended, fun inside => ?_⟩
    obtain ⟨left, stands⟩ := standsOn_of_run s.nesting.standsOn_pushLevel own inside ended
    refine ⟨stands.suffix, fun s₃ level taken => ?_⟩
    have alone : left = 0 := by
      have opened : s₂.nesting.level = s.nesting.level + 1 := level
      have inner := stands.level_eq
      omega
    subst alone
    exact stands.eq_of_popLevel (popLevel_of_step taken)
  · rw [step_popLevel_refused_iff, and_iff_left rfl]
    exact Nesting.popLevel_eq_pendingTokens_iff
  · rw [step_popLevel_refused_iff, and_iff_left rfl]
    exact Nesting.popLevel_eq_noEnclosingLevel_iff
  · exact (step_popLevel_refused_iff.mp refused).2

/-- Inside a level that was opened over a token, closing is refused because of a token, a second
level is opened and closed, and the first is emptied and closed. The token below it is still there,
and now stands in the way of closing. -/
theorem levels_keep_enclosing_frames_over_token :
    ∃ (s s₁ s₂ s₃ : Session) (ops : List Cursor.Op), s.nesting.frames = [[⟨⟨1⟩, "a"⟩]] ∧
      (s.step (.act .pushLevel)).outcome = .ok (.done, s₁) ∧
      (s₁.run (ops.map .act)).ending = .ok s₂ ∧
      (s₁.log (ops.map .act)).map (·.2) =
        [.done, .refused (.pendingTokens 1), .done, .done, .token (some ⟨⟨2⟩, "b"⟩)] ∧
      s.nesting.frames <:+ s₂.nesting.frames ∧
      (s₂.step (.act .popLevel)).outcome = .ok (.done, s₃) ∧ s₃.nesting = s.nesting ∧
      (s₃.step (.act .popLevel)).outcome = .ok (.refused (.pendingTokens 1), s₃) := by
  let empty := fresh ""
  let s := empty.withCursor { empty.stream.cursor with nesting := ⟨[⟨⟨1⟩, "a"⟩], []⟩ }
  let ops : List Cursor.Op := [.push ⟨⟨2⟩, "b"⟩, .popLevel, .pushLevel, .popLevel, .pop]
  have own : ∀ op ∈ ops, op.onNesting = true := by decide
  obtain ⟨⟨s₁, s₂, opened, ended, kept⟩, -⟩ := levels_keep_enclosing_frames s ops own
  cases opened
  cases ended
  obtain ⟨frames, closed⟩ := kept (by decide)
  exact ⟨s, _, _, s, ops, rfl, rfl, rfl, rfl, frames, rfl, closed s rfl rfl,
    ((levels_keep_enclosing_frames s ops own).2.1 1).mpr ⟨by decide, rfl⟩⟩

end Session

end Lexing
