import Mathlib.Logic.Relation
import Lexing.Proofs.Cursor.Division
import Lexing.Recognizer.Custom

/-! # Working on a cursor by operations alone

Whoever holds a cursor may put any other in its place. Short of that, all that happens to a cursor
is operations, and no operation takes a cancellation back. `Operated` says of two cursors that
operations lead from the first to the second. The patterns work by operations, and a recognizer
does if the functions written by hand in it do. `ComesBy` names the cursors that the attempts inside
a recognizer leave, so that a cancellation can be followed from the attempt that makes it.
-/

namespace Lexing

namespace Cursor

variable {c d : Cursor} {n : Nat}

/-- One operation leads from a cursor to another. -/
def Performs (c d : Cursor) : Prop := ∃ op answer, c.perform op = .ok (answer, d)

/-- Operations lead from a cursor to another, whichever they are and however many. -/
def Operated : Cursor → Cursor → Prop := Relation.ReflTransGen Performs

/-! ## Operations keep a cancellation -/

theorem eq_of_checked (success : c.checked = .ok d) : d = c := by
  unfold checked at success
  repeat' split at success
  all_goals cases success
  rfl

theorem canceled_advance {remains : Bool} (advanced : c.advance n = .ok (remains, d)) :
    d.canceled = c.canceled := by
  obtain ⟨pos, -, moved⟩ := bind_eq_ok.mp advanced
  obtain ⟨checked, success, same⟩ := bind_eq_ok.mp moved
  cases same
  rw [eq_of_checked success]

theorem canceled_commit (committed : c.commit n = .ok d) : d.canceled = c.canceled := by
  obtain ⟨pos, -, success⟩ := bind_eq_ok.mp committed
  rw [eq_of_checked success]

theorem canceled_reset {checkpoint : Nat} (reset : c.reset checkpoint = .ok d) :
    d.canceled = c.canceled := by
  unfold Cursor.reset at reset
  split at reset
  · rw [eq_of_checked reset]
  · contradiction

theorem canceled_extract {skip : Skip} {value : String}
    (extracted : c.extract skip n = .ok (value, d)) : d.canceled = c.canceled := by
  obtain ⟨stop, -, rest⟩ := bind_eq_ok.mp extracted
  cases skip with
  | _ =>
    obtain ⟨first, -, rest⟩ := bind_eq_ok.mp rest
    obtain ⟨read, -, rest⟩ := bind_eq_ok.mp rest
    obtain ⟨checked, success, same⟩ := bind_eq_ok.mp rest
    cases same
    rw [eq_of_checked success]

/-- No operation takes a cancellation back. -/
theorem Performs.canceled (performs : c.Performs d) (canceled : c.canceled = true) :
    d.canceled = true := by
  obtain ⟨op, answer, performed⟩ := performs
  -- An operation that only reads leaves the cursor as it is.
  have reads {α : Type} {make : α → Answer} {read : Except Fault α}
      (performed : (return (make (← read), c) : Except Fault (Answer × Cursor)) =
        .ok (answer, d)) : d.canceled = true := by
    obtain ⟨value, -, same⟩ := bind_eq_ok.mp performed
    cases same
    exact canceled
  cases op with
  | view => exact reads performed
  | text => cases performed; exact canceled
  | peek n => exact reads performed
  | advance n =>
    obtain ⟨⟨remains, after⟩, advanced, same⟩ := bind_eq_ok.mp performed
    cases same
    exact (canceled_advance advanced).trans canceled
  | commit n =>
    obtain ⟨after, committed, same⟩ := bind_eq_ok.mp performed
    cases same
    exact (canceled_commit committed).trans canceled
  | rewind => cases performed; exact canceled
  | reset checkpoint =>
    obtain ⟨after, reset, same⟩ := bind_eq_ok.mp performed
    cases same
    exact (canceled_reset reset).trans canceled
  | extract skip suffix =>
    obtain ⟨⟨value, after⟩, extracted, same⟩ := bind_eq_ok.mp performed
    cases same
    exact (canceled_extract extracted).trans canceled
  | matchLiteral literal lookup => exact reads performed
  | matchWith literal matcher => exact reads performed
  | matchAny set lookup => exact reads performed
  | matchAnyWith set matcher => exact reads performed
  | isNear literal => exact reads performed
  | indexNear set => exact reads performed
  | markNewLine => cases performed; exact canceled
  | lineText lineEnd => exact reads performed
  | push token => cases performed; exact canceled
  | pop => cases performed; exact canceled
  | last => cases performed; exact canceled
  | pushLevel => cases performed; exact canceled
  | popLevel =>
    rw [Cursor.perform, Cursor.popLevel] at performed
    cases closed : c.nesting.popLevel with
    | error error => rw [closed] at performed; cases performed; exact canceled
    | ok nesting => rw [closed] at performed; cases performed; exact canceled
  | setError message => cases performed; exact canceled
  | clearError => cases performed; exact canceled
  | cancel message => cases performed; rfl

theorem Operated.canceled (operated : c.Operated d) (canceled : c.canceled = true) :
    d.canceled = true := by
  induction operated with
  | refl => exact canceled
  | tail _ performs ih => exact performs.canceled ih

/-! ## Single operations -/

theorem operated_advance {remains : Bool} (advanced : c.advance n = .ok (remains, d)) :
    c.Operated d :=
  .single ⟨.advance n, .flag remains, by rw [perform, advanced]; rfl⟩

theorem operated_commit (committed : c.commit n = .ok d) : c.Operated d :=
  .single ⟨.commit n, .done, by rw [perform, committed]; rfl⟩

theorem operated_extract {skip : Skip} {value : String}
    (extracted : c.extract skip n = .ok (value, d)) : c.Operated d :=
  .single ⟨.extract skip n, .text value, by rw [perform, extracted]; rfl⟩

theorem operated_markNewLine (c : Cursor) : c.Operated c.markNewLine :=
  .single ⟨.markNewLine, .done, rfl⟩

end Cursor

namespace Pattern

variable {c d : Cursor} {kind : Kind} {found : Option Token}

theorem operated_takeSpan {span : List Char} (taken : takeSpan kind c span = .ok (found, d)) :
    c.Operated d := by
  unfold takeSpan at taken
  split at taken
  · cases taken
    exact .refl
  · obtain ⟨⟨remains, middle⟩, advanced, rest⟩ := bind_eq_ok.mp taken
    obtain ⟨⟨value, after⟩, extracted, same⟩ := bind_eq_ok.mp rest
    cases same
    exact (Cursor.operated_advance advanced).trans (Cursor.operated_extract extracted)

theorem operated_takeLiteral {width : Nat} (taken : takeLiteral kind c width = .ok (found, d)) :
    c.Operated d := by
  obtain ⟨⟨value, after⟩, extracted, same⟩ := bind_eq_ok.mp taken
  cases same
  exact Cursor.operated_extract extracted

theorem operated_stride {width : Nat} {ending : Bool} (passed : stride width c ending = .ok d) :
    c.Operated d := by
  unfold stride at passed
  split at passed
  · obtain ⟨⟨remains, middle⟩, advanced, same⟩ := bind_eq_ok.mp passed
    cases same
    exact (Cursor.operated_advance advanced).trans (Cursor.operated_markNewLine middle)
  · obtain ⟨⟨remains, middle⟩, advanced, same⟩ := bind_eq_ok.mp passed
    cases same
    exact Cursor.operated_advance advanced

theorem operated_strides {width : Nat} {path : List Bool}
    (passed : path.foldlM (stride width) c = .ok d) : c.Operated d := by
  induction path generalizing c with
  | nil => cases passed; exact .refl
  | cons ending path ih =>
    rw [List.foldlM_cons] at passed
    obtain ⟨middle, first, others⟩ := bind_eq_ok.mp passed
    exact (operated_stride first).trans (ih others)

/-- A pattern works by operations, at any cursor. -/
theorem operated {shape : Pattern} (recognized : shape.recognize kind c = .ok (found, d)) :
    c.Operated d := by
  cases shape with
  | name first body =>
    obtain ⟨rest, -, taken⟩ := bind_eq_ok.mp recognized
    exact operated_takeSpan taken
  | run member =>
    obtain ⟨rest, -, taken⟩ := bind_eq_ok.mp recognized
    exact operated_takeSpan taken
  | layout member terminator =>
    obtain ⟨rest, -, taken⟩ := bind_eq_ok.mp recognized
    dsimp only at taken
    split at taken
    · cases taken
      exact .refl
    · obtain ⟨middle, passed, taken⟩ := bind_eq_ok.mp taken
      obtain ⟨⟨value, after⟩, extracted, same⟩ := bind_eq_ok.mp taken
      cases same
      exact (operated_strides passed).trans (Cursor.operated_extract extracted)
  | quoted quote quotable =>
    obtain ⟨rest, -, taken⟩ := bind_eq_ok.mp recognized
    dsimp only at taken
    split at taken
    · cases taken
      exact .refl
    · obtain ⟨pending, -, taken⟩ := bind_eq_ok.mp taken
      obtain ⟨⟨remains, middle⟩, advanced, taken⟩ := bind_eq_ok.mp taken
      obtain ⟨⟨value, after⟩, extracted, taken⟩ := bind_eq_ok.mp taken
      obtain ⟨last, committed, same⟩ := bind_eq_ok.mp taken
      cases same
      exact ((Cursor.operated_advance advanced).trans (Cursor.operated_extract extracted)).trans
        (Cursor.operated_commit committed)
  | number digit separator =>
    obtain ⟨rest, -, taken⟩ := bind_eq_ok.mp recognized
    exact operated_takeSpan taken
  | literal set mode =>
    obtain ⟨entry, -, taken⟩ := bind_eq_ok.mp recognized
    cases entry with
    | none => cases taken; exact .refl
    | some entry => exact operated_takeLiteral taken
  | conditional set condition options =>
    obtain ⟨entry, -, taken⟩ := bind_eq_ok.mp recognized
    cases entry with
    | none => cases taken; exact .refl
    | some entry =>
      obtain ⟨near, -, taken⟩ := bind_eq_ok.mp taken
      dsimp only at taken
      split at taken
      · cases taken
        exact .refl
      · exact operated_takeLiteral taken

end Pattern

namespace Recognizer

variable {r first second : Recognizer} {kind : Kind} {c d after : Cursor} {found : Option Token}

/-- The functions written by hand in a recognizer work by operations and do not put another cursor
in place of the one they are given. -/
def Operates : Recognizer → Prop
  | .pattern _ => True
  | .custom attempt => ∀ kind c found after, attempt kind c = .ok (found, after) → c.Operated after
  | .orElse first second => first.Operates ∧ second.Operates

theorem eq_of_keepPlace {result result' : Option Token × Cursor}
    (kept : keepPlace kind c result = .ok result') : result' = result := by
  obtain ⟨found, after⟩ := result
  unfold keepPlace at kept
  dsimp only at kept
  split at kept
  · contradiction
  · cases kept
    rfl

/-- A choice ends with its first recognizer, if that one matches, and otherwise with the second. -/
theorem recognize_orElse (recognized : (orElse first second).recognize kind c = .ok (found, after)) :
    ∃ found' middle, first.recognize kind c = .ok (found', middle) ∧
      (found'.isSome = true ∧ middle = after ∨ second.recognize kind middle = .ok (found, after)) := by
  obtain ⟨⟨found', middle⟩, attempted, rest⟩ := bind_eq_ok.mp recognized
  refine ⟨found', middle, attempted, ?_⟩
  cases found' with
  | some token =>
    have kept : keepPlace kind c (some token, middle) = .ok (found, after) := rest
    cases eq_of_keepPlace kept
    exact .inl ⟨rfl, rfl⟩
  | none =>
    obtain ⟨result, other, kept⟩ := bind_eq_ok.mp rest
    cases eq_of_keepPlace kept
    exact .inr other

theorem Operates.operated (operates : r.Operates)
    (recognized : r.recognize kind c = .ok (found, after)) : c.Operated after := by
  induction r generalizing c found after with
  | pattern shape =>
    obtain ⟨result, attempted, kept⟩ := bind_eq_ok.mp recognized
    cases eq_of_keepPlace kept
    exact Pattern.operated attempted
  | custom attempt =>
    obtain ⟨result, attempted, kept⟩ := bind_eq_ok.mp recognized
    cases eq_of_keepPlace kept
    exact operates kind c found after attempted
  | orElse first second ihFirst ihSecond =>
    obtain ⟨found', middle, attempted, ⟨-, rfl⟩ | other⟩ := recognize_orElse recognized
    · exact ihFirst operates.1 attempted
    · exact (ihFirst operates.1 attempted).trans (ihSecond operates.2 other)

/-- A recognizer, tried at a cursor, comes by another: the attempt as a whole leaves it, or one that
is a part of the choice does. -/
inductive ComesBy (kind : Kind) : Recognizer → Cursor → Cursor → Prop
  | whole {r : Recognizer} {c d : Cursor} {found : Option Token}
      (attempted : r.recognize kind c = .ok (found, d)) : ComesBy kind r c d
  | first {first second : Recognizer} {c d : Cursor} (inner : ComesBy kind first c d) :
      ComesBy kind (.orElse first second) c d
  | second {first second : Recognizer} {c middle d : Cursor}
      (failed : first.recognize kind c = .ok (none, middle)) (inner : ComesBy kind second middle d) :
      ComesBy kind (.orElse first second) c d

/-- From any cursor that a recognizer comes by, operations lead to the one it leaves. -/
theorem ComesBy.operated (comesBy : ComesBy kind r c d) (operates : r.Operates)
    (recognized : r.recognize kind c = .ok (found, after)) : d.Operated after := by
  induction comesBy generalizing found after with
  | whole attempted =>
    cases attempted.symm.trans recognized
    exact .refl
  | first _ ih =>
    obtain ⟨found', middle, attempted, ⟨-, rfl⟩ | other⟩ := recognize_orElse recognized
    · exact ih operates.1 attempted
    · exact (ih operates.1 attempted).trans (operates.2.operated other)
  | second failed _ ih =>
    obtain ⟨found', middle, attempted, ⟨matched, -⟩ | other⟩ := recognize_orElse recognized
    · cases failed.symm.trans attempted
      contradiction
    · cases failed.symm.trans attempted
      exact ih operates.2 other

end Recognizer

end Lexing
