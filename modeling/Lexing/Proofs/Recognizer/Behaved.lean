import Lexing.Proofs.Cursor.Invariant
import Lexing.Proofs.Recognizer.Choice

/-! # Recognizers that behave

Of a recognizer that is written by hand nothing is known but what it promises. To behave is to come
to an answer at every sound cursor and to leave a sound cursor over the same text: without a match
both offsets are where they were, and with a match the position is not before where it was. A match
that tests nothing is allowed, and so is any change to lines, pending tokens and errors, also
without a match. Patterns behave, and so does a choice between recognizers that do.
-/

namespace Lexing

namespace Pattern

variable {c : Cursor} {before pending rest : List Char} {text : String}

theorem sound_afterStride (sound : c.Sound text) (divides : c.Divides before pending rest)
    (width : Nat) (ending : Bool) : (afterStride width ending rest c).Sound text := by
  have moved := sound.of_valid (divides.divides_advance (strideLength width ending)).valid rfl
    (.inl rfl)
  cases ending with
  | false => exact moved
  | true => exact moved.of_offsets rfl rfl rfl (.inr rfl)

theorem sound_afterStrides (sound : c.Sound text) (divides : c.Divides before pending rest)
    (width : Nat) (path : List Bool) : (afterStrides width path rest c).Sound text := by
  induction path generalizing c pending rest with
  | nil => exact sound
  | cons ending path ih =>
    exact ih (sound_afterStride sound divides width ending) (divides_afterStride width ending divides)

/-- Behind a match a cursor is sound, as the lines that layout notes start where a stride ends. -/
theorem sound_after (sound : c.Sound text) (divides : c.Divides before pending rest)
    (shape : Pattern) (n : Nat) : (shape.after rest n c).Sound text := by
  have lined : (shape.lined rest c).Sound text := by
    cases shape with
    | layout member terminator => exact sound_afterStrides sound divides _ _
    | _ => exact sound
  exact lined.of_valid (divides_after divides shape n).valid rfl (.inl rfl)

end Pattern

namespace Recognizer

variable {r first second : Recognizer} {c after : Cursor} {found : Option Token} {text : String}

/-- What a recognizer may make of a cursor over a text. -/
structure Allowed (text : String) (c : Cursor) (found : Option Token) (after : Cursor) : Prop where
  sound : after.Sound text
  onward : c.pos ≤ after.pos
  stays : found = none → after.pos = c.pos ∧ after.start = c.start

/-- At every sound cursor over a text the recognizer comes to an answer that is allowed. -/
def Behaved (text : String) (r : Recognizer) : Prop :=
  ∀ kind c, c.Sound text →
    ∃ found after, r.recognize kind c = .ok (found, after) ∧ Allowed text c found after

theorem Allowed.refl (sound : c.Sound text) : Allowed text c none c :=
  ⟨sound, Nat.le_refl _, fun _ => ⟨rfl, rfl⟩⟩

/-- Whoever does not match and leaves both offsets in place passes the check. -/
theorem Allowed.keepPlace_eq (allowed : Allowed text c found after) (kind : Kind) :
    keepPlace kind c (found, after) = .ok (found, after) := by
  cases found with
  | some token => exact keepPlace_some kind c after token
  | none =>
    obtain ⟨pos, start⟩ := allowed.stays rfl
    exact keepPlace_of_kept kind none (by rw [pos, start])

theorem behaved_pattern (text : String) (shape : Pattern) : (pattern shape).Behaved text := by
  intro kind c sound
  obtain ⟨before, pending, rest, divides⟩ := Cursor.valid_iff_divides.mp sound.toValid
  have builtIn : (pattern shape).BuiltIn := trivial
  refine ⟨_, _, recognize_eq builtIn divides kind, ?_⟩
  cases found : (pattern shape).match? before.reverse rest with
  | none => exact .refl sound
  | some pair =>
    have moved := Pattern.pos_lt_after (c := c) (width?_of_match? found)
    exact ⟨Pattern.sound_after sound divides pair.1 pair.2, Nat.le_of_lt moved, nofun⟩

/-- The second recognizer starts where the first did, so what it may do the choice may do. -/
theorem Behaved.orElse (behaved : first.Behaved text) (behaved' : second.Behaved text) :
    (orElse first second).Behaved text := by
  intro kind c sound
  obtain ⟨found, after, recognized, allowed⟩ := behaved kind c sound
  cases found with
  | some token =>
    refine ⟨some token, after, ?_, allowed⟩
    rw [recognize, recognized, ok_bind]
    exact allowed.keepPlace_eq kind
  | none =>
    obtain ⟨pos, start⟩ := allowed.stays rfl
    obtain ⟨found', after', recognized', allowed'⟩ := behaved' kind after allowed.sound
    have both : Allowed text c found' after' := by
      refine ⟨allowed'.sound, Nat.le_trans allowed.onward allowed'.onward, fun missed => ?_⟩
      obtain ⟨pos', start'⟩ := allowed'.stays missed
      exact ⟨pos'.trans pos, start'.trans start⟩
    refine ⟨found', after', ?_, both⟩
    rw [recognize, recognized, ok_bind]
    change (second.recognize kind after >>= keepPlace kind c) = _
    rw [recognized', ok_bind]
    exact both.keepPlace_eq kind

theorem BuiltIn.behaved (builtIn : r.BuiltIn) (text : String) : r.Behaved text := by
  induction r with
  | pattern shape => exact behaved_pattern text shape
  | custom attempt => exact builtIn.elim
  | orElse first second ihFirst ihSecond => exact (ihFirst builtIn.1).orElse (ihSecond builtIn.2)

end Recognizer

end Lexing
