import Lexing.Recognizer
import Lexing.Proofs.Pattern.Extent

/-! # Choices of patterns

A recognizer built of patterns alone, by any nesting of choices, is settled by the two lists around
the token in progress, as its patterns are: `match?` is the first of its patterns that covers some
text, with the width it covers. `recognize_eq` gives the result of the recognizer from there; along
the way every check that a failed attempt has left the cursor in place is passed. `MatchedBy` says
of a token which pattern of the choice it came from.
-/

namespace Lexing.Recognizer

/-- Built of patterns and choices, without a function written by hand. -/
def BuiltIn : Recognizer → Prop
  | .pattern _ => True
  | .custom _ => False
  | .orElse first second => first.BuiltIn ∧ second.BuiltIn

/-- The patterns of a recognizer in the order of its choices. -/
def leaves : Recognizer → List Pattern
  | .pattern shape => [shape]
  | .custom _ => []
  | .orElse first second => first.leaves ++ second.leaves

/-- A token and the cursor behind it come from a pattern of a recognizer: the patterns before it in
the choice have been tried and do not match. -/
inductive MatchedBy (kind : Kind) (c : Cursor) (token : Token) (after : Cursor) :
    Recognizer → Pattern → Prop
  | leaf {shape : Pattern} (found : shape.recognize kind c = .ok (some token, after)) :
      MatchedBy kind c token after (.pattern shape) shape
  | first {first second : Recognizer} {shape : Pattern}
      (found : MatchedBy kind c token after first shape) :
      MatchedBy kind c token after (.orElse first second) shape
  | second {first second : Recognizer} {shape : Pattern}
      (failed : first.recognize kind c = .ok (none, c))
      (found : MatchedBy kind c token after second shape) :
      MatchedBy kind c token after (.orElse first second) shape

/-- The first pattern of a choice that covers some of the text ahead, and how much. -/
def match? (behind ahead : List Char) : Recognizer → Option (Pattern × Nat)
  | .pattern shape => (shape.width? behind ahead).map (shape, ·)
  | .custom _ => none
  | .orElse first second => (match? behind ahead first).or (match? behind ahead second)

/-- The result of a recognizer whose match is known. -/
def result (kind : Kind) (pending ahead : List Char) (c : Cursor) :
    Option (Pattern × Nat) → Option Token × Cursor
  | none => (none, c)
  | some (leaf, n) => leaf.result kind pending ahead c (some n)

/-- Whoever leaves both offsets in place passes the check. -/
theorem keepPlace_of_kept (kind : Kind) (found : Option Token) {c after : Cursor}
    (kept : (after.pos, after.start) = (c.pos, c.start)) :
    keepPlace kind c (found, after) = .ok (found, after) := by
  simp only [keepPlace, kept, ne_eq, not_true_eq_false, and_false, if_false]

@[simp] theorem keepPlace_none (kind : Kind) (c : Cursor) :
    keepPlace kind c (none, c) = .ok (none, c) := keepPlace_of_kept kind none rfl

@[simp] theorem keepPlace_some (kind : Kind) (c after : Cursor) (token : Token) :
    keepPlace kind c (some token, after) = .ok (some token, after) := by
  simp only [keepPlace, Option.isNone_some, Bool.false_eq_true, false_and, if_false]

variable {r : Recognizer} {c : Cursor} {before pending rest : List Char}

theorem keepPlace_result (kind : Kind) (found : Option (Pattern × Nat)) :
    keepPlace kind c (result kind pending rest c found) = .ok (result kind pending rest c found) := by
  cases found with
  | none => exact keepPlace_none kind c
  | some found => exact keepPlace_some kind c _ _

/-- A pattern covers some text wherever its recognizer finds it. -/
theorem width?_of_match? {behind ahead : List Char} {leaf : Pattern} {n : Nat}
    (found : r.match? behind ahead = some (leaf, n)) : leaf.width? behind ahead = some n := by
  induction r with
  | pattern shape =>
    obtain ⟨width, matched, same⟩ := Option.map_eq_some_iff.mp found
    cases same
    exact matched
  | custom attempt => contradiction
  | orElse first second ihFirst ihSecond =>
    rcases Option.or_eq_some_iff.mp found with found | ⟨-, found⟩
    · exact ihFirst found
    · exact ihSecond found

/-- The result of a recognizer follows from its match in the two lists. -/
theorem recognize_eq (builtIn : r.BuiltIn) (divides : c.Divides before pending rest) (kind : Kind) :
    r.recognize kind c = .ok (result kind pending rest c (r.match? before.reverse rest)) := by
  induction r with
  | pattern shape =>
    have same : shape.result kind pending rest c (shape.width? before.reverse rest) =
        result kind pending rest c ((pattern shape).match? before.reverse rest) := by
      rw [match?]
      cases shape.width? before.reverse rest <;> rfl
    rw [recognize, Pattern.recognize_eq divides, ok_bind, same]
    exact keepPlace_result kind _
  | custom attempt => exact builtIn.elim
  | orElse first second ihFirst ihSecond =>
    rw [recognize, ihFirst builtIn.1, ok_bind, match?]
    cases first.match? before.reverse rest with
    | none =>
      change (second.recognize kind c >>= keepPlace kind c) = _
      rw [ihSecond builtIn.2, ok_bind, Option.none_or]
      exact keepPlace_result kind _
    | some found => exact keepPlace_some kind c _ _

/-- The match of a recognizer names the pattern that its token comes from. -/
theorem matchedBy_of_match? (builtIn : r.BuiltIn) (divides : c.Divides before pending rest)
    (kind : Kind) {leaf : Pattern} {n : Nat} (found : r.match? before.reverse rest = some (leaf, n)) :
    MatchedBy kind c (leaf.tokenOf kind pending (rest.take n)) (leaf.after rest n c) r leaf := by
  induction r with
  | pattern shape =>
    obtain ⟨width, matched, same⟩ := Option.map_eq_some_iff.mp found
    cases same
    apply MatchedBy.leaf
    rw [Pattern.recognize_eq divides, matched]
    rfl
  | custom attempt => exact builtIn.elim
  | orElse first second ihFirst ihSecond =>
    rcases Option.or_eq_some_iff.mp found with found | ⟨failed, found⟩
    · exact .first (ihFirst builtIn.1 found)
    · refine .second ?_ (ihSecond builtIn.2 found)
      rw [recognize_eq builtIn.1 divides, failed]
      rfl

/-- A recognizer built of patterns leaves the cursor as it is, or one of its patterns matches. -/
theorem recognize_cases (builtIn : r.BuiltIn) (divides : c.Divides before pending rest) (kind : Kind) :
    r.recognize kind c = .ok (none, c) ∨
      ∃ leaf n, leaf.width? before.reverse rest = some n ∧
        MatchedBy kind c (leaf.tokenOf kind pending (rest.take n)) (leaf.after rest n c) r leaf := by
  cases found : r.match? before.reverse rest with
  | none =>
    rw [recognize_eq builtIn divides, found]
    exact .inl rfl
  | some pair =>
    exact .inr ⟨pair.1, pair.2, width?_of_match? found, matchedBy_of_match? builtIn divides kind found⟩

namespace MatchedBy

variable {kind : Kind} {token : Token} {after : Cursor} {leaf : Pattern}

theorem recognize (matched : MatchedBy kind c token after r leaf) :
    r.recognize kind c = .ok (some token, after) := by
  induction matched with
  | leaf found => rw [Recognizer.recognize, found, ok_bind, keepPlace_some]
  | first _ ih =>
    rw [Recognizer.recognize, ih, ok_bind]
    exact keepPlace_some kind c after token
  | second failed _ ih =>
    rw [Recognizer.recognize, failed, ok_bind]
    change (Recognizer.recognize _ kind c >>= keepPlace kind c) = _
    rw [ih, ok_bind, keepPlace_some]

theorem leaf_recognize (matched : MatchedBy kind c token after r leaf) :
    leaf.recognize kind c = .ok (some token, after) := by
  induction matched with
  | leaf found => exact found
  | first _ ih => exact ih
  | second _ _ ih => exact ih

theorem mem_leaves (matched : MatchedBy kind c token after r leaf) : leaf ∈ r.leaves := by
  induction matched with
  | leaf found => exact List.mem_singleton_self _
  | first _ ih => exact List.mem_append_left _ ih
  | second _ _ ih => exact List.mem_append_right _ ih

/-- Token and cursor of a match are those of the pattern it came from. -/
theorem extent (matched : MatchedBy kind c token after r leaf)
    (divides : c.Divides before pending rest) :
    ∃ n, leaf.width? before.reverse rest = some n ∧
      token = leaf.tokenOf kind pending (rest.take n) ∧ after = leaf.after rest n c := by
  have found := matched.leaf_recognize
  rw [Pattern.recognize_eq divides] at found
  cases width : leaf.width? before.reverse rest with
  | none => rw [width] at found; cases found
  | some n =>
    rw [width] at found
    cases found
    exact ⟨n, rfl, rfl, rfl⟩

end MatchedBy

end Lexing.Recognizer
