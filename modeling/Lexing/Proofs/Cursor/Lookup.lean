import Mathlib.Data.List.Forall2
import Lexing.Proofs.Pattern.Extent

/-! # What a lookup finds

The four matchers compare in ways of their own, and two of them read their text backwards. They share
one meaning: a literal is found if on its side of the token in progress the text has a piece, right
next to the token, whose characters are those of the literal one by one. In the mode that ignores
case two characters count as the same if their lower-case forms are, which may be of several
characters. `Lookup.Finds` states this meaning, and `compare_eq_some_iff` ties the matchers to it.
-/

namespace Lexing

/-- When two characters count as the same. -/
def CaseMode.Same : CaseMode → Char → Char → Prop
  | .sensitive, found, expected => found = expected
  | .insensitive, found, expected => Text.lower found = Text.lower expected

/-- A piece of text borders on the token in progress: the text ahead starts with it, or the text
behind ends with it. -/
def Side.Borders (before rest piece : List Char) : Side → Prop
  | .ahead => piece <+: rest
  | .behind => piece <:+ before

/-- A piece of text borders on the token in progress whose characters are those of a literal. -/
def Lookup.Finds (lookup : Lookup) (before rest literal : List Char) : Prop :=
  ∃ piece, lookup.side.Borders before rest piece ∧ List.Forall₂ lookup.mode.Same piece literal

namespace Matcher

variable {source literal : List Char} {width : Nat}

theorem startsWith_eq_some_iff :
    startsWith source literal = some width ↔
      width = literal.length ∧ ∃ piece, piece <+: source ∧
        List.Forall₂ CaseMode.sensitive.Same piece literal := by
  have equal (piece : List Char) :
      List.Forall₂ CaseMode.sensitive.Same piece literal ↔ piece = literal := by
    change List.Forall₂ (· = ·) piece literal ↔ _
    rw [List.forall₂_eq_eq_eq]
  simp only [startsWith, equal, exists_eq_right, ← List.isPrefixOf_iff_prefix]
  split
  · next starts => simp [starts, eq_comm]
  · next differs => simp [differs]

theorem foldedMatch_eq_some_iff :
    foldedMatch source literal = some width ↔
      width = literal.length ∧ ∃ piece, piece <+: source ∧
        List.Forall₂ CaseMode.insensitive.Same piece literal := by
  fun_induction foldedMatch source literal generalizing width with
  | case1 source =>
    constructor
    · rintro ⟨⟩
      exact ⟨rfl, [], List.nil_prefix, .nil⟩
    · rintro ⟨rfl, -⟩
      rfl
  | case2 expected literal =>
    constructor
    · intro impossible
      contradiction
    · rintro ⟨-, piece, starts, same⟩
      obtain rfl := List.prefix_nil.mp starts
      cases same
  | case3 found source expected literal folds ih =>
    rw [Option.map_eq_some_iff]
    constructor
    · rintro ⟨width, matched, rfl⟩
      obtain ⟨rfl, piece, starts, same⟩ := ih.mp matched
      exact ⟨rfl, found :: piece, (List.prefix_cons_inj found).mpr starts,
        .cons (Text.sameFolded_iff.mp folds) same⟩
    · rintro ⟨rfl, piece, starts, same⟩
      cases same with
      | cons _ same =>
        obtain ⟨-, starts⟩ := List.cons_prefix_cons.mp starts
        exact ⟨_, ih.mpr ⟨rfl, _, starts, same⟩, rfl⟩
  | case4 found source expected literal differs =>
    constructor
    · intro impossible
      contradiction
    · rintro ⟨-, piece, starts, same⟩
      cases same with
      | cons folds _ =>
        obtain ⟨rfl, -⟩ := List.cons_prefix_cons.mp starts
        exact absurd (Text.sameFolded_iff.mpr folds) differs

end Matcher

namespace Lookup

variable {before rest literal : List Char} {width : Nat}

theorem compare_ahead_eq_some_iff {mode : CaseMode} {source : List Char} :
    (resolve ⟨.ahead, mode⟩).compare source literal = some width ↔
      width = literal.length ∧ ∃ piece, piece <+: source ∧ List.Forall₂ mode.Same piece literal := by
  cases mode with
  | sensitive => exact Matcher.startsWith_eq_some_iff
  | insensitive => exact Matcher.foldedMatch_eq_some_iff

/-- Looking behind is looking ahead with text and literal turned round. -/
theorem compare_behind (mode : CaseMode) (source literal : List Char) :
    (resolve ⟨.behind, mode⟩).compare source literal =
      (resolve ⟨.ahead, mode⟩).compare source literal.reverse := by
  cases mode with
  | sensitive =>
    change Matcher.endsWith source literal = Matcher.startsWith source literal.reverse
    rw [Matcher.endsWith, Matcher.startsWith, List.length_reverse]
  | insensitive => rfl

theorem finds_behind_iff {mode : CaseMode} :
    Finds ⟨.behind, mode⟩ before rest literal ↔
      ∃ piece, piece <+: before.reverse ∧ List.Forall₂ mode.Same piece literal.reverse := by
  constructor
  · rintro ⟨piece, ends, same⟩
    exact ⟨piece.reverse, List.reverse_prefix.mpr ends, List.forall₂_reverse_iff.mpr same⟩
  · rintro ⟨piece, starts, same⟩
    refine ⟨piece.reverse, ?_, ?_⟩
    · rw [← List.reverse_reverse piece] at starts
      exact List.reverse_prefix.mp starts
    · rw [← List.reverse_reverse piece] at same
      exact List.forall₂_reverse_iff.mp same

/-- A matcher answers with the number of characters of the literal exactly if it is found. -/
theorem compare_eq_some_iff (lookup : Lookup) :
    lookup.resolve.compare (Pattern.sideOf lookup before.reverse rest) literal = some width ↔
      width = literal.length ∧ lookup.Finds before rest literal := by
  rcases lookup with ⟨_ | _, mode⟩
  · exact compare_ahead_eq_some_iff
  · rw [finds_behind_iff, compare_behind, compare_ahead_eq_some_iff, List.length_reverse]
    rfl

instance (lookup : Lookup) (before rest literal : List Char) :
    Decidable (lookup.Finds before rest literal) :=
  decidable_of_iff (lookup.resolve.compare (Pattern.sideOf lookup before.reverse rest) literal =
    some literal.length) (lookup.compare_eq_some_iff.trans (and_iff_right rfl))

/-- What is found with regard to case is found without. -/
theorem Finds.insensitive {side : Side} (found : Finds ⟨side, .sensitive⟩ before rest literal) :
    Finds ⟨side, .insensitive⟩ before rest literal := by
  obtain ⟨piece, borders, same⟩ := found
  exact ⟨piece, borders, same.imp fun _ _ equal => congrArg Text.lower equal⟩

theorem finds_insensitive_iff {side : Side} :
    Finds ⟨side, .insensitive⟩ before rest literal ↔
      ∃ piece, side.Borders before rest piece ∧ piece.map Text.lower = literal.map Text.lower := by
  apply exists_congr
  intro piece
  apply and_congr_right'
  rw [← List.forall₂_eq_eq_eq, List.forall₂_map_left_iff, List.forall₂_map_right_iff]
  rfl

end Lookup

namespace Cursor

variable {c : Cursor} {before pending rest : List Char}

theorem Divides.matchLiteral_eq (divides : c.Divides before pending rest) (literal : String)
    (lookup : Lookup) :
    c.matchLiteral literal lookup =
      .ok (lookup.resolve.compare (Pattern.sideOf lookup before.reverse rest) literal.toList) := by
  rw [matchLiteral, matchWith, Pattern.sideText_eq divides]
  rfl

theorem Divides.matchLiteral_eq_some_iff (divides : c.Divides before pending rest)
    (literal : String) (lookup : Lookup) {width : Nat} :
    c.matchLiteral literal lookup = .ok (some width) ↔
      width = literal.length ∧ lookup.Finds before rest literal.toList := by
  rw [divides.matchLiteral_eq, Except.ok.injEq, lookup.compare_eq_some_iff, String.length_toList]

theorem Divides.matchLiteral_eq_none_iff (divides : c.Divides before pending rest)
    (literal : String) (lookup : Lookup) :
    c.matchLiteral literal lookup = .ok none ↔ ¬ lookup.Finds before rest literal.toList := by
  rw [divides.matchLiteral_eq, Except.ok.injEq, Option.eq_none_iff_forall_ne_some]
  constructor
  · intro missing found
    exact missing _ (lookup.compare_eq_some_iff.mpr ⟨rfl, found⟩)
  · intro missing width matched
    exact missing (lookup.compare_eq_some_iff.mp matched).2

/-- Whether a literal matches at all says whether it is found. -/
theorem Divides.isSome_matchLiteral_iff (divides : c.Divides before pending rest)
    (literal : String) (lookup : Lookup) :
    ((do return (← c.matchLiteral literal lookup).isSome) = (.ok true : Except Fault Bool) ↔
      lookup.Finds before rest literal.toList) ∧
    ((do return (← c.matchLiteral literal lookup).isSome) = (.ok false : Except Fault Bool) ↔
      ¬ lookup.Finds before rest literal.toList) := by
  by_cases found : lookup.Finds before rest literal.toList
  · rw [(divides.matchLiteral_eq_some_iff literal lookup).mpr ⟨rfl, found⟩]
    exact ⟨iff_of_true rfl found, iff_of_false nofun (not_not_intro found)⟩
  · rw [(divides.matchLiteral_eq_none_iff literal lookup).mpr found]
    exact ⟨iff_of_false nofun found, iff_of_true rfl found⟩

/-- On either side of the token in progress and in either case mode, a literal is answered with its
number of characters if the text has it there, and with nothing otherwise. The token in progress
plays no part. Whoever resolves the lookup first, or asks only whether the literal is there, gets the
same answer. Regard to case finds no literal that is not found without, and without regard to case
nothing of a literal counts but the lower-case forms of its characters. -/
theorem lookup_finds_iff (divides : c.Divides before pending rest) (literal : String) :
    (∀ lookup : Lookup,
      (c.matchLiteral literal lookup = .ok (some literal.length) ↔
        lookup.Finds before rest literal.toList) ∧
      (¬ lookup.Finds before rest literal.toList → c.matchLiteral literal lookup = .ok none) ∧
      c.matchWith literal lookup.resolve = c.matchLiteral literal lookup) ∧
    (∀ mode : CaseMode,
      ((c.isAhead literal mode = .ok true ↔
          Lookup.Finds ⟨.ahead, mode⟩ before rest literal.toList) ∧
        (c.isAhead literal mode = .ok false ↔
          ¬ Lookup.Finds ⟨.ahead, mode⟩ before rest literal.toList)) ∧
      (c.isBehind literal mode = .ok true ↔
          Lookup.Finds ⟨.behind, mode⟩ before rest literal.toList) ∧
        (c.isBehind literal mode = .ok false ↔
          ¬ Lookup.Finds ⟨.behind, mode⟩ before rest literal.toList)) ∧
    (∀ side width, c.matchLiteral literal ⟨side, .sensitive⟩ = .ok (some width) →
      c.matchLiteral literal ⟨side, .insensitive⟩ = .ok (some width)) ∧
    ∀ side (other : String), other.toList.map Text.lower = literal.toList.map Text.lower →
      c.matchLiteral other ⟨side, .insensitive⟩ = c.matchLiteral literal ⟨side, .insensitive⟩ := by
  refine ⟨?_, ?_, ?_, ?_⟩
  · intro lookup
    refine ⟨?_, (divides.matchLiteral_eq_none_iff literal lookup).mpr, rfl⟩
    rw [divides.matchLiteral_eq_some_iff]
    exact and_iff_right rfl
  · intro mode
    exact ⟨divides.isSome_matchLiteral_iff literal ⟨.ahead, mode⟩,
      divides.isSome_matchLiteral_iff literal ⟨.behind, mode⟩⟩
  · intro side width matched
    obtain ⟨same, found⟩ := (divides.matchLiteral_eq_some_iff literal _).mp matched
    exact (divides.matchLiteral_eq_some_iff literal _).mpr ⟨same, found.insensitive⟩
  · intro side other folded
    -- Forms stand for characters one by one, so the answers agree in the width too.
    have lengths : other.length = literal.length := by
      have same := congrArg List.length folded
      rwa [List.length_map, List.length_map, String.length_toList, String.length_toList] at same
    rw [divides.matchLiteral_eq, divides.matchLiteral_eq]
    congr 1
    apply Option.ext
    intro width
    rw [Lookup.compare_eq_some_iff, Lookup.compare_eq_some_iff, Lookup.finds_insensitive_iff,
      Lookup.finds_insensitive_iff, folded, String.length_toList, String.length_toList, lengths]

/-- A Kelvin sign of three bytes is found by a letter of one, and the character in progress is looked
at from neither side. A capital with a dot has a lower-case form of two characters, of which the
letter without the dot is only the first. -/
theorem lookup_finds_iff_kelvin :
    ∃ c : Cursor, c.Divides ['a', '\u212a'] ['x'] ['İ', 'b'] ∧
      c.matchLiteral "Ak" ⟨.behind, .insensitive⟩ = .ok (some 2) ∧
      c.matchLiteral "Ak" ⟨.behind, .sensitive⟩ = .ok none ∧
      c.isBehind "x" .insensitive = .ok false ∧ c.isAhead "x" .insensitive = .ok false ∧
      c.matchLiteral "i" ⟨.ahead, .insensitive⟩ = .ok none := by
  have divides : Divides { ofString "a\u212axİb" with pos := 5, start := 4 }
      ['a', '\u212a'] ['x'] ['İ', 'b'] := ⟨by decide, by decide, by decide⟩
  obtain ⟨kelvin, -⟩ := lookup_finds_iff divides "Ak"
  obtain ⟨-, pending, -⟩ := lookup_finds_iff divides "x"
  obtain ⟨dotted, -⟩ := lookup_finds_iff divides "i"
  obtain ⟨⟨-, ahead⟩, -, behind⟩ := pending .insensitive
  exact ⟨_, divides, (kelvin _).1.mpr (by decide), (kelvin _).2.1 (by decide),
    behind.mpr (by decide), ahead.mpr (by decide), (dotted _).2.1 (by decide)⟩

end Cursor

end Lexing
