import Lexing.Proofs.Cursor.Zipper
import Lexing.Proofs.Recognizer.Choice

/-! # Maximal munch

A pattern that goes on as far as it can takes the longest beginning of the untested text that has
the form of its tokens. Of each text there is one longest beginning of a given form at most, so the
form says all about what the pattern takes.

Numbers have the form `Numeric`: digits, and a separator that occurs once at most. A character that
is both a digit and the separator counts as the separator. Although the empty text and a separator
alone have this form, they are no numbers.
-/

namespace Lexing

namespace Text

/-- A beginning of a text has a form, and none that has the form is longer. -/
structure LongestPrefix (form : List Char → Prop) (segment text : List Char) : Prop where
  starts : segment <+: text
  formed : form segment
  longest : ∀ other, other <+: text → form other → other.length ≤ segment.length

theorem LongestPrefix.unique {form : List Char → Prop} {segment other text : List Char}
    (longest : LongestPrefix form segment text) (longest' : LongestPrefix form other text) :
    other = segment := by
  have le := longest.longest other longest'.starts longest'.formed
  have ge := longest'.longest segment longest.starts longest.formed
  have inside := List.prefix_of_prefix_length_le longest'.starts longest.starts le
  exact inside.eq_of_length (Nat.le_antisymm le ge)

end Text

namespace Pattern

variable {digit : Char → Bool} {separator : Char} {most : Nat} {text segment : List Char}

/-! ## The form of numbers -/

/-- Digits and separators, with no more than so many separators. -/
structure Numeric (digit : Char → Bool) (separator : Char) (most : Nat) (text : List Char) :
    Prop where
  inside : ∀ char ∈ text, char = separator ∨ digit char = true
  separators : text.count separator ≤ most

theorem numeric_nil : Numeric digit separator most [] :=
  ⟨fun _ member => absurd member List.not_mem_nil, Nat.zero_le _⟩

/-- A separator uses up one of those that may occur; the other characters have to be digits. -/
theorem numeric_cons_iff {char : Char} :
    Numeric digit separator most (char :: text) ↔
      if char = separator then 0 < most ∧ Numeric digit separator (most - 1) text
      else digit char = true ∧ Numeric digit separator most text := by
  split
  · next same =>
    subst same
    constructor
    · rintro ⟨inside, separators⟩
      rw [List.count_cons_self] at separators
      exact ⟨by omega, fun other member => inside other (List.mem_cons_of_mem _ member), by omega⟩
    · rintro ⟨positive, inside, separators⟩
      refine ⟨List.forall_mem_cons.mpr ⟨.inl rfl, inside⟩, ?_⟩
      rw [List.count_cons_self]
      omega
  · next differs =>
    constructor
    · rintro ⟨inside, separators⟩
      rw [List.count_cons_of_ne differs] at separators
      obtain ⟨first, others⟩ := List.forall_mem_cons.mp inside
      exact ⟨first.resolve_left differs, others, separators⟩
    · rintro ⟨isDigit, inside, separators⟩
      refine ⟨List.forall_mem_cons.mpr ⟨.inr isDigit, inside⟩, ?_⟩
      rwa [List.count_cons_of_ne differs]

/-- A numeric text with one separator at most is a number unless it is empty or the separator
alone. -/
theorem Numeric.exists_ne_iff (numeric : Numeric digit separator 1 segment) :
    (∃ char ∈ segment, char ≠ separator) ↔ segment ≠ [] ∧ segment ≠ [separator] := by
  constructor
  · rintro ⟨char, member, differs⟩
    refine ⟨List.ne_nil_of_mem member, ?_⟩
    rintro rfl
    exact differs (List.mem_singleton.mp member)
  · rintro ⟨nonempty, notAlone⟩
    apply Classical.byContradiction
    intro missing
    have same : ∀ char ∈ segment, separator = char := by
      intro char member
      apply Classical.byContradiction
      intro differs
      exact missing ⟨char, member, Ne.symm differs⟩
    -- All characters are the separator, so there is one at most.
    have short : segment.length ≤ 1 := by
      rw [← List.count_eq_length.mpr same]
      exact numeric.separators
    match segment, short with
    | [], _ => exact nonempty rfl
    | [char], _ => exact notAlone (by rw [same char (List.mem_singleton_self char)])

/-! ## The span of a number -/

/-- How many separators may still come. -/
def separatorsLeft (separated : Bool) : Nat := if separated then 0 else 1

theorem numeric_numberSpan (separated : Bool) (text : List Char) :
    Numeric digit separator (separatorsLeft separated)
      (numberSpan digit separator separated text) := by
  induction text generalizing separated with
  | nil => exact numeric_nil
  | cons char rest ih =>
    rw [numberSpan]
    split
    · next same =>
      cases separated with
      | true => exact numeric_nil
      | false =>
        apply numeric_cons_iff.mpr
        rw [if_pos same]
        exact ⟨Nat.one_pos, ih true⟩
    · next differs =>
      split
      · next isDigit =>
        apply numeric_cons_iff.mpr
        rw [if_neg differs]
        exact ⟨isDigit, ih separated⟩
      · exact numeric_nil

theorem length_le_numberSpan (separated : Bool) {other text : List Char} (starts : other <+: text)
    (numeric : Numeric digit separator (separatorsLeft separated) other) :
    other.length ≤ (numberSpan digit separator separated text).length := by
  -- The span and the other beginning spend the separator together, character by character.
  induction other generalizing separated text with
  | nil => exact Nat.zero_le _
  | cons char other ih =>
    obtain ⟨rest, rfl, later⟩ := List.cons_prefix_iff.mp starts
    rw [numeric_cons_iff] at numeric
    rw [numberSpan]
    split at numeric
    · next same =>
      rw [if_pos same]
      cases separated with
      | true => exact absurd numeric.1 (Nat.lt_irrefl 0)
      | false => exact Nat.succ_le_succ (ih true later numeric.2)
    · next differs =>
      rw [if_neg differs, if_pos numeric.1]
      exact Nat.succ_le_succ (ih separated later numeric.2)

/-- The span of a number is the longest numeric beginning of the text. -/
theorem longestPrefix_numberSpan (digit : Char → Bool) (separator : Char) (text : List Char) :
    Text.LongestPrefix (Numeric digit separator 1) (numberSpan digit separator false text) text where
  starts := numberSpan_isPrefix digit separator false text
  formed := numeric_numberSpan false text
  longest _ starts numeric := length_le_numberSpan false starts numeric

/-- A longest numeric beginning is passed if it has a character besides the separator. -/
theorem width?_number (longest : Text.LongestPrefix (Numeric digit separator 1) segment text)
    (behind : List Char) :
    ((∃ char ∈ segment, char ≠ separator) →
      (number digit separator).width? behind text = some segment.length) ∧
    ((¬ ∃ char ∈ segment, char ≠ separator) →
      (number digit separator).width? behind text = none) := by
  obtain rfl := (longestPrefix_numberSpan digit separator text).unique longest
  rw [longest.formed.exists_ne_iff, width?]
  refine ⟨?_, ?_⟩
  · rintro ⟨nonempty, notAlone⟩
    exact (if_neg notAlone).trans (if_neg (mt List.length_eq_zero_iff.mp nonempty))
  · intro lacking
    by_cases alone : numberSpan digit separator false text = [separator]
    · exact if_pos alone
    · have empty : numberSpan digit separator false text = [] :=
        Classical.byContradiction fun nonempty => lacking ⟨nonempty, alone⟩
      rw [empty]
      rfl

end Pattern

namespace Recognizer

variable {c : Cursor} {before pending rest : List Char} {shape : Pattern}

/-- A pattern other than layout turns a segment of its width into a token and moves the cursor
behind it. -/
theorem recognize_of_width?_eq_some {segment after : List Char}
    (divides : c.Divides before pending (segment ++ after)) (plain : shape.isLayout = false)
    (width : shape.width? before.reverse (segment ++ after) = some segment.length) (kind : Kind) :
    ∃ c', (pattern shape).recognize kind c =
        .ok (some ⟨kind, String.ofList (shape.value pending segment)⟩, c') ∧
      c.MovesTo c' (before ++ pending ++ segment) [] after := by
  refine ⟨c.settledAt (c.pos + Text.byteSize segment), ?_, divides.settled, rfl⟩
  rw [recognize_eq (r := pattern shape) trivial divides, match?, width]
  simp only [Option.map_some, result, Pattern.result, Pattern.tokenOf, Pattern.after, List.take_left]
  cases shape with
  | layout member terminator => contradiction
  | _ => rfl

theorem recognize_of_width?_eq_none (divides : c.Divides before pending rest)
    (missing : shape.width? before.reverse rest = none) (kind : Kind) :
    (pattern shape).recognize kind c = .ok (none, c) := by
  rw [recognize_eq (r := pattern shape) trivial divides, match?, missing]
  rfl

/-- The pattern for numbers takes the longest beginning of the untested text that consists of digits
and at most one separator, together with the token in progress. It matches exactly if a character
besides the separator is among them, and leaves the cursor as it is otherwise. -/
theorem recognize_number_iff (divides : c.Divides before pending rest) (digit : Char → Bool)
    (separator : Char) (kind : Kind) :
    ∃ segment after, rest = segment ++ after ∧
      Text.LongestPrefix (Pattern.Numeric digit separator 1) segment rest ∧
      (∀ other, Text.LongestPrefix (Pattern.Numeric digit separator 1) other rest →
        other = segment) ∧
      ((∃ token c', (pattern (.number digit separator)).recognize kind c = .ok (some token, c')) ↔
        ∃ char ∈ segment, char ≠ separator) ∧
      ((∃ char ∈ segment, char ≠ separator) →
        ∃ c', (pattern (.number digit separator)).recognize kind c =
            .ok (some ⟨kind, String.ofList (pending ++ segment)⟩, c') ∧
          c.MovesTo c' (before ++ pending ++ segment) [] after) ∧
      ((¬ ∃ char ∈ segment, char ≠ separator) →
        (pattern (.number digit separator)).recognize kind c = .ok (none, c)) := by
  have longest := Pattern.longestPrefix_numberSpan digit separator rest
  obtain ⟨found, missing⟩ := Pattern.width?_number longest before.reverse
  generalize Pattern.numberSpan digit separator false rest = segment at longest found missing
  obtain ⟨after, rfl⟩ := longest.starts
  have plain : (Pattern.number digit separator).isLayout = false := rfl
  have taken (proper : ∃ char ∈ segment, char ≠ separator) :=
    recognize_of_width?_eq_some divides plain (found proper) kind
  have fails (improper : ¬ ∃ char ∈ segment, char ≠ separator) :=
    recognize_of_width?_eq_none divides (missing improper) kind
  refine ⟨segment, after, rfl, longest, fun _ longest' => longest.unique longest', ⟨?_, ?_⟩,
    taken, fails⟩
  · rintro ⟨token, c', recognized⟩
    apply Classical.byContradiction
    intro improper
    rw [fails improper] at recognized
    cases recognized
  · intro proper
    obtain ⟨c', recognized, -⟩ := taken proper
    exact ⟨_, c', recognized⟩

/-- Behind a sign in progress, a number ends before its second point, although a point counts as a
digit here. Two points in a row are no number. -/
theorem recognize_number_iff_points :
    ∃ (digit : Char → Bool) (c c' d : Cursor), digit '.' = true ∧
      c.Divides ['é'] ['-'] ['1', '.', '5', '.', '2'] ∧
      (pattern (.number digit '.')).recognize ⟨1⟩ c = .ok (some ⟨⟨1⟩, "-1.5"⟩, c') ∧
      c'.Divides ['é', '-', '1', '.', '5'] [] ['.', '2'] ∧
      d.Divides [] ['-'] ['.', '.'] ∧
      (pattern (.number digit '.')).recognize ⟨1⟩ d = .ok (none, d) := by
  have divides : Cursor.Divides { Cursor.ofString "é-1.5.2" with pos := 3, start := 2 }
      ['é'] ['-'] ['1', '.', '5', '.', '2'] := ⟨by decide, by decide, by decide⟩
  have divides' : Cursor.Divides { Cursor.ofString "-.." with pos := 1 } [] ['-'] ['.', '.'] :=
    ⟨by decide, by decide, by decide⟩
  have longest := Pattern.longestPrefix_numberSpan (Text.oneOf "125.") '.' ['1', '.', '5', '.', '2']
  have longest' := Pattern.longestPrefix_numberSpan (Text.oneOf "125.") '.' ['.', '.']
  obtain ⟨segment, after, whole, -, unique, -, taken, -⟩ :=
    recognize_number_iff divides (Text.oneOf "125.") '.' ⟨1⟩
  obtain rfl : ['1', '.', '5'] = segment := unique _ longest
  obtain rfl : ['.', '2'] = after := by simpa using whole
  obtain ⟨c', recognized, moved⟩ := taken ⟨'1', by decide, by decide⟩
  obtain ⟨segment', -, -, -, unique', -, -, fails⟩ :=
    recognize_number_iff divides' (Text.oneOf "125.") '.' ⟨1⟩
  obtain rfl : ['.'] = segment' := unique' _ longest'
  have alone : ¬ ∃ char ∈ ['.'], char ≠ '.' := by simp
  exact ⟨_, _, c', _, by decide, divides, recognized, moved.divides, divides', fails alone⟩

end Recognizer

end Lexing
