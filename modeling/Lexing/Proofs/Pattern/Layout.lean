import Lexing.Proofs.Recognizer.Choice

/-! # Layout and the lines in it

Layout is passed in strides. A stride over a terminator looks at its first character alone for being
a member, so layout may go further than a run of its members: it does so exactly if a terminator
begins with a member and does not consist of members. `layout_follows_run_iff` says when layout is a
run in which lines are noted.

Where all of a terminator are members, the lines are those that the terminators end when the text
passed is searched from its beginning, each time for the first terminator behind the one before.
`Sections` is this way to cut a text, and there is one only. `layout_notes_sections` says that
layout notes a line for each section that ends, and the place behind the last terminator as the
start of the current line.
-/

namespace Lexing

namespace Text

variable {needle last last' text : List Char} {ended ended' : List (List Char)}

/-- A text is searched for a needle from its beginning, each time behind the last one found: `ended`
are the sections that the needles end, and `last` is the text behind them, in which there is none. -/
inductive Sections (needle : List Char) : List (List Char) → List Char → List Char → Prop
  | rest {last : List Char} (free : ¬ needle <:+: last) : Sections needle [] last last
  | found {piece : List Char} {ended : List (List Char)} {last text : List Char}
      (first : ∀ left, left ++ needle <+: piece ++ needle → left = piece)
      (later : Sections needle ended last text) :
      Sections needle (piece :: ended) last (piece ++ needle ++ text)

/-- Sections with the needles that end them. -/
def closed (needle : List Char) (ended : List (List Char)) : List Char := ended.flatMap (· ++ needle)

theorem closed_cons (needle piece : List Char) (ended : List (List Char)) :
    closed needle (piece :: ended) = piece ++ needle ++ closed needle ended :=
  List.flatMap_cons

namespace Sections

theorem text_eq (sections : Sections needle ended last text) : text = closed needle ended ++ last := by
  induction sections with
  | rest free => rfl
  | found first later ih => rw [closed_cons, List.append_assoc _ (closed needle _), ← ih]

/-- At a needle, an empty section ends. -/
theorem found_nil (later : Sections needle ended last text) :
    Sections needle ([] :: ended) last (needle ++ text) := by
  have first (left : List Char) (starts : left ++ needle <+: [] ++ needle) : left = [] := by
    have le := starts.length_le
    rw [List.length_append, List.nil_append] at le
    exact List.length_eq_zero_iff.mp (by omega)
  exact .found first later

/-- A character at which there is no needle belongs to the last section if no other ends. -/
theorem rest_cons {char : Char} (sections : Sections needle [] last text)
    (other : ¬ needle <+: char :: text) : Sections needle [] (char :: last) (char :: text) := by
  cases sections with
  | rest free =>
    apply Sections.rest
    rw [List.infix_cons_iff, not_or]
    exact ⟨other, free⟩

/-- A character at which there is no needle belongs to the first section that ends. -/
theorem found_cons {char : Char} {piece : List Char}
    (sections : Sections needle (piece :: ended) last text) (other : ¬ needle <+: char :: text) :
    Sections needle ((char :: piece) :: ended) last (char :: text) := by
  cases sections with
  | @found _ _ _ text first later =>
    have first' (left : List Char) (starts : left ++ needle <+: char :: piece ++ needle) :
        left = char :: piece := by
      cases left with
      | nil => exact absurd (starts.trans ⟨text, rfl⟩) other
      | cons head left =>
        obtain ⟨rfl, inside⟩ := List.cons_prefix_cons.mp starts
        rw [first left inside]
    exact .found first' later

/-- A text is cut in one way only. -/
theorem unique (sections : Sections needle ended last text)
    (sections' : Sections needle ended' last' text) : ended' = ended ∧ last' = last := by
  induction sections generalizing ended' last' with
  | rest free =>
    cases sections' with
    | rest free' => exact ⟨rfl, rfl⟩
    | found first' later' => exact absurd (List.infix_append _ _ _) free
  | @found piece ended last text first later ih =>
    generalize whole : piece ++ needle ++ text = joined at sections'
    cases sections' with
    | rest free' => exact absurd (whole ▸ List.infix_append _ _ _) free'
    | @found piece' ended' last' text' first' later' =>
      -- Of the two first needles, neither may end before the other.
      have same : piece' = piece := by
        rcases List.prefix_or_prefix_of_prefix (List.prefix_append (piece ++ needle) text)
          (whole ▸ List.prefix_append (piece' ++ needle) text') with shorter | shorter
        · exact (first' piece shorter).symm
        · exact first piece' shorter
      subst same
      obtain rfl := List.append_cancel_left whole
      obtain ⟨rfl, rfl⟩ := ih later'
      exact ⟨rfl, rfl⟩

end Sections

end Text

namespace Pattern

variable {member : Char → Bool} {terminator : List Char}

/-! ## How far layout goes -/

/-- No terminator leads layout out of a run of members: there is none, it cannot begin at a member,
or it consists of members. -/
def StaysInRun (member : Char → Bool) (terminator : List Char) : Prop :=
  terminator = [] ∨ (∃ first others, terminator = first :: others ∧ member first = false) ∨
    ∀ char ∈ terminator, member char = true

/-- A terminator that is met begins with the next character, and behind it the next stride starts. -/
theorem exists_of_ending {char : Char} {rest : List Char}
    (ending : terminator ≠ [] ∧ terminator.isPrefixOf (char :: rest) = true) :
    ∃ others, terminator = char :: others ∧
      char :: rest = terminator ++ rest.drop (terminator.length - 1) := by
  obtain ⟨nonempty, starts⟩ := ending
  obtain ⟨after, whole⟩ := List.isPrefixOf_iff_prefix.mp starts
  cases terminator with
  | nil => contradiction
  | cons first others =>
    rw [List.cons_append, List.cons.injEq] at whole
    obtain ⟨rfl, rfl⟩ := whole
    refine ⟨others, rfl, ?_⟩
    rw [List.length_cons, Nat.add_sub_cancel, List.drop_left, List.cons_append]

/-- The terminator passed by a stride belongs to the run if all of it are members. -/
theorem takeWhile_of_ending {char : Char} {rest : List Char}
    (ending : terminator ≠ [] ∧ terminator.isPrefixOf (char :: rest) = true)
    (members : ∀ char ∈ terminator, member char = true) :
    (char :: rest).takeWhile member =
      terminator ++ (rest.drop (terminator.length - 1)).takeWhile member := by
  obtain ⟨-, -, whole⟩ := exists_of_ending ending
  rw [whole, List.takeWhile_append_of_pos members]

theorem strideWidth_eq_of_staysInRun (stays : StaysInRun member terminator) (text : List Char) :
    strideWidth terminator.length (strides member terminator text) =
      (text.takeWhile member).length := by
  fun_induction strides member terminator text with
  | case1 => rfl
  | case2 char rest inside ending ih =>
    have members : ∀ char ∈ terminator, member char = true := by
      obtain ⟨others, begins, -⟩ := exists_of_ending ending
      rcases stays with empty | ⟨first, others', begins', outside⟩ | members
      · exact absurd empty ending.1
      · obtain ⟨rfl, -⟩ := List.cons.inj (begins.symm.trans begins')
        rw [inside] at outside
        contradiction
      · exact members
    rw [strideWidth, strideLength, if_pos rfl, ih, takeWhile_of_ending ending members,
      List.length_append]
  | case3 char rest inside plain ih =>
    rw [strideWidth, strideLength, if_neg Bool.false_ne_true, ih, List.takeWhile_cons_of_pos inside,
      List.length_cons, Nat.add_comm]
  | case4 char rest outside =>
    rw [List.takeWhile_cons_of_neg outside]
    rfl

/-- Where layout goes no further than a run on the terminator itself, the terminator stays in the run. -/
theorem staysInRun_of_strideWidth_eq
    (same : strideWidth terminator.length (strides member terminator terminator) =
      (terminator.takeWhile member).length) : StaysInRun member terminator := by
  cases terminator with
  | nil => exact .inl rfl
  | cons first others =>
    cases inside : member first with
    | false => exact .inr (.inl ⟨first, others, rfl, inside⟩)
    | true =>
      have ending : first :: others ≠ [] ∧
          (first :: others).isPrefixOf (first :: others) = true :=
        ⟨List.cons_ne_nil _ _, List.isPrefixOf_iff_prefix.mpr (List.prefix_refl _)⟩
      -- One stride passes the terminator, and nothing is left for another.
      have path : strides member (first :: others) (first :: others) = [true] := by
        rw [strides, if_pos inside, if_pos ending, List.length_cons, Nat.add_sub_cancel,
          List.drop_length, strides]
      rw [path] at same
      have whole : (first :: others).takeWhile member = first :: others :=
        (List.takeWhile_prefix member).eq_of_length same.symm
      have members := List.all_takeWhile (p := member) (l := first :: others)
      rw [whole] at members
      exact .inr (.inr (List.all_eq_true.mp members))

/-! ## The lines that strides note -/

/-- From one cursor to another, a line has been noted for each section that ends, and the current
line starts behind the last of them. -/
structure NotesSections (needle : List Char) (ended : List (List Char)) (c c' : Cursor) : Prop where
  line : c'.line = c.line + ended.length
  lineStart : c'.lineStart =
    if ended = [] then c.lineStart else c.pos + Text.byteSize (Text.closed needle ended)

variable {ended : List (List Char)} {c c' : Cursor}

/-- A stride over a terminator ends a section. -/
theorem NotesSections.ending {after : List Char}
    (later : NotesSections terminator ended
      (afterStride terminator.length true (terminator ++ after) c) c') :
    NotesSections terminator ([] :: ended) c c' := by
  obtain ⟨line, lineStart⟩ := later
  simp only [afterStride, strideLength, if_true, Cursor.markNewLine, List.take_left] at line lineStart
  refine ⟨?_, ?_⟩
  · rw [line, List.length_cons]
    omega
  · rw [lineStart, if_neg (List.cons_ne_nil _ _), Text.closed_cons, List.nil_append,
      Text.byteSize_append]
    split
    · next empty =>
      rw [empty]
      rfl
    · omega

/-- A stride over one character lengthens the first section. -/
theorem NotesSections.plain {char : Char} {rest piece : List Char} {width : Nat}
    (later : NotesSections terminator (piece :: ended) (afterStride width false (char :: rest) c) c') :
    NotesSections terminator ((char :: piece) :: ended) c c' := by
  obtain ⟨line, lineStart⟩ := later
  refine ⟨line, ?_⟩
  rw [lineStart, if_neg (List.cons_ne_nil _ _), if_neg (List.cons_ne_nil _ _)]
  change c.pos + Text.byteSize [char] + Text.byteSize (Text.closed terminator (piece :: ended)) = _
  simp only [Text.closed_cons, List.cons_append, Text.byteSize_cons, Text.byteSize_nil]
  omega

/-- Where all of the terminator are members, strides note the sections of the run they pass. -/
theorem exists_sections (nonempty : terminator ≠ [])
    (members : ∀ char ∈ terminator, member char = true) (text : List Char) (c : Cursor) :
    ∃ ended last, Text.Sections terminator ended last (text.takeWhile member) ∧
      NotesSections terminator ended c
        (afterStrides terminator.length (strides member terminator text) text c) := by
  have nothing : Text.Sections terminator [] [] [] :=
    .rest fun inside => nonempty (List.infix_nil.mp inside)
  fun_induction strides member terminator text generalizing c with
  | case1 => exact ⟨[], [], nothing, rfl, rfl⟩
  | case2 char rest inside ending ih =>
    obtain ⟨-, -, whole⟩ := exists_of_ending ending
    obtain ⟨ended, last, sections, noted⟩ := ih
      (afterStride terminator.length true (char :: rest) c)
    refine ⟨[] :: ended, last, ?_, ?_⟩
    · rw [takeWhile_of_ending ending members]
      exact sections.found_nil
    · rw [afterStrides, strideLength, if_pos rfl]
      rw [whole] at noted ⊢
      rw [List.drop_left]
      exact noted.ending
  | case3 char rest inside plain ih =>
    obtain ⟨ended, last, sections, noted⟩ := ih
      (afterStride terminator.length false (char :: rest) c)
    -- No terminator starts here in the whole text, hence none in the run.
    have other : ¬ terminator <+: char :: rest.takeWhile member := by
      intro starts
      have run := (List.prefix_cons_inj char).mpr (List.takeWhile_prefix member (l := rest))
      exact plain ⟨nonempty, List.isPrefixOf_iff_prefix.mpr (starts.trans run)⟩
    rw [List.takeWhile_cons_of_pos inside]
    cases ended with
    | nil => exact ⟨[], char :: last, sections.rest_cons other, noted.line, noted.lineStart⟩
    | cons piece ended =>
      exact ⟨(char :: piece) :: ended, last, sections.found_cons other, noted.plain⟩
  | case4 char rest outside =>
    rw [List.takeWhile_cons_of_neg outside]
    exact ⟨[], [], nothing, rfl, rfl⟩

end Pattern

namespace Recognizer

variable {member : Char → Bool} {terminator : String} {c c' : Cursor}
  {before pending rest : List Char}

/-- Two attempts end with the same token, or with none, and at the same place. Lines may differ. -/
def SamePlace (first second : Except Fault (Option Token × Cursor)) : Prop :=
  ∃ found c c', first = .ok (found, c) ∧ second = .ok (found, c') ∧
    c'.pos = c.pos ∧ c'.start = c.start

/-- Layout and a run end at the same place exactly if they pass the same number of characters. -/
theorem samePlace_iff_strideWidth_eq (divides : c.Divides before pending rest) (kind : Kind) :
    SamePlace ((pattern (.layout member terminator)).recognize kind c)
        ((pattern (.run member)).recognize kind c) ↔
      Pattern.strideWidth terminator.toList.length (Pattern.strides member terminator.toList rest) =
        (rest.takeWhile member).length := by
  have passed := Pattern.strideWidth_strides_le member terminator.toList rest
  have passed' := (List.takeWhile_prefix member (l := rest)).length_le
  rw [recognize_eq (r := pattern (.layout member terminator)) trivial divides,
    recognize_eq (r := pattern (.run member)) trivial divides, match?, match?, Pattern.width?,
    Pattern.width?, ← String.length_toList]
  generalize Pattern.strideWidth _ _ = m at passed ⊢
  generalize (rest.takeWhile member).length = n at passed' ⊢
  constructor
  · rintro ⟨found, after, after', strode, ran, -⟩
    unfold Pattern.positive? at strode ran
    split at strode <;> split at ran
    · omega
    · cases strode
      cases ran
    · cases strode
      cases ran
    · cases strode
      obtain ⟨token, -⟩ := Prod.mk.inj (Except.ok.inj ran)
      have value := congrArg String.toList (Token.mk.inj (Option.some.inj token)).2
      simp only [Pattern.value, String.toList_ofList, List.append_cancel_left_eq] at value
      have length := congrArg List.length value
      rw [List.length_take, List.length_take] at length
      omega
  · rintro rfl
    cases Pattern.positive? m with
    | none => exact ⟨none, c, c, rfl, rfl, rfl, rfl⟩
    | some width => exact ⟨_, _, _, rfl, rfl, rfl, rfl⟩

/-- Layout takes the same tokens as a run of its members and ends at the same places, at every
cursor, exactly if no terminator leads out of the run. It is enough to compare the two at the
beginnings of texts. -/
theorem layout_follows_run_iff (member : Char → Bool) (terminator : String) (kind : Kind) :
    ((∀ c : Cursor, c.Valid →
        SamePlace ((pattern (.layout member terminator)).recognize kind c)
          ((pattern (.run member)).recognize kind c)) ↔
      Pattern.StaysInRun member terminator.toList) ∧
    ((∀ text, SamePlace ((pattern (.layout member terminator)).recognize kind (.ofString text))
        ((pattern (.run member)).recognize kind (.ofString text))) →
      Pattern.StaysInRun member terminator.toList) := by
  have conversely (same : ∀ text,
      SamePlace ((pattern (.layout member terminator)).recognize kind (.ofString text))
        ((pattern (.run member)).recognize kind (.ofString text))) :
      Pattern.StaysInRun member terminator.toList := by
    apply Pattern.staysInRun_of_strideWidth_eq
    exact (samePlace_iff_strideWidth_eq (Cursor.divides_ofString terminator) kind).mp
      (same terminator)
  refine ⟨⟨?_, ?_⟩, conversely⟩
  · intro same
    exact conversely fun text => same _ (Cursor.divides_ofString text).valid
  · intro stays c valid
    obtain ⟨before, pending, rest, divides⟩ := Cursor.valid_iff_divides.mp valid
    rw [samePlace_iff_strideWidth_eq divides]
    exact Pattern.strideWidth_eq_of_staysInRun stays rest

/-- A carriage return with a line feed leads out of a run of carriage returns, but not out of a run of
white space. -/
theorem layout_follows_run_iff_crlf :
    (∀ c : Cursor, c.Valid →
      SamePlace ((pattern (.layout Text.isSpace "\r\n")).recognize ⟨1⟩ c)
        ((pattern (.run Text.isSpace)).recognize ⟨1⟩ c)) ∧
    ¬ ∀ text, SamePlace ((pattern (.layout (· == '\r') "\r\n")).recognize ⟨1⟩ (.ofString text))
      ((pattern (.run (· == '\r'))).recognize ⟨1⟩ (.ofString text)) := by
  refine ⟨(layout_follows_run_iff ..).1.mpr (.inr (.inr (List.all_eq_true.mp (by decide)))), ?_⟩
  intro same
  rcases (layout_follows_run_iff ..).2 same with empty | ⟨first, others, begins, outside⟩ | members
  · exact absurd empty (by decide)
  · obtain ⟨rfl, -⟩ := List.cons.inj begins
    contradiction
  · exact absurd (List.all_eq_true.mpr members) (by decide)

/-- Where all of the terminator are members, a match of layout notes a line for each section of the
text it passes that a terminator ends. The current line starts behind the last terminator, or where
it started before if there is none. -/
theorem layout_notes_sections (nonempty : terminator ≠ "")
    (members : ∀ char ∈ terminator.toList, member char = true) (valid : c.Valid) {kind : Kind}
    {token : Token}
    (recognized : (pattern (.layout member terminator)).recognize kind c = .ok (some token, c')) :
    ∃ segment ended last, c.textBetween c.pos c'.pos = .ok segment ∧
      Text.Sections terminator.toList ended last segment ∧
      (∀ ended' last', Text.Sections terminator.toList ended' last' segment →
        ended' = ended ∧ last' = last) ∧
      segment = Text.closed terminator.toList ended ++ last ∧
      c'.line = c.line + ended.length ∧
      c'.lineStart =
        if ended = [] then c.lineStart
        else c.pos + Text.byteSize (Text.closed terminator.toList ended) := by
  obtain ⟨before, pending, rest, divides⟩ := Cursor.valid_iff_divides.mp valid
  have nonempty' : terminator.toList ≠ [] := mt String.toList_eq_nil_iff.mp nonempty
  obtain ⟨ended, last, sections, noted⟩ := Pattern.exists_sections nonempty' members rest c
  have run := Pattern.strideWidth_eq_of_staysInRun (.inr (.inr members)) rest
  rw [recognize_eq (r := pattern (.layout member terminator)) trivial divides, match?] at recognized
  cases width : (Pattern.layout member terminator).width? before.reverse rest with
  | none =>
    rw [width] at recognized
    cases recognized
  | some n =>
    rw [width] at recognized
    cases recognized
    have covered : rest.takeWhile member = rest.take n := by
      obtain ⟨-, same⟩ := Pattern.positive?_eq_some width
      rw [same, ← String.length_toList, run]
      exact List.prefix_iff_eq_take.mp (List.takeWhile_prefix member)
    rw [covered] at sections
    exact ⟨rest.take n, ended, last, divides.textBetween_pos n, sections,
      fun _ _ sections' => sections.unique sections', sections.text_eq, noted.line, noted.lineStart⟩

/-- Of three line feeds in a row, the first two are a terminator of two line feeds. The third is none
together with the space behind it, and the next two are one again. -/
theorem layout_notes_sections_blank_lines :
    ∃ (c c' : Cursor) (token : Token), c.Valid ∧ c.start < c.pos ∧ c.line = 4 ∧
      (pattern (.layout (Text.oneOf " \n") "\n\n")).recognize ⟨1⟩ c = .ok (some token, c') ∧
      c.textBetween c.pos c'.pos = .ok ['\n', '\n', '\n', ' ', '\n', '\n', ' '] ∧
      c'.line = 6 ∧ c'.lineStart = 8 := by
  have divides : Cursor.Divides { Cursor.ofString "é\n\n\n \n\n !" with pos := 2, line := 4 }
      [] ['é'] ['\n', '\n', '\n', ' ', '\n', '\n', ' ', '!'] := ⟨by decide, by decide, by decide⟩
  have members : ∀ char ∈ "\n\n".toList, Text.oneOf " \n" char = true :=
    List.all_eq_true.mp (by decide)
  have width : (Pattern.layout (Text.oneOf " \n") "\n\n").width? []
      ['\n', '\n', '\n', ' ', '\n', '\n', ' ', '!'] = some 7 :=
    congrArg Pattern.positive? (Pattern.strideWidth_eq_of_staysInRun (.inr (.inr members)) _)
  have recognized := recognize_eq (r := pattern (.layout (Text.oneOf " \n") "\n\n")) trivial divides ⟨1⟩
  rw [match?, List.reverse_nil, width] at recognized
  have sections : Text.Sections ['\n', '\n'] [[], ['\n', ' ']] [' ']
      ['\n', '\n', '\n', ' ', '\n', '\n', ' '] := by
    have behind : Text.Sections ['\n', '\n'] [] [' '] [' '] := .rest (by decide)
    exact .found_nil (.found_cons (.found_cons behind.found_nil (by decide)) (by decide))
  obtain ⟨segment, ended, last, read, -, unique, -, line, lineStart⟩ :=
    layout_notes_sections (by decide) members divides.valid recognized
  obtain rfl : segment = ['\n', '\n', '\n', ' ', '\n', '\n', ' '] := (Except.ok.inj read).symm
  obtain ⟨rfl, rfl⟩ := unique _ _ sections
  exact ⟨_, _, _, divides.valid, by decide, rfl, recognized, read, line, lineStart⟩

end Recognizer

end Lexing
