import Lexing.Proofs.Cursor.Invariant
import Lexing.Proofs.Text.Bytes

/-! # The text of a line

The text of a line goes from the start of the line to a stop, which lies at the position or behind
it. `LineEnd.Cuts` says of the untested text alone how far the line goes on, and
`Divides.exists_cuts` that it stops there. A cursor that has gone back may stand before the start of
its line, and the line may then stop before it starts; it reads as empty in that case.
`Text.Between` names the piece of a text between two offsets without a word on how it is read.
-/

namespace Lexing

namespace Text

variable {needle text passed left : List Char}

/-! ## Up to a needle -/

/-- A text goes on over `passed` up to the first occurrence of a needle, or to the end if the needle
does not occur. -/
inductive UpTo (needle : List Char) : List Char → List Char → Prop
  | occurrence {passed left : List Char} (occurs : needle <+: left)
      (first : ∀ earlier later, passed ++ left = earlier ++ later → needle <+: later →
        passed.length ≤ earlier.length) : UpTo needle passed left
  | ending {passed : List Char} (absent : ¬ needle <:+: passed) : UpTo needle passed []

/-- A character is passed where the needle does not occur. -/
theorem UpTo.cons {char : Char} (missed : ¬ needle <+: char :: (passed ++ left))
    (upTo : UpTo needle passed left) : UpTo needle (char :: passed) left := by
  cases upTo with
  | occurrence occurs first =>
    refine .occurrence occurs fun earlier later whole starts => ?_
    cases earlier with
    | nil =>
      obtain rfl : char :: (passed ++ left) = later := whole
      exact absurd starts missed
    | cons other earlier =>
      exact Nat.succ_le_succ (first earlier later (List.cons.inj whole).2 starts)
  | ending absent =>
    rw [List.append_nil] at missed
    exact .ending fun occurs => (List.infix_cons_iff.mp occurs).elim missed absent

/-- An empty needle occurs at once. -/
theorem UpTo.passed_eq_nil (upTo : UpTo [] passed left) : passed = [] := by
  cases upTo with
  | occurrence _ first =>
    exact List.eq_nil_of_length_eq_zero
      (Nat.le_zero.mp (first [] _ (List.nil_append _).symm List.nil_prefix))
  | ending absent => exact absurd List.nil_infix absent

/-- The search finds how far the text goes on. -/
theorem exists_upTo (needle text : List Char) :
    ∃ passed left, text = passed ++ left ∧ UpTo needle passed left ∧
      (offsetOf? needle text).getD (byteSize text) = byteSize passed := by
  induction text with
  | nil =>
    refine ⟨[], [], rfl, ?_, ?_⟩
    · cases needle with
      | nil => exact .occurrence List.nil_prefix fun _ _ _ _ => Nat.zero_le _
      | cons head needle => exact .ending (by simp)
    · cases needle <;> rfl
  | cons char text ih =>
    rw [offsetOf?]
    split
    · next starts =>
      exact ⟨[], char :: text, rfl,
        .occurrence (List.isPrefixOf_iff_prefix.mp starts) fun _ _ _ _ => Nat.zero_le _, rfl⟩
    · next missed =>
      obtain ⟨passed, left, rfl, upTo, size⟩ := ih
      refine ⟨char :: passed, left, rfl,
        upTo.cons (mt List.isPrefixOf_iff_prefix.mpr missed), ?_⟩
      rw [byteSize_cons, byteSize_cons, ← size]
      cases offsetOf? needle (passed ++ left) <;> rfl

/-- The next line feed is the first occurrence of a needle. -/
theorem offsetOf?_lineFeed (text : List Char) :
    (offsetOf? ['\n'] text).getD (byteSize text) = byteSize (text.takeWhile (· != '\n')) := by
  induction text with
  | nil => rfl
  | cons char text ih =>
    by_cases feed : char = '\n'
    · simp [offsetOf?, feed]
    · have missed : ['\n'].isPrefixOf (char :: text) = false := by
        simp [List.isPrefixOf, Ne.symm feed]
      rw [offsetOf?, missed, if_neg Bool.false_ne_true,
        List.takeWhile_cons_of_pos (by simpa using feed), byteSize_cons, byteSize_cons, ← ih]
      cases offsetOf? ['\n'] text <;> rfl

/-! ## Pieces of a text -/

/-- A piece of a text lies between two byte offsets. -/
def Between (text : List Char) (first last : Nat) (piece : List Char) : Prop :=
  ∃ before after, text = before ++ piece ++ after ∧ byteSize before = first ∧
    byteSize (before ++ piece) = last

/-- Two pieces of which one ends where the other begins are one piece. -/
theorem Between.append {first middle last : Nat} {piece next : List Char}
    (between : Between text first middle piece) (between' : Between text middle last next) :
    Between text first last (piece ++ next) := by
  obtain ⟨before, after, whole, rfl, rfl⟩ := between
  obtain ⟨before', after', whole', meets, rfl⟩ := between'
  have same : before ++ piece ++ after = before' ++ (next ++ after') := by
    rw [← whole, whole', List.append_assoc]
  obtain ⟨gap, rfl, -⟩ := exists_append_of_byteSize_le same (Nat.le_of_eq meets.symm)
  obtain rfl : gap = [] := by
    rw [byteSize_append _ gap] at meets
    exact byteSize_eq_zero_iff.mp (by omega)
  rw [List.append_nil, List.append_assoc before] at whole'
  exact ⟨before, after', whole', rfl, by rw [List.append_nil, List.append_assoc]⟩

theorem takeBytes?_eq_some {size : Nat} {piece : List Char}
    (taken : takeBytes? text size = some piece) :
    ∃ after, text = piece ++ after ∧ byteSize piece = size := by
  fun_induction takeBytes? text size generalizing piece with
  | case1 text =>
    cases taken
    exact ⟨text, rfl, rfl⟩
  | case2 => contradiction
  | case3 char rest size fits ih =>
    obtain ⟨later, found, rfl⟩ := Option.map_eq_some_iff.mp taken
    obtain ⟨after, rfl, length⟩ := ih found
    exact ⟨after, rfl, by rw [byteSize_cons]; omega⟩
  | case4 => contradiction

end Text

/-- What is read between two offsets is the piece of the text that lies there. -/
theorem Source.slice?_eq_some_iff {source : Source} {first last : Nat} {piece : List Char} :
    source.slice? first last = some piece ↔ Text.Between source.chars first last piece := by
  constructor
  · intro cut
    rw [slice?] at cut
    split at cut
    · next le =>
      obtain ⟨⟨before, after⟩, found, taken⟩ := Option.bind_eq_some_iff.mp cut
      obtain ⟨whole, rfl⟩ := splitAt?_eq_some_iff.mp found
      obtain ⟨rest, rfl, length⟩ := Text.takeBytes?_eq_some taken
      refine ⟨before.reverse, rest, by rw [whole, List.append_assoc], rfl, ?_⟩
      rw [Text.byteSize_append]
      omega
    · contradiction
  · rintro ⟨before, after, whole, rfl, rfl⟩
    exact slice?_byteSize whole

/-- How a line end cuts the untested text: the line goes on over `passed` and stops before
`left`. -/
def LineEnd.Cuts (passed left : List Char) : LineEnd → Prop
  | .terminator => Text.UpTo ['\n'] passed left
  | .chars count => passed.length = min count (passed ++ left).length
  | .needle text => Text.UpTo text.toList passed left

namespace Cursor

variable {c : Cursor} {before pending rest : List Char}

/-! ## Where a line stops -/

namespace Divides

theorem lineStop_needle (divides : c.Divides before pending rest) (needle : String) :
    c.lineStop (.needle needle) =
      .ok (c.pos + (Text.offsetOf? needle.toList rest).getD (Text.byteSize rest)) := by
  rw [lineStop, divides.rest_eq, ok_bind, divides.pos]
  cases Text.offsetOf? needle.toList rest with
  | none => exact congrArg Except.ok divides.size_eq
  | some distance => rfl

/-- A line ends at its terminator as at any other needle. -/
theorem lineStop_terminator (divides : c.Divides before pending rest) :
    c.lineStop .terminator = c.lineStop (.needle "\n") := by
  rw [divides.lineStop_needle, lineStop, divides.rest_eq,
    show "\n".toList = ['\n'] from rfl, Text.offsetOf?_lineFeed]
  rfl

/-- The stop of a line lies behind the untested text that the line goes on over. -/
theorem exists_cuts (divides : c.Divides before pending rest) (lineEnd : LineEnd) :
    ∃ passed left, rest = passed ++ left ∧ lineEnd.Cuts passed left ∧
      c.lineStop lineEnd = .ok (c.pos + Text.byteSize passed) := by
  have found (needle : String) : ∃ passed left, rest = passed ++ left ∧
      Text.UpTo needle.toList passed left ∧
      c.lineStop (.needle needle) = .ok (c.pos + Text.byteSize passed) := by
    obtain ⟨passed, left, whole, upTo, size⟩ := Text.exists_upTo needle.toList rest
    exact ⟨passed, left, whole, upTo, by rw [divides.lineStop_needle, size]⟩
  cases lineEnd with
  | terminator =>
    rw [divides.lineStop_terminator]
    exact found "\n"
  | chars count =>
    refine ⟨rest.take count, rest.drop count, (List.take_append_drop ..).symm, ?_,
      divides.offsetAfter_pos count⟩
    rw [LineEnd.Cuts, List.take_append_drop, List.length_take]
  | needle needle => exact found needle

theorem between_passed {passed left : List Char}
    (divides : c.Divides before pending (passed ++ left)) :
    Text.Between c.source.chars c.pos (c.pos + Text.byteSize passed) passed := by
  refine ⟨before ++ pending, left, ?_, divides.pos.symm, (divides.pos_add passed).symm⟩
  rw [divides.chars, List.append_assoc _ passed]

end Divides

/-! ## What a line reads -/

/-- The text of a line is the piece from its start to its stop. -/
theorem exists_between_of_lineText {lineEnd : LineEnd} {line : String}
    (read : c.lineText lineEnd = .ok line) :
    ∃ stop piece, c.lineStop lineEnd = .ok stop ∧ line = String.ofList piece ∧
      Text.Between c.source.chars (min c.lineStart stop) stop piece := by
  obtain ⟨stop, stops, later⟩ := bind_eq_ok.mp read
  obtain ⟨piece, cut, same⟩ := bind_eq_ok.mp later
  refine ⟨stop, piece, stops, (Except.ok.inj same).symm, Source.slice?_eq_some_iff.mp ?_⟩
  rw [textBetween] at cut
  split at cut
  · next found => cases cut; exact found
  · contradiction

/-- The column counts the characters between the start of the line and the position. -/
theorem linePosition_of_between {opened : List Char}
    (between : Text.Between c.source.chars c.lineStart c.pos opened) :
    c.linePosition = opened.length := by
  rw [linePosition, Source.slice?_eq_some_iff.mpr between]

theorem linePosition_of_lt (behind : c.pos < c.lineStart) : c.linePosition = 0 := by
  rw [linePosition, Source.slice?, if_neg (Nat.not_le.mpr behind)]

/-- At every cursor that some history leads to, the text of the line can be read up to any line end.
It stops at a cut of the text, where the line has gone on over `passed`; a needle is found there as
well if it is looked for among the bytes. The text is the piece from the start of the line to the
stop. If the line starts no later than the position, this is what the column counts, followed by
`passed`; else the column is zero. -/
theorem lineText_reaches_stop {text : String} (reached : c.Reached text) (lineEnd : LineEnd) :
    ∃ passed left stop line, c.rest = .ok (passed ++ left) ∧ lineEnd.Cuts passed left ∧
      stop = c.pos + Text.byteSize passed ∧
      c.pos ≤ stop ∧ stop ≤ c.size ∧ c.source.isBoundary stop = true ∧
      (∀ needle, lineEnd = .needle needle →
        c.pos + (Text.findBytes? (Text.bytes needle.toList) (Text.bytes (passed ++ left))).getD
          (Text.byteSize (passed ++ left)) = stop) ∧
      (lineEnd = .needle "" → stop = c.pos) ∧
      c.lineText lineEnd = .ok (String.ofList line) ∧
      Text.Between text.toList (min c.lineStart stop) stop line ∧
      c.lineText .terminator = c.lineText (.needle "\n") ∧
      (c.lineStart ≤ c.pos → ∃ opened, Text.Between text.toList c.lineStart c.pos opened ∧
        opened.length = c.linePosition ∧ line = opened ++ passed) ∧
      (c.pos < c.lineStart → c.linePosition = 0) := by
  have sound := reached.sound
  have chars : c.source.chars = text.toList := by rw [sound.source_eq, Source.chars_ofList]
  obtain ⟨before, pending, rest, divides⟩ := valid_iff_divides.mp sound.toValid
  obtain ⟨passed, left, rfl, cuts, stops⟩ := divides.exists_cuts lineEnd
  obtain ⟨shown, read⟩ := divides.exists_lineText sound.lineStart_boundary lineEnd
  obtain ⟨stop, line, stops', rfl, between⟩ := exists_between_of_lineText read
  obtain rfl : c.pos + Text.byteSize passed = stop := Except.ok.inj (stops.symm.trans stops')
  have atStop := divides.moved.valid
  refine ⟨passed, left, _, line, divides.rest_eq, cuts, rfl, Nat.le_add_right ..,
    atStop.pos_le_size, atStop.pos_boundary, ?_, ?_, read, chars ▸ between, ?_, ?_,
    linePosition_of_lt⟩
  · rintro needle rfl
    rw [← Text.offsetOf?_eq_findBytes?]
    exact Except.ok.inj ((divides.lineStop_needle needle).symm.trans stops)
  · rintro rfl
    rw [Text.UpTo.passed_eq_nil cuts, Text.byteSize_nil, Nat.add_zero]
  · rw [lineText, lineText, divides.lineStop_terminator]
  · intro started
    obtain ⟨opened, cut⟩ := Source.exists_slice? started sound.lineStart_boundary sound.pos_boundary
    have openPart := Source.slice?_eq_some_iff.mp cut
    rw [Nat.min_eq_left (Nat.le_trans started (Nat.le_add_right ..))] at between
    have same := (Source.slice?_eq_some_iff.mpr between).symm.trans
      (Source.slice?_eq_some_iff.mpr (openPart.append divides.between_passed))
    exact ⟨opened, chars ▸ openPart, (linePosition_of_between openPart).symm, Option.some.inj same⟩

/-- A cursor that has gone back before the start of its line reads nothing up to the terminator,
which comes before the line, and reads the line from its start up to a needle behind it. -/
theorem lineText_reaches_stop_after_going_back :
    ∃ (c : Cursor) (passed left line : List Char), c.Reached "é\n€b" ∧ c.pos < c.lineStart ∧
      c.linePosition = 0 ∧ c.lineText .terminator = .ok "" ∧
      c.rest = .ok (passed ++ left) ∧ Text.UpTo ['b'] passed left ∧
      c.pos + Text.byteSize passed = 6 ∧ c.lineText (.needle "b") = .ok (String.ofList line) ∧
      Text.Between "é\n€b".toList 3 6 line := by
  have reached : Reached "é\n€b" { ofString "é\n€b" with pos := 2, line := 1, lineStart := 3 } :=
    ⟨[.act (.advance 1), .mark, .act (.advance 1), .act .markNewLine, .resetTo 0], _, by decide,
      rfl, rfl⟩
  obtain ⟨passed, left, stop, line, rest, cuts, offset, -, -, -, found, -, read, between, -, -,
    column⟩ := lineText_reaches_stop reached (.needle "b")
  have ahead : ['\n', '€', 'b'] = passed ++ left := Except.ok.inj rest
  have six : stop = 6 := by
    rw [← found "b" rfl, ← ahead]
    decide
  subst six
  exact ⟨_, passed, left, line, reached, by decide, column (by decide), rfl, rest, cuts,
    offset.symm, read, between⟩

end Cursor

end Lexing
