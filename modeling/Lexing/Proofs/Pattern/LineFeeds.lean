import Lexing.Proofs.Pattern.Extent
import Lexing.Proofs.Text.Lines

/-! # Patterns that lose no line

Only layout tells a cursor about lines. A cursor keeps its line exactly if no other pattern passes
a line feed, which is a condition on the classes and literals of the patterns (`NotesLineFeeds`).
`OnLine` ties the line of a cursor to the text before its position. Layout keeps it stride by
stride, and all other patterns because the text they pass has no line feed in it.
-/

namespace Lexing

/-! ## Literals without a line feed -/

theorem Matcher.lineFeed_of_foldedMatch {source literal : List Char} {width : Nat}
    (matched : foldedMatch source literal = some width) (passed : '\n' ∈ source.take width) :
    '\n' ∈ literal := by
  fun_induction foldedMatch source literal generalizing width with
  | case1 =>
    cases matched
    contradiction
  | case2 => contradiction
  | case3 found source expected literal same ih =>
    obtain ⟨shorter, tail, rfl⟩ := Option.map_eq_some_iff.mp matched
    rw [List.take_succ_cons, List.mem_cons] at passed
    rcases passed with rfl | later
    · have folded := Text.sameFolded_iff.mp same
      exact Text.eq_lineFeed_of_lower folded.symm ▸ List.mem_cons_self ..
    · exact List.mem_cons_of_mem _ (ih tail later)
  | case4 => contradiction

/-- Text that matches a literal has no line feed unless the literal has one, in either case mode. -/
theorem Lookup.lineFeed_of_compare {mode : CaseMode} {source literal : List Char} {width : Nat}
    (matched : (resolve ⟨.ahead, mode⟩).compare source literal = some width)
    (passed : '\n' ∈ source.take width) : '\n' ∈ literal := by
  cases mode with
  | sensitive =>
    obtain ⟨rfl, -⟩ := compare_eq_some matched
    simp only [resolve, Matcher.startsWith] at matched
    split at matched
    · next starts =>
      rwa [← List.prefix_iff_eq_take.mp (List.isPrefixOf_iff_prefix.mp starts)] at passed
    · contradiction
  | insensitive => exact Matcher.lineFeed_of_foldedMatch matched passed

theorem Literals.not_mem_take_of_find? {set : Literals} {mode : CaseMode} {source : List Char}
    {index width : Nat} (free : ∀ literal ∈ set.entries, '\n' ∉ literal.toList)
    (found : set.find? (Lookup.resolve ⟨.ahead, mode⟩) source = some (index, width)) :
    '\n' ∉ source.take width := by
  obtain ⟨literal, member, matched⟩ := findFrom_eq_some found
  exact fun passed => free literal member (Lookup.lineFeed_of_compare matched passed)

namespace Pattern

/-! ## Spans without a line feed -/

theorem lineFeed_not_mem_takeWhile {member : Char → Bool} (free : member '\n' = false)
    (text : List Char) : '\n' ∉ text.takeWhile member := by
  intro passed
  have inside := List.mem_takeWhile_imp passed
  rw [free] at inside
  contradiction

theorem lineFeed_not_mem_nameSpan {first body : Char → Bool} (freeFirst : first '\n' = false)
    (freeBody : body '\n' = false) (text : List Char) : '\n' ∉ nameSpan first body text := by
  cases text with
  | nil => exact List.not_mem_nil
  | cons c rest =>
    rw [nameSpan]
    split
    · next starts =>
      rw [List.mem_cons, not_or]
      refine ⟨?_, lineFeed_not_mem_takeWhile freeBody rest⟩
      rintro rfl
      rw [freeFirst] at starts
      contradiction
    · exact List.not_mem_nil

theorem lineFeed_not_mem_numberSpan {digit : Char → Bool} {separator : Char}
    (freeDigit : digit '\n' = false) (freeSeparator : separator ≠ '\n') (separated : Bool)
    (text : List Char) : '\n' ∉ numberSpan digit separator separated text := by
  induction text generalizing separated with
  | nil => exact List.not_mem_nil
  | cons c rest ih =>
    rw [numberSpan]
    split
    · next same =>
      split
      · exact List.not_mem_nil
      · rw [List.mem_cons, not_or, same]
        exact ⟨freeSeparator.symm, ih true⟩
    · split
      · next inside =>
        rw [List.mem_cons, not_or]
        refine ⟨?_, ih separated⟩
        rintro rfl
        rw [freeDigit] at inside
        contradiction
      · exact List.not_mem_nil

theorem lineFeed_not_mem_quoted {quote quotable : Char → Bool} {text interior : List Char}
    (freeQuote : quote '\n' = false) (freeInterior : quotable '\n' = false)
    (found : quotedSpan? quote quotable text = some interior) :
    '\n' ∉ text.take (interior.length + 2) := by
  obtain ⟨delimiter, after, rfl⟩ := quotedSpan?_eq_some found
  simp only [quotedSpan?] at found
  split at found
  · next closed =>
    have inside : '\n' ∉ interior := by
      rw [← Option.some.inj found]
      exact lineFeed_not_mem_takeWhile (by rw [freeInterior, Bool.and_false]) _
    have around : '\n' ≠ delimiter := by
      rintro rfl
      rw [freeQuote] at closed
      exact Bool.false_ne_true closed.1
    rw [take_quoted]
    simp only [List.mem_cons, List.mem_append, List.not_mem_nil, or_false, not_or]
    exact ⟨around, inside, around⟩
  · contradiction

/-- A pattern passes no line feed without noting a line. Layout has to note a line at every line
feed, and the others must not be able to pass one. -/
def NotesLineFeeds : Pattern → Prop
  | name first body => first '\n' = false ∧ body '\n' = false
  | run member => member '\n' = false
  | layout _ terminator => terminator = "\n"
  | quoted quote quotable => quote '\n' = false ∧ quotable '\n' = false
  | number digit separator => digit '\n' = false ∧ separator ≠ '\n'
  | literal set _ => ∀ literal ∈ set.entries, '\n' ∉ literal.toList
  | conditional set _ _ => ∀ literal ∈ set.entries, '\n' ∉ literal.toList

/-- Patterns other than layout pass no line feed. -/
theorem lineFeed_not_mem_of_width? {shape : Pattern} {behind ahead : List Char} {n : Nat}
    (notes : shape.NotesLineFeeds) (plain : shape.isLayout = false)
    (matched : shape.width? behind ahead = some n) : '\n' ∉ ahead.take n := by
  -- What a span covers is the span itself.
  have covered {span : List Char} (starts : span <+: ahead) (width : n = span.length)
      (free : '\n' ∉ span) : '\n' ∉ ahead.take n := by
    rwa [width, ← List.prefix_iff_eq_take.mp starts]
  cases shape with
  | name first body =>
    obtain ⟨-, width⟩ := positive?_eq_some matched
    exact covered (nameSpan_isPrefix ..) width (lineFeed_not_mem_nameSpan notes.1 notes.2 ahead)
  | run member =>
    obtain ⟨-, width⟩ := positive?_eq_some matched
    exact covered (List.takeWhile_prefix _) width (lineFeed_not_mem_takeWhile notes ahead)
  | layout member terminator => contradiction
  | quoted quote quotable =>
    obtain ⟨interior, found, rfl⟩ := Option.map_eq_some_iff.mp matched
    exact lineFeed_not_mem_quoted notes.1 notes.2 found
  | number digit separator =>
    simp only [width?] at matched
    split at matched
    · contradiction
    · obtain ⟨-, width⟩ := positive?_eq_some matched
      exact covered (numberSpan_isPrefix ..) width
        (lineFeed_not_mem_numberSpan notes.1 notes.2 false ahead)
  | literal set mode =>
    obtain ⟨⟨index, width⟩, found, rfl⟩ := Option.map_eq_some_iff.mp matched
    exact Literals.not_mem_take_of_find? notes found
  | conditional set condition options =>
    obtain ⟨⟨index, width⟩, found, kept⟩ := Option.bind_eq_some_iff.mp matched
    dsimp only at kept
    split at kept
    · contradiction
    · cases kept
      exact Literals.not_mem_take_of_find? notes found

/-! ## Layout -/

/-- With a line feed for terminator, layout takes every member in a stride of its own and notes a
line at the line feeds. -/
theorem strides_lineFeed (member : Char → Bool) (text : List Char) :
    strides member ['\n'] text = (text.takeWhile member).map (· == '\n') := by
  induction text with
  | nil => rw [strides]; rfl
  | cons c rest ih =>
    rw [strides]
    by_cases inside : member c
    · rw [if_pos inside, List.takeWhile_cons_of_pos inside, List.map_cons, ← ih]
      by_cases feed : c = '\n'
      · simp [feed]
      · simp [feed, Ne.symm feed]
    · rw [if_neg inside, List.takeWhile_cons_of_neg inside]
      rfl

theorem strideWidth_one (path : List Bool) : strideWidth 1 path = path.length := by
  induction path with
  | nil => rfl
  | cons ending path ih => cases ending <;> simp [strideWidth, strideLength, ih, Nat.add_comm]

theorem width?_layout_lineFeed (member : Char → Bool) (behind ahead : List Char) :
    (layout member "\n").width? behind ahead = positive? (ahead.takeWhile member).length := by
  change positive? (strideWidth 1 (strides member ['\n'] ahead)) = _
  rw [strideWidth_one, strides_lineFeed, List.length_map]

end Pattern

namespace Cursor

/-- The line of a cursor is the one that the text before its position leaves open. -/
structure OnLine (c : Cursor) (tested : List Char) : Prop where
  line : c.line = tested.count '\n'
  lineStart : c.lineStart = Text.byteSize (Text.endedLines tested)

variable {c c' : Cursor} {tested segment : List Char}

theorem OnLine.append (onLine : c.OnLine tested) (free : '\n' ∉ segment) (line : c'.line = c.line)
    (lineStart : c'.lineStart = c.lineStart) : c'.OnLine (tested ++ segment) where
  line := by rw [line, onLine.line, List.count_append, List.count_eq_zero_of_not_mem free]; rfl
  lineStart := by rw [lineStart, onLine.lineStart, Text.endedLines_append free]

/-- Past a line feed that is noted, the next line starts. -/
theorem OnLine.lineFeed (onLine : c.OnLine tested) (line : c'.line = c.line + 1)
    (lineStart : c'.lineStart = Text.byteSize (tested ++ ['\n'])) :
    c'.OnLine (tested ++ ['\n']) where
  line := by rw [line, onLine.line, List.count_append, List.count_singleton_self]
  lineStart := by rw [lineStart, Text.endedLines_lineFeed]

end Cursor

namespace Pattern

variable {c : Cursor} {tested : List Char}

theorem onLine_afterStride (char : Char) (rest : List Char) (pos : c.pos = Text.byteSize tested)
    (onLine : c.OnLine tested) :
    (afterStride 1 (char == '\n') (char :: rest) c).OnLine (tested ++ [char]) := by
  by_cases feed : char = '\n'
  · subst feed
    refine onLine.lineFeed rfl ?_
    rw [Text.byteSize_append, ← pos]
    rfl
  · have plain : (char == '\n') = false := by simpa using feed
    rw [plain]
    exact onLine.append (by simpa using Ne.symm feed) rfl rfl

/-- Strides over members one by one keep the line. -/
theorem onLine_afterStrides (segment rest : List Char) (pos : c.pos = Text.byteSize tested)
    (onLine : c.OnLine tested) :
    (afterStrides 1 (segment.map (· == '\n')) (segment ++ rest) c).OnLine (tested ++ segment) := by
  induction segment generalizing c tested with
  | nil => rwa [List.append_nil]
  | cons char segment ih =>
    have single : strideLength 1 (char == '\n') = 1 := by unfold strideLength; split <;> rfl
    have moved : (afterStride 1 (char == '\n') (char :: (segment ++ rest)) c).pos =
        Text.byteSize (tested ++ [char]) := by
      have offset : c.pos + Text.byteSize [char] = Text.byteSize (tested ++ [char]) := by
        rw [pos, Text.byteSize_append]
      rw [← offset]
      cases char == '\n' <;> rfl
    have later := ih moved (onLine_afterStride char (segment ++ rest) pos onLine)
    rw [List.append_assoc, List.singleton_append] at later
    rw [List.map_cons, List.cons_append, afterStrides, single]
    exact later

/-- A match of a pattern that loses no line feed keeps the line. -/
theorem onLine_after {shape : Pattern} {behind ahead : List Char} {n : Nat}
    (notes : shape.NotesLineFeeds) (matched : shape.width? behind ahead = some n)
    (pos : c.pos = Text.byteSize tested) (onLine : c.OnLine tested) :
    (shape.after ahead n c).OnLine (tested ++ ahead.take n) := by
  cases plain : shape.isLayout with
  | false =>
    obtain ⟨line, lineStart⟩ := lines_after plain ahead n c
    exact onLine.append (lineFeed_not_mem_of_width? notes plain matched) line lineStart
  | true =>
    cases shape with
    | layout member terminator =>
      obtain rfl : terminator = "\n" := notes
      rw [width?_layout_lineFeed] at matched
      obtain ⟨-, rfl⟩ := positive?_eq_some matched
      have kept := onLine_afterStrides (ahead.takeWhile member) (ahead.dropWhile member) pos onLine
      rw [List.takeWhile_append_dropWhile, ← strides_lineFeed] at kept
      rw [← List.prefix_iff_eq_take.mp (List.takeWhile_prefix member)]
      exact ⟨kept.line, kept.lineStart⟩
    | _ => contradiction

end Pattern

end Lexing
