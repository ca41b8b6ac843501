import Lexing.Proofs.Lexer.Accepted
import Lexing.Proofs.Pattern.LineFeeds
import Lexing.Proofs.Recognizer.LookBehind
import Lexing.Proofs.Stream.Pulls

/-! # The line of a stream

A stream knows its line if its rules lose no line feed: every pattern either notes line feeds or
passes none, and some rule takes them, so that none is left to be passed as an unknown character.
Then the number, the start, the column and the text of the line are those of the text before the
position, after any number of pulls and whatever the order of the rules.
-/

namespace Lexing

namespace Cursor

variable {c : Cursor} {before rest : List Char}

/-- The column is the number of characters since the last line feed. -/
theorem OnLine.linePosition_eq (onLine : c.OnLine before) (divides : c.Divides before [] rest) :
    c.linePosition = (Text.openLine before).length := by
  have chars : c.source.chars = Text.endedLines before ++ Text.openLine before ++ rest := by
    rw [Text.endedLines_append_openLine, divides.chars, List.append_nil]
  have slice := Source.slice?_byteSize chars
  rw [Text.endedLines_append_openLine] at slice
  rw [linePosition, onLine.lineStart, divides.pos, List.append_nil, slice]

/-- The text of the line is what is open at the position, up to the next line feed. -/
theorem OnLine.lineText_eq (onLine : c.OnLine before) (divides : c.Divides before [] rest) :
    c.lineText .terminator =
      .ok (String.ofList (Text.openLine before ++ rest.takeWhile (· != '\n'))) := by
  have stop : c.lineStop .terminator =
      .ok (Text.byteSize (before ++ rest.takeWhile (· != '\n'))) := by
    rw [lineStop, divides.rest_eq, divides.pos, List.append_nil, Text.byteSize_append]
    rfl
  have parts : before ++ rest.takeWhile (· != '\n') =
      Text.endedLines before ++ (Text.openLine before ++ rest.takeWhile (· != '\n')) := by
    rw [← List.append_assoc, Text.endedLines_append_openLine]
  have first : min c.lineStart (Text.byteSize (before ++ rest.takeWhile (· != '\n'))) =
      Text.byteSize (Text.endedLines before) := by
    rw [onLine.lineStart, parts, Text.byteSize_append]
    omega
  have read := divides.textBetween_eq (Text.endedLines before)
    (Text.openLine before ++ rest.takeWhile (· != '\n')) (rest.dropWhile (· != '\n')) (by
      rw [← parts, List.append_nil, List.append_assoc, List.takeWhile_append_dropWhile])
  rw [← parts] at read
  rw [lineText, stop, ok_bind, first, read]
  rfl

end Cursor

/-- Where a pattern of a recognizer covers some text, the recognizer matches. -/
theorem Recognizer.match?_ne_none {r : Recognizer} {leaf : Pattern} {behind ahead : List Char}
    {n : Nat} (member : leaf ∈ r.leaves) (width : leaf.width? behind ahead = some n) :
    r.match? behind ahead ≠ none := by
  induction r with
  | pattern shape =>
    obtain rfl := List.mem_singleton.mp member
    rw [match?, width]
    exact Option.some_ne_none _
  | custom attempt => contradiction
  | orElse first second ihFirst ihSecond =>
    rw [match?, ne_eq, Option.or_eq_none_iff, not_and_or]
    exact (List.mem_append.mp member).imp ihFirst ihSecond

namespace Rule

/-- A rule whose patterns pass no line feed without noting a line. -/
def NotesLineFeeds (rule : Rule) : Prop :=
  ∀ recognizer, rule.recognizer? = some recognizer →
    ∀ leaf ∈ recognizer.leaves, leaf.NotesLineFeeds

/-- A rule with layout that takes line feeds and notes them. -/
def TakesLineFeeds (rule : Rule) : Prop :=
  ∃ recognizer member, rule.recognizer? = some recognizer ∧
    .layout member "\n" ∈ recognizer.leaves ∧ member '\n' = true

/-- A rule that takes line feeds matches at every one. -/
theorem TakesLineFeeds.not_failsAt {rule : Rule} {c : Cursor} {before pending rest : List Char}
    (takes : rule.TakesLineFeeds) (builtIn : rule.BuiltIn)
    (divides : c.Divides before pending ('\n' :: rest)) : ¬ rule.FailsAt c := by
  obtain ⟨recognizer, member, tried, leaf, inside⟩ := takes
  intro fails
  have missed := (Recognizer.recognize_eq_none_iff (builtIn recognizer tried) divides).mp
    (fails recognizer tried)
  have width : (Pattern.layout member "\n").width? before.reverse ('\n' :: rest) =
      some (rest.takeWhile member).length.succ := by
    rw [Pattern.width?_layout_lineFeed, List.takeWhile_cons_of_pos inside]
    rfl
  exact Recognizer.match?_ne_none leaf width missed

theorem TakesLineFeeds.recognizes {rule : Rule} (takes : rule.TakesLineFeeds) :
    rule.isVirtual = false := by
  obtain ⟨recognizer, member, tried, -⟩ := takes
  rw [isVirtual, tried]
  rfl

end Rule

namespace Lexer

/-- The rules of a lexer lose no line feed. -/
structure NotesLineFeeds (lexer : Lexer) : Prop where
  notes : ∀ rule ∈ lexer.tried, rule.NotesLineFeeds
  takes : ∃ rule ∈ lexer.tried, rule.TakesLineFeeds

variable {lexer : Lexer} {c after : Cursor} {piece : Piece} {before rest : List Char}

theorem Step.onLine (step : lexer.Step c piece after) (builtIn : lexer.BuiltIn)
    (notesLineFeeds : lexer.NotesLineFeeds) (divides : c.Divides before [] rest)
    (onLine : c.OnLine before) : after.OnLine (before ++ piece.segment) := by
  have pos : c.pos = Text.byteSize before := by rw [divides.pos, List.append_nil]
  cases step with
  | @matched _ earlier later rule recognizer leaf segment token rules failed tried origin passed =>
    have member : rule ∈ lexer.tried := rules ▸ List.mem_append_right earlier (List.mem_cons_self ..)
    have notes := notesLineFeeds.notes rule member recognizer tried leaf origin.mem_leaves
    obtain ⟨n, width, -, rfl⟩ := origin.extent divides
    cases (divides.textBetween_pos n).symm.trans passed
    exact Pattern.onLine_after notes width pos onLine
  | @unknown _ char failed current passed =>
    rw [divides.current_eq] at current
    obtain ⟨left, rfl⟩ := List.head?_eq_some_iff.mp (Except.ok.inj current)
    rw [divides.commit_eq] at passed
    cases passed
    -- A line feed is never unknown: the rule that takes line feeds would have matched.
    have plain : '\n' ∉ [char] := by
      intro feed
      obtain rfl := List.mem_singleton.mp feed
      obtain ⟨rule, member, takes⟩ := notesLineFeeds.takes
      exact takes.not_failsAt (builtIn rule member) divides (failed rule member)
    exact onLine.append plain rfl rfl

/-- What a cursor over a text keeps from piece to piece: no token is in progress, and its line is
the one that the text before its position leaves open. -/
def AtLine (text : String) (c : Cursor) : Prop :=
  c.canceled = false ∧ ∃ before rest, text.toList = before ++ rest ∧ c.Divides before [] rest ∧
    c.OnLine before

theorem atLine_ofString (text : String) : AtLine text (Cursor.ofString text) :=
  ⟨rfl, [], text.toList, rfl, Cursor.divides_ofString text, rfl, rfl⟩

theorem AtLine.ready {text : String} (atLine : AtLine text c) : c.Valid ∧ c.canceled = false := by
  obtain ⟨running, before, rest, -, divides, -⟩ := atLine
  exact ⟨divides.valid, running⟩

theorem Step.atLine {text : String} (step : lexer.Step c piece after) (builtIn : lexer.BuiltIn)
    (notesLineFeeds : lexer.NotesLineFeeds) (atLine : AtLine text c) : AtLine text after := by
  obtain ⟨running, before, rest, whole, divides, onLine⟩ := atLine
  obtain ⟨left, rfl, -, divided, alike⟩ := step.divides divides
  rw [List.append_nil] at divided
  rw [← List.append_assoc] at whole
  exact ⟨alike.canceled.trans running, _, left, whole, divided,
    step.onLine builtIn notesLineFeeds divides onLine⟩

end Lexer

namespace Stream

variable {rules : List Rule} {lexer : Lexer}

/-- With rules that lose no line feed, a stream knows its line after any number of pulls. Its number
is that of the line feeds before the position, it starts behind the last of them, the column counts
the characters from there, and its text is the line of that number in the whole text. -/
theorem pulls_know_line (accepted : (Lexer.ofRules rules).outcome = .ok lexer)
    (builtIn : ∀ rule ∈ rules, rule.BuiltIn) (notes : ∀ rule ∈ rules, rule.NotesLineFeeds)
    (takes : ∃ rule ∈ rules, rule.TakesLineFeeds) (text : String) (n : Nat) :
    ∃ answers s before rest line, (lexer.stream text).pulls n = .ok (answers, s) ∧
      text.toList = before ++ rest ∧ s.cursor.pos = Text.byteSize before ∧
      s.cursor.line = before.count '\n' ∧
      s.cursor.lineStart = Text.byteSize (Text.endedLines before) ∧
      s.cursor.linePosition = (Text.openLine before).length ∧
      s.cursor.lineText .terminator = .ok (String.ofList line) ∧
      (text.toList.splitOn '\n')[s.cursor.line]? = some line := by
  have tried := Lexer.builtIn_of_accepted accepted builtIn
  have notesLineFeeds : lexer.NotesLineFeeds := by
    obtain ⟨rule, member, feeds⟩ := takes
    exact ⟨fun other found => notes other (Lexer.mem_of_tried accepted found),
      rule, Lexer.mem_tried accepted member feeds.recognizes, feeds⟩
  obtain ⟨answers, c, finished, pulls, ⟨-, before, rest, whole, divides, onLine⟩, -⟩ :=
    pulls_keep (Lexer.AtLine text) tried Lexer.AtLine.ready
      (fun atLine step => step.atLine tried notesLineFeeds atLine) (Lexer.atLine_ofString text) n
  refine ⟨answers, _, before, rest, _, pulls, whole, ?_, onLine.line, onLine.lineStart,
    onLine.linePosition_eq divides, onLine.lineText_eq divides, ?_⟩
  · rw [divides.pos, List.append_nil]
  · rw [onLine.line, whole]
    exact Text.getElem?_splitOn before rest

theorem pulls_know_line_unknown :
    ∃ (rules : List Rule) (lexer : Lexer) (s : Stream) (before rest : List Char),
      (Lexer.ofRules rules).outcome = .ok lexer ∧
      (lexer.stream "é\n  'b'\n?c").pulls 3 =
        .ok ([some ⟨⟨1⟩, "é"⟩, some ⟨⟨2⟩, "b"⟩, some (.unrecognized '?')], s) ∧
      "é\n  'b'\n?c".toList = before ++ rest ∧ Text.byteSize before = 10 ∧
      before.count '\n' = 2 ∧ s.cursor.line = 2 ∧
      Text.byteSize (Text.endedLines before) = 9 ∧ s.cursor.lineStart = 9 ∧
      (Text.openLine before).length = 1 ∧ s.cursor.linePosition = 1 ∧
      s.cursor.lineText .terminator = .ok "?c" := by
  let lexer : Lexer := ⟨[.keep ⟨1⟩ "name" (.pattern .identifier),
    .keep ⟨2⟩ "string" (.pattern .quotedString),
    (Rule.keep ⟨3⟩ "space" (.pattern (.layout Text.isSpace "\n"))).ignored], 3⟩
  have accepted : (Lexer.ofRules lexer.rules).outcome = .ok lexer := rfl
  have builtIn : ∀ rule ∈ lexer.rules, rule.BuiltIn := by
    simp [lexer, Rule.BuiltIn, Rule.keep, Rule.ignored, Rule.recognizer?, Recognizer.BuiltIn]
  have notes : ∀ rule ∈ lexer.rules, rule.NotesLineFeeds := by
    have name : Pattern.identifier.NotesLineFeeds := ⟨by decide, by decide⟩
    have string : Pattern.quotedString.NotesLineFeeds := ⟨by decide, by decide⟩
    have space : (Pattern.layout Text.isSpace "\n").NotesLineFeeds := rfl
    simp [lexer, Rule.NotesLineFeeds, Rule.keep, Rule.ignored, Rule.recognizer?, Recognizer.leaves,
      name, string, space]
  have takes : ∃ rule ∈ lexer.rules, rule.TakesLineFeeds :=
    ⟨_, .tail _ (.tail _ (.head _)), _, Text.isSpace, rfl, List.mem_singleton_self _, by decide⟩
  obtain ⟨answers, s, before, rest, line, pulls, whole, pos, count, start, column, text, split⟩ :=
    pulls_know_line accepted builtIn notes takes "é\n  'b'\n?c" 3
  have known : (lexer.stream "é\n  'b'\n?c").pulls 3 =
      .ok ([some ⟨⟨1⟩, "é"⟩, some ⟨⟨2⟩, "b"⟩, some (.unrecognized '?')],
        ⟨lexer, { Cursor.ofString "é\n  'b'\n?c" with
          pos := 10, start := 10, line := 2, lineStart := 9 }, false⟩) := by cbv
  cases pulls.symm.trans known
  have line_eq : line = "?c".toList := Option.some.inj (split.symm.trans (by decide))
  have column_eq : (Text.openLine before).length = 1 := column.symm.trans (by decide)
  subst line_eq
  exact ⟨_, lexer, _, before, rest, accepted, known, whole, pos.symm, count.symm, rfl, start.symm, rfl,
    column_eq, rfl, text⟩

end Stream

end Lexing
