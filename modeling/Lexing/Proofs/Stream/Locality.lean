import Mathlib
import Lexing.Proofs.Lexer.Accepted
import Lexing.Proofs.Recognizer.LookBehind
import Lexing.Proofs.Stream.Pulls

/-! # A stream sees only its surroundings

What a lexer does at a place depends on the untested text and on a window of the text behind, as
wide as its longest condition that looks behind. `LooksLike` says of two cursors, maybe over
different texts, that these agree. A step from one of them is then a step from the other, with the
same piece, and behind the piece the two look alike again, since the window fills up with the text
of the piece. Where in the text a cursor is, its lines, its pending tokens and its error make no
difference, so a stream without conditions that look behind may be resumed from its untested text
alone.
-/

namespace Lexing

namespace Pattern

/-- The number of lines a pattern ends in the text ahead. -/
def linesAhead : Pattern → List Char → Nat
  | layout member terminator, ahead => (strides member terminator.toList ahead).count true
  | _, _ => 0

theorem line_afterStrides (width : Nat) (path : List Bool) (ahead : List Char) (c : Cursor) :
    (afterStrides width path ahead c).line = c.line + path.count true := by
  induction path generalizing ahead c with
  | nil => rfl
  | cons ending path ih =>
    rw [afterStrides, ih]
    cases ending with
    | true =>
      change c.line + 1 + path.count true = _
      rw [List.count_cons_self]
      omega
    | false =>
      change c.line + path.count true = _
      rw [List.count_cons_of_ne Bool.false_ne_true]

theorem line_after (shape : Pattern) (ahead : List Char) (n : Nat) (c : Cursor) :
    (shape.after ahead n c).line = c.line + shape.linesAhead ahead := by
  cases shape with
  | layout member terminator => exact line_afterStrides ..
  | _ => rfl

end Pattern

/-- How many characters behind the token in progress a rule may look at. -/
def Rule.lookBehind (rule : Rule) : Nat := rule.recognizer?.elim 0 Recognizer.lookBehind

/-- How many characters behind the token in progress a lexer may look at: the length of the longest
literal of a condition that precedes its token. -/
def Lexer.lookBehind (lexer : Lexer) : Nat := (lexer.rules.map Rule.lookBehind).max?.getD 0

theorem Lexer.rule_lookBehind_le {lexer : Lexer} {rule : Rule} (member : rule ∈ lexer.tried) :
    rule.lookBehind ≤ lexer.lookBehind :=
  List.le_max?_getD_of_mem (List.mem_map_of_mem (List.mem_of_mem_take member))

theorem Rule.recognizer_lookBehind_le {rule : Rule} {recognizer : Recognizer} {m : Nat}
    (tried : rule.recognizer? = some recognizer) (near : rule.lookBehind ≤ m) :
    recognizer.lookBehind ≤ m := by
  rwa [lookBehind, tried] at near

/-- The last characters of a text and of a longer one. -/
theorem take_reverse_append {before before' : List Char} {m : Nat}
    (same : before.reverse.take m = before'.reverse.take m) (segment : List Char) :
    (before ++ segment).reverse.take m = (before' ++ segment).reverse.take m := by
  have shorter (text : List Char) : text.reverse.take (m - segment.reverse.length) =
      (text.reverse.take m).take (m - segment.reverse.length) := by
    rw [List.take_take, Nat.min_eq_left (Nat.sub_le ..)]
  rw [List.reverse_append, List.reverse_append, List.take_append, List.take_append,
    shorter before, shorter before', same]

namespace Cursor

/-- Two cursors at places that look the same: no token is in progress, the untested texts are the
same, and so are the last `m` characters before them, or all if there are fewer. -/
def LooksLike (m : Nat) (c d : Cursor) : Prop :=
  ∃ before before' rest, c.Divides before [] rest ∧ d.Divides before' [] rest ∧
    before.reverse.take m = before'.reverse.take m

/-- Two cursors look alike and have come the same way from an earlier pair. -/
structure CameAlike (m : Nat) (c₀ d₀ c d : Cursor) : Prop where
  looks : c.LooksLike m d
  running : c.canceled = false ∧ d.canceled = false
  moved : ∃ bytes lines, c.pos = c₀.pos + bytes ∧ d.pos = d₀.pos + bytes ∧
    c.line = c₀.line + lines ∧ d.line = d₀.line + lines

variable {c d : Cursor} {before before' rest : List Char} {m : Nat}

theorem looksLike_of_reads (valid : c.Valid) (valid' : d.Valid) (idle : c.pending = .ok [])
    (idle' : d.pending = .ok []) (ahead : c.rest = d.rest)
    (behind : (·.take m) <$> c.behind = (·.take m) <$> d.behind) : c.LooksLike m d := by
  obtain ⟨before, pending, rest, divides⟩ := valid_iff_divides.mp valid
  obtain ⟨before', pending', rest', divides'⟩ := valid_iff_divides.mp valid'
  rw [divides.pending_eq] at idle
  rw [divides'.pending_eq] at idle'
  rw [divides.rest_eq, divides'.rest_eq] at ahead
  rw [divides.behind_eq, divides'.behind_eq, ok_map, ok_map] at behind
  cases idle
  cases idle'
  cases ahead
  exact ⟨before, before', rest, divides, divides', Except.ok.inj behind⟩

/-- A cursor that is not canceled, with no token in progress. -/
def Idle (c : Cursor) : Prop := c.canceled = false ∧ ∃ before rest, c.Divides before [] rest

theorem Idle.ready (idle : c.Idle) : c.Valid ∧ c.canceled = false := by
  obtain ⟨running, before, rest, divides⟩ := idle
  exact ⟨divides.valid, running⟩

theorem LooksLike.symm (looks : c.LooksLike m d) : d.LooksLike m c := by
  obtain ⟨before, before', rest, divides, divides', same⟩ := looks
  exact ⟨before', before, rest, divides', divides, same.symm⟩

theorem LooksLike.valid (looks : c.LooksLike m d) : c.Valid := by
  obtain ⟨before, before', rest, divides, -⟩ := looks
  exact divides.valid

theorem LooksLike.ended (looks : c.LooksLike m d) (ended : c.pos = c.size) : d.pos = d.size := by
  obtain ⟨before, before', rest, divides, divides', -⟩ := looks
  exact divides'.pos_eq_size_iff.mpr (divides.pos_eq_size_iff.mp ended)

end Cursor

/-- A rule fails at both or at neither of two places that look the same to it. -/
theorem Rule.FailsAt.locally {rule : Rule} {c d : Cursor} {before before' rest : List Char} {m : Nat}
    (fails : rule.FailsAt c) (builtIn : rule.BuiltIn) (near : rule.lookBehind ≤ m)
    (divides : c.Divides before [] rest) (divides' : d.Divides before' [] rest)
    (same : before.reverse.take m = before'.reverse.take m) : rule.FailsAt d := by
  intro recognizer tried
  have known := builtIn recognizer tried
  have matchSame : recognizer.match? before.reverse rest = recognizer.match? before'.reverse rest :=
    Recognizer.match?_congr (recognizer_lookBehind_le tried near) same
  rw [Recognizer.recognize_eq_none_iff known divides', ← matchSame,
    ← Recognizer.recognize_eq_none_iff known divides]
  exact fails recognizer tried

namespace Lexer

variable {lexer : Lexer} {c d after : Cursor} {piece : Piece} {m : Nat}

theorem Step.idle (idle : c.Idle) (step : lexer.Step c piece after) : after.Idle := by
  obtain ⟨running, before, rest, divides⟩ := idle
  obtain ⟨left, -, -, divided, alike⟩ := step.divides divides
  exact ⟨alike.canceled.trans running, _, left, divided⟩

/-- A step is one also from where it looks the same. It moves both cursors by the text of its
piece, both note the same number of lines, and they look alike again. -/
theorem Step.locally (step : lexer.Step c piece after) (builtIn : lexer.BuiltIn)
    (near : lexer.lookBehind ≤ m) (looks : c.LooksLike m d) :
    ∃ after' lines, lexer.Step d piece after' ∧ after.LooksLike m after' ∧
      after.pos = c.pos + Text.byteSize piece.segment ∧
      after'.pos = d.pos + Text.byteSize piece.segment ∧
      after.line = c.line + lines ∧ after'.line = d.line + lines := by
  obtain ⟨before, before', rest, divides, divides', same⟩ := looks
  have nearRule {rule : Rule} (member : rule ∈ lexer.tried) : rule.lookBehind ≤ m :=
    Nat.le_trans (rule_lookBehind_le member) near
  have failing {rules : List Rule} (tried : ∀ rule ∈ rules, rule ∈ lexer.tried)
      (failed : ∀ rule ∈ rules, rule.FailsAt c) : ∀ rule ∈ rules, rule.FailsAt d :=
    fun rule member => (failed rule member).locally (builtIn rule (tried rule member))
      (nearRule (tried rule member)) divides divides' same
  cases step with
  | @matched _ earlier later rule recognizer leaf segment token rules failed tried origin passed =>
    have member : rule ∈ lexer.tried := rules ▸ List.mem_append_right earlier (List.mem_cons_self ..)
    have earlierTried : ∀ other ∈ earlier, other ∈ lexer.tried :=
      fun other found => rules ▸ List.mem_append_left _ found
    have known := builtIn rule member recognizer tried
    obtain ⟨n, found, rfl, rfl⟩ := origin.match?_eq known divides
    rw [Recognizer.match?_congr (Rule.recognizer_lookBehind_le tried (nearRule member)) same] at found
    cases (divides.textBetween_pos n).symm.trans passed
    have origin' := Recognizer.matchedBy_of_match? known divides' rule.kind found
    refine ⟨_, leaf.linesAhead rest, .matched rules (failing earlierTried failed) tried origin'
      (divides'.textBetween_pos n), ?_, rfl, rfl, leaf.line_after .., leaf.line_after ..⟩
    refine ⟨_, _, _, Pattern.divides_after divides leaf n, Pattern.divides_after divides' leaf n, ?_⟩
    rw [List.append_nil, List.append_nil]
    exact take_reverse_append same _
  | unknown failed current passed =>
    rw [divides.current_eq] at current
    obtain ⟨left, rfl⟩ := List.head?_eq_some_iff.mp (Except.ok.inj current)
    rw [divides.commit_eq] at passed
    cases passed
    refine ⟨_, 0, .unknown (failing (fun _ member => member) failed) divides'.current_eq
      (divides'.commit_eq 1), ?_, rfl, rfl, rfl, rfl⟩
    refine ⟨_, _, _, divides.divides_settled 1, divides'.divides_settled 1, ?_⟩
    rw [List.append_nil, List.append_nil]
    exact take_reverse_append same _

end Lexer

namespace Stream

variable {rules : List Rule} {lexer : Lexer} {c d : Cursor} {m : Nat}

/-- Cursors that look alike stay so, and move alike. -/
theorem together_cameAlike (builtIn : lexer.BuiltIn) (near : lexer.lookBehind ≤ m)
    (c₀ d₀ : Cursor) : Together lexer (Cursor.CameAlike m c₀ d₀) where
  left := fun came => ⟨came.looks.valid, came.running.1⟩
  right := fun came => ⟨came.looks.symm.valid, came.running.2⟩
  ended := fun came => came.looks.ended
  step := by
    intro c d piece after came step
    obtain ⟨after', lines, step', looks, pos, pos', line, line'⟩ :=
      step.locally builtIn near came.looks
    have running := (step.alike came.looks.valid).canceled.trans came.running.1
    have running' := (step'.alike came.looks.symm.valid).canceled.trans came.running.2
    obtain ⟨bytes, earlier, atPos, atPos', atLine, atLine'⟩ := came.moved
    refine ⟨after', step', looks, ⟨running, running'⟩,
      bytes + Text.byteSize piece.segment, earlier + lines, ?_, ?_, ?_, ?_⟩
    · omega
    · omega
    · omega
    · omega

theorem cameAlike_refl (looks : c.LooksLike m d) (running : c.canceled = false)
    (running' : d.canceled = false) : Cursor.CameAlike m c d c d :=
  ⟨looks, ⟨running, running'⟩, 0, 0, rfl, rfl, rfl, rfl⟩

/-- Streams from cursors that look alike yield the same tokens. -/
theorem drain_of_looksLike (builtIn : lexer.BuiltIn) (near : lexer.lookBehind ≤ m)
    (looks : c.LooksLike m d) (running : c.canceled = false) (running' : d.canceled = false) :
    ∃ tokens last last',
      (⟨lexer, c, false⟩ : Stream).drain.outcome = .ok (tokens, ⟨lexer, last, true⟩) ∧
      (⟨lexer, d, false⟩ : Stream).drain.outcome = .ok (tokens, ⟨lexer, last', true⟩) := by
  obtain ⟨pieces, last, path, ended⟩ := Lexer.exists_path builtIn looks.valid
  obtain ⟨last', path', came⟩ := (together_cameAlike builtIn near c d).path
    (cameAlike_refl looks running running') path
  exact ⟨_, last, last', path.drain builtIn looks.valid running ended,
    path'.drain builtIn looks.symm.valid running' (came.looks.ended ended)⟩

/-- A stream without conditions that look behind goes on as a new stream of the untested text. -/
theorem drain_of_pulls (builtIn : lexer.BuiltIn) (near : lexer.lookBehind = 0) (text : String)
    (n : Nat) :
    ∃ answers s rest tokens last last', (lexer.stream text).pulls n = .ok (answers, s) ∧
      s.cursor.rest = .ok rest ∧ s.drain.outcome = .ok (tokens, last) ∧
      (lexer.stream (String.ofList rest)).drain.outcome = .ok (tokens, last') := by
  have start : (Cursor.ofString text).Idle := ⟨rfl, _, _, Cursor.divides_ofString text⟩
  obtain ⟨answers, c, finished, pulls, ⟨running, before, rest, divides⟩, ended⟩ :=
    pulls_keep Cursor.Idle builtIn Cursor.Idle.ready Lexer.Step.idle start n
  have fresh : (Cursor.ofString (String.ofList rest)).Divides [] [] rest := by
    simpa only [String.toList_ofList] using Cursor.divides_ofString (String.ofList rest)
  cases finished with
  | true =>
    obtain rfl := divides.pos_eq_size_iff.mp (ended rfl)
    have stay : lexer.Path (Cursor.ofString (String.ofList [])) [] _ := .nil _
    have drained := stay.drain builtIn fresh.valid rfl (fresh.pos_eq_size_iff.mpr rfl)
    exact ⟨answers, _, [], [], _, _, pulls, divides.rest_eq, rfl, drained⟩
  | false =>
    have looks : c.LooksLike 0 (Cursor.ofString (String.ofList rest)) :=
      ⟨before, [], rest, divides, fresh, rfl⟩
    obtain ⟨tokens, last, last', drained, drained'⟩ :=
      drain_of_looksLike builtIn (Nat.le_of_eq near) looks running rfl
    exact ⟨answers, _, rest, tokens, _, _, pulls, divides.rest_eq, drained, drained'⟩

/-- Two streams of one lexer whose cursors have nothing pending, the same text ahead and the same
text behind as far as the lexer looks yield the same tokens. Pull by pull, both move by as many
bytes and note as many lines. Without conditions that look behind, what a stream has still to yield
after some pulls is what its untested text yields. -/
theorem pulls_depend_on_surroundings (accepted : (Lexer.ofRules rules).outcome = .ok lexer)
    (builtIn : ∀ rule ∈ rules, rule.BuiltIn) :
    (∀ c d : Cursor, c.Valid → d.Valid → c.canceled = false → d.canceled = false →
      c.pending = .ok [] → d.pending = .ok [] → c.rest = d.rest →
      (·.take lexer.lookBehind) <$> c.behind = (·.take lexer.lookBehind) <$> d.behind →
      (∃ tokens last last',
        (⟨lexer, c, false⟩ : Stream).drain.outcome = .ok (tokens, ⟨lexer, last, true⟩) ∧
        (⟨lexer, d, false⟩ : Stream).drain.outcome = .ok (tokens, ⟨lexer, last', true⟩)) ∧
      ∀ n, ∃ answers last last' finished bytes lines,
        (⟨lexer, c, false⟩ : Stream).pulls n = .ok (answers, ⟨lexer, last, finished⟩) ∧
        (⟨lexer, d, false⟩ : Stream).pulls n = .ok (answers, ⟨lexer, last', finished⟩) ∧
        last.pos = c.pos + bytes ∧ last'.pos = d.pos + bytes ∧
        last.line = c.line + lines ∧ last'.line = d.line + lines) ∧
    (lexer.lookBehind = 0 → ∀ text n, ∃ answers s rest tokens last last',
      (lexer.stream text).pulls n = .ok (answers, s) ∧ s.cursor.rest = .ok rest ∧
      s.drain.outcome = .ok (tokens, last) ∧
      (lexer.stream (String.ofList rest)).drain.outcome = .ok (tokens, last')) := by
  have tried := Lexer.builtIn_of_accepted accepted builtIn
  refine ⟨fun c d valid valid' running running' idle idle' ahead behind => ?_, drain_of_pulls tried⟩
  have looks := Cursor.looksLike_of_reads valid valid' idle idle' ahead behind
  refine ⟨drain_of_looksLike tried (Nat.le_refl _) looks running running', fun n => ?_⟩
  obtain ⟨answers, last, last', finished, pulls, pulls', came, -⟩ :=
    pulls_related (together_cameAlike tried (Nat.le_refl _) c d) tried
      (cameAlike_refl looks running running') n
  obtain ⟨bytes, lines, moved⟩ := came.moved
  exact ⟨answers, last, last', finished, bytes, lines, pulls, pulls', moved⟩

/-- Behind an arrow in two texts, on different lines and with other pending tokens, the same token is
found. A second lexer, which never looks behind, is pulled once and resumed. -/
theorem pulls_depend_on_surroundings_arrow :
    (∃ (rules : List Rule) (lexer : Lexer) (c d last last' : Cursor),
      (Lexer.ofRules rules).outcome = .ok lexer ∧ lexer.lookBehind = 2 ∧ c.source ≠ d.source ∧
      c.line = 0 ∧ d.line = 1 ∧ d.nesting.level = 2 ∧
      (⟨lexer, c, false⟩ : Stream).pulls 2 =
        .ok ([some ⟨⟨1⟩, "b"⟩, some ⟨⟨2⟩, "é"⟩], ⟨lexer, last, false⟩) ∧
      (⟨lexer, d, false⟩ : Stream).pulls 2 =
        .ok ([some ⟨⟨1⟩, "b"⟩, some ⟨⟨2⟩, "é"⟩], ⟨lexer, last', false⟩) ∧
      last.pos = c.pos + 4 ∧ last'.pos = d.pos + 4 ∧ last.line = 1 ∧ last'.line = 2) ∧
    ∃ (rules : List Rule) (lexer : Lexer) (s last last' : Stream),
      (Lexer.ofRules rules).outcome = .ok lexer ∧
      (lexer.stream "é ?b").pulls 1 = .ok ([some ⟨⟨1⟩, "é"⟩], s) ∧
      s.drain.outcome = .ok ([.unrecognized '?', ⟨⟨1⟩, "b"⟩], last) ∧
      (lexer.stream " ?b").drain.outcome = .ok ([.unrecognized '?', ⟨⟨1⟩, "b"⟩], last') := by
  constructor
  · let arrow : Pattern := .conditional (.ofList ["b"]) (.ofList ["->", "="])
      { conditionPrecedes := true }
    let lexer : Lexer := ⟨[.keep ⟨1⟩ "arrow" (.pattern arrow),
      .keep ⟨2⟩ "name" (.pattern .identifier),
      (Rule.keep ⟨3⟩ "space" (.pattern (.layout Text.isSpace "\n"))).ignored], 3⟩
    let c : Cursor := { Cursor.ofString "x->b\né" with pos := 3, start := 3 }
    let d : Cursor := { Cursor.ofString "y\n->b\né" with
      pos := 4, start := 4, line := 1, lineStart := 2, nesting := ⟨[], [[]]⟩, error := some "late" }
    have accepted : (Lexer.ofRules lexer.rules).outcome = .ok lexer := rfl
    have builtIn : ∀ rule ∈ lexer.rules, rule.BuiltIn := by
      simp [lexer, Rule.BuiltIn, Rule.keep, Rule.ignored, Rule.recognizer?, Recognizer.BuiltIn]
    obtain ⟨-, pulled⟩ := (pulls_depend_on_surroundings accepted builtIn).1 c d
      ⟨by decide, by decide, by decide, by decide⟩ ⟨by decide, by decide, by decide, by decide⟩
      rfl rfl rfl rfl rfl rfl
    obtain ⟨answers, last, last', finished, bytes, lines, pulls, pulls', moved, moved', noted, noted'⟩ :=
      pulled 2
    have known : (⟨lexer, c, false⟩ : Stream).pulls 2 = .ok ([some ⟨⟨1⟩, "b"⟩, some ⟨⟨2⟩, "é"⟩],
        ⟨lexer, { c with pos := 7, start := 7, line := 1, lineStart := 5 }, false⟩) := by cbv
    cases pulls.symm.trans known
    have bytes_eq : bytes = 4 := Nat.add_left_cancel moved.symm
    have lines_eq : lines = 1 := Nat.add_left_cancel noted.symm
    subst bytes_eq lines_eq
    exact ⟨_, lexer, c, d, _, last', accepted, rfl, by decide, rfl, rfl, rfl, known, pulls', moved,
      moved', noted, noted'⟩
  · let lexer : Lexer := ⟨[.keep ⟨1⟩ "name" (.pattern .identifier),
      (Rule.keep ⟨2⟩ "space" (.pattern .whitespace)).ignored], 2⟩
    have accepted : (Lexer.ofRules lexer.rules).outcome = .ok lexer := rfl
    have builtIn : ∀ rule ∈ lexer.rules, rule.BuiltIn := by
      simp [lexer, Rule.BuiltIn, Rule.keep, Rule.ignored, Rule.recognizer?, Recognizer.BuiltIn]
    obtain ⟨answers, s, rest, tokens, last, last', pulls, untested, drained, drained'⟩ :=
      (pulls_depend_on_surroundings accepted builtIn).2 rfl "é ?b" 1
    have known : (lexer.stream "é ?b").pulls 1 = .ok ([some ⟨⟨1⟩, "é"⟩],
        ⟨lexer, { Cursor.ofString "é ?b" with pos := 2, start := 2 }, false⟩) := rfl
    cases pulls.symm.trans known
    cases untested
    have yielded : tokens = [.unrecognized '?', ⟨⟨1⟩, "b"⟩] :=
      Except.ok.inj ((congrArg (Except.map Prod.fst) drained).symm.trans rfl)
    subst yielded
    exact ⟨_, lexer, _, last, last', accepted, known, drained, drained'⟩

end Stream

end Lexing
