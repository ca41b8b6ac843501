import Lexing.Proofs.Cursor.Invariant
import Lexing.Proofs.Lexer.Accepted

/-! # The text of a stream

The pieces on the path of a lexer are a partition of the untested text, and the tokens that a stream
yields are those of the pieces that are not ignored. What remains is how much of its piece a token
shows. `Pattern.Spells` says it for each pattern: a quoted value has lost its delimiters, a literal
is its own text, and the other patterns also take in the token that was in progress, which can be
the case for the first piece only.
-/

namespace Lexing

namespace Pattern

/-- How the value of a token is related to the segment its pattern covers, with the text that was
pending before the segment. -/
def Spells (shape : Pattern) (pending segment value : List Char) : Prop :=
  match shape with
  | name .. | run .. | layout .. | number .. => value = pending ++ segment
  | quoted .. => ∃ delimiter, segment = delimiter :: (value ++ [delimiter])
  | literal .. | conditional .. => value = segment

/-- Whether a pattern leaves out the delimiters of its text. -/
def isQuoted : Pattern → Bool
  | quoted .. => true
  | _ => false

theorem spells_value {shape : Pattern} {behind ahead : List Char} {n : Nat}
    (matched : shape.width? behind ahead = some n) (pending : List Char) :
    shape.Spells pending (ahead.take n) (shape.value pending (ahead.take n)) := by
  cases shape with
  | quoted quote quotable =>
    obtain ⟨interior, found, rfl⟩ := Option.map_eq_some_iff.mp matched
    obtain ⟨delimiter, after, rfl⟩ := quotedSpan?_eq_some found
    refine ⟨delimiter, ?_⟩
    rw [take_quoted, value, List.tail_cons, List.dropLast_concat]
  | _ => rfl

/-- Without pending text, only a quoted value differs from its segment. -/
theorem Spells.value_eq {shape : Pattern} {segment value : List Char}
    (spells : shape.Spells [] segment value) (bare : shape.isQuoted = false) : value = segment := by
  cases shape with
  | quoted quote quotable => contradiction
  | _ => exact spells

end Pattern

/-- All the text that a rule recognizes is in its tokens. -/
def Rule.Verbatim (rule : Rule) : Prop :=
  ∀ recognizer, rule.recognizer? = some recognizer →
    rule.isIgnored = false ∧ ∀ leaf ∈ recognizer.leaves, leaf.isQuoted = false

namespace Piece

/-- How the token of a piece is related to its text, with the text that was pending before it. -/
def Spells (pending : List Char) : Piece → Prop
  | matched _ leaf segment token => leaf.Spells pending segment token.value.toList
  | unknown char => (Token.unrecognized char).value.toList = [char]

/-- The first of some pieces has text pending before it, and the others have none. -/
def SpellAll : List Char → List Piece → Prop
  | _, [] => True
  | pending, piece :: pieces => piece.Spells pending ∧ SpellAll [] pieces

end Piece

namespace Lexer

variable {lexer : Lexer} {c after last : Cursor} {before pending rest : List Char} {piece : Piece}
  {pieces : List Piece}

theorem Step.spells (step : lexer.Step c piece after) (divides : c.Divides before pending rest) :
    piece.Spells pending := by
  cases step with
  | matched rules failed tried origin passed =>
    obtain ⟨n, width, rfl, rfl⟩ := origin.extent divides
    cases (divides.textBetween_pos n).symm.trans passed
    rw [Piece.Spells, Pattern.tokenOf, String.toList_ofList]
    exact Pattern.spells_value width pending
  | unknown failed current passed => exact String.toList_ofList

/-- Every token on a path spells its piece. After the first step no text is pending. -/
theorem Path.spellAll (path : lexer.Path c pieces last) (divides : c.Divides before pending rest) :
    Piece.SpellAll pending pieces := by
  induction path generalizing before pending rest with
  | nil c => trivial
  | cons step _ ih =>
    obtain ⟨left, -, -, divided, -⟩ := step.divides divides
    exact ⟨step.spells divides, ih divided⟩

/-- Where no text is pending, a rule that keeps its text yields a token with it. -/
theorem Step.value_eq_segment (step : lexer.Step c piece after) (divides : c.Divides before [] rest)
    (verbatim : ∀ rule ∈ lexer.tried, rule.Verbatim) :
    ∃ token, piece.token? = some token ∧ token.value.toList = piece.segment := by
  have spells := step.spells divides
  cases step with
  | @matched _ earlier later rule recognizer leaf segment token rules failed tried origin passed =>
    have member : rule ∈ lexer.tried := rules ▸ List.mem_append_right earlier (List.mem_cons_self ..)
    obtain ⟨kept, bare⟩ := verbatim rule member recognizer tried
    refine ⟨token, ?_, spells.value_eq (bare leaf origin.mem_leaves)⟩
    rw [Piece.token?, kept, if_neg Bool.false_ne_true]
  | unknown failed current passed => exact ⟨_, rfl, spells⟩

/-- The tokens of rules that keep their text make up the text of the path. -/
theorem Path.values_eq_segments (path : lexer.Path c pieces last) (divides : c.Divides before [] rest)
    (verbatim : ∀ rule ∈ lexer.tried, rule.Verbatim) :
    (pieces.filterMap Piece.token?).flatMap (·.value.toList) = pieces.flatMap Piece.segment := by
  induction path generalizing before rest with
  | nil c => rfl
  | cons step _ ih =>
    obtain ⟨left, -, -, divided, -⟩ := step.divides divides
    obtain ⟨token, yielded, same⟩ := step.value_eq_segment divides verbatim
    rw [List.filterMap_cons_some yielded, List.flatMap_cons, List.flatMap_cons, same, ih divided]

/-- A path that ends with the text covers all that was untested. -/
theorem Path.rest_eq (path : lexer.Path c pieces last) (divides : c.Divides before pending rest)
    (ended : last.pos = last.size) : rest = pieces.flatMap Piece.segment := by
  obtain ⟨before', pending', left, rfl, final⟩ := path.divides divides
  rw [final.pos_eq_size_iff.mp ended, List.append_nil]

/-- Only a character that no rule recognizes makes a token of the reserved kind. -/
theorem Path.segment_of_isUnknown {rules : List Rule} (path : lexer.Path c pieces last)
    (accepted : (ofRules rules).outcome = .ok lexer) (valid : c.Valid) (member : piece ∈ pieces)
    {token : Token} (yielded : piece.token? = some token) (unknown : token.isUnknown = true) :
    ∃ char, piece.segment = [char] ∧ token = .unrecognized char := by
  cases piece with
  | unknown char => exact ⟨char, rfl, (Option.some.inj yielded).symm⟩
  | matched rule leaf segment made =>
    obtain ⟨tried, kind, -⟩ := path.rule_of_matched valid member
    have same : made = token := by
      rw [Piece.token?] at yielded
      split at yielded
      · contradiction
      · exact Option.some.inj yielded
    have reserved : rule.kind = .unknown := by
      rw [← kind, same]
      simpa [Token.isUnknown, Kind.isUnknown] using unknown
    obtain ⟨wellFormed, -⟩ := ofRules_eq_ok_iff.mp accepted
    exact absurd reserved (wellFormed.known rule (mem_of_tried accepted tried))

end Lexer

namespace Stream

variable {rules : List Rule} {lexer : Lexer} {text : String} {c : Cursor}

/-- A drained stream has passed the untested text piece by piece, from wherever a history of the
cursor had led. It has yielded the tokens of the pieces that are not ignored, each spelling its
piece. If the rules keep their text, the tokens of a whole text make it up. -/
theorem drain_partitions (accepted : (Lexer.ofRules rules).outcome = .ok lexer)
    (builtIn : ∀ rule ∈ rules, rule.BuiltIn) (reached : c.Reached text)
    (running : c.canceled = false) :
    (∃ pieces last pending, lexer.Path c pieces last ∧
      (⟨lexer, c, false⟩ : Stream).drain.outcome =
        .ok (pieces.filterMap Piece.token?, ⟨lexer, last, true⟩) ∧
      last.pos = last.size ∧ c.rest = .ok (pieces.flatMap Piece.segment) ∧
      (∀ piece ∈ pieces, piece.segment ≠ []) ∧
      c.pending = .ok pending ∧ Piece.SpellAll pending pieces ∧
      ∀ piece ∈ pieces, ∀ token, piece.token? = some token → token.isUnknown = true →
        ∃ char, piece.segment = [char] ∧ token = .unrecognized char) ∧
    ((∀ rule ∈ rules, rule.Verbatim) →
      ∃ tokens ending, (lexer.stream text).drain.outcome = .ok (tokens, ending) ∧
        tokens.flatMap (·.value.toList) = text.toList) := by
  have tried := Lexer.builtIn_of_accepted accepted builtIn
  constructor
  · have valid := reached.sound.toValid
    obtain ⟨before, pending, rest, divides⟩ := Cursor.valid_iff_divides.mp valid
    obtain ⟨pieces, last, path, ended⟩ := Lexer.exists_path tried valid
    have rest_eq := path.rest_eq divides ended
    refine ⟨pieces, last, pending, path, path.drain tried valid running ended, ended, ?_, ?_,
      divides.pending_eq, path.spellAll divides, ?_⟩
    · rw [divides.rest_eq, rest_eq]
    · exact fun piece member => path.segment_ne_nil valid member
    · exact fun piece member token => path.segment_of_isUnknown accepted valid member
  · intro verbatim
    have divides := Cursor.divides_ofString text
    obtain ⟨pieces, last, path, ended⟩ := Lexer.exists_path tried divides.valid
    refine ⟨_, _, path.drain tried divides.valid rfl ended, ?_⟩
    have kept := path.values_eq_segments divides fun rule member =>
      verbatim rule (Lexer.mem_of_tried accepted member)
    rw [kept, ← path.rest_eq divides ended]

/-- A stream that begins inside a name takes the pending letter into its first token, passes a
space, takes a quoted value out of its delimiters, and ends with an unknown character. With the
rule for names alone, the tokens make up the text. -/
theorem drain_partitions_inside_name :
    (∃ (rules : List Rule) (lexer : Lexer) (c : Cursor) (pieces : List Piece) (last : Cursor),
      (Lexer.ofRules rules).outcome = .ok lexer ∧ c.Reached "ab \"é\"?" ∧
      c.pending = .ok ['a'] ∧ lexer.Path c pieces last ∧
      (⟨lexer, c, false⟩ : Stream).drain.outcome =
        .ok ([⟨⟨1⟩, "ab"⟩, ⟨⟨2⟩, "é"⟩, .unrecognized '?'], ⟨lexer, last, true⟩) ∧
      pieces.flatMap Piece.segment = "b \"é\"?".toList) ∧
    ∃ (rules : List Rule) (lexer : Lexer) (tokens : List Token) (ending : Stream),
      (Lexer.ofRules rules).outcome = .ok lexer ∧ (∀ rule ∈ rules, rule.Verbatim) ∧
      (lexer.stream "ab \"é\"?").drain.outcome = .ok (tokens, ending) ∧
      tokens.flatMap (·.value.toList) = "ab \"é\"?".toList := by
  constructor
  · have reached : Cursor.Reached "ab \"é\"?" { Cursor.ofString "ab \"é\"?" with pos := 1 } :=
      ⟨[.act (.advance 1)], _, by decide, rfl, rfl⟩
    have accepted : (Lexer.ofRules [.keep ⟨1⟩ "name" (.pattern .identifier),
        .keep ⟨2⟩ "string" (.pattern .quotedString),
        (Rule.keep ⟨3⟩ "space" (.pattern .whitespace)).ignored, .virtual ⟨4⟩ "end"]).outcome =
        .ok ⟨_, 3⟩ := rfl
    obtain ⟨⟨pieces, last, pending, path, drained, -, rest, -⟩, -⟩ := drain_partitions accepted
      (by simp [Rule.BuiltIn, Rule.keep, Rule.ignored, Rule.virtual, Rule.recognizer?,
        Recognizer.BuiltIn]) reached rfl
    have yielded : pieces.filterMap Piece.token? = [⟨⟨1⟩, "ab"⟩, ⟨⟨2⟩, "é"⟩, .unrecognized '?'] :=
      Except.ok.inj ((congrArg (Except.map Prod.fst) drained).symm.trans rfl)
    refine ⟨_, _, _, pieces, last, accepted, reached, rfl, path, ?_, Except.ok.inj rest.symm⟩
    rw [drained, yielded]
  · have reached : (Cursor.ofString "ab \"é\"?").Reached "ab \"é\"?" := ⟨[], _, nofun, rfl, rfl⟩
    have accepted : (Lexer.ofRules [.keep ⟨1⟩ "name" (.pattern .identifier)]).outcome =
        .ok ⟨_, 1⟩ := rfl
    have builtIn : ∀ rule ∈ [Rule.keep ⟨1⟩ "name" (.pattern .identifier)], rule.BuiltIn := by
      simp [Rule.BuiltIn, Rule.keep, Rule.recognizer?, Recognizer.BuiltIn]
    have verbatim : ∀ rule ∈ [Rule.keep ⟨1⟩ "name" (.pattern .identifier)], rule.Verbatim := by
      simp [Rule.Verbatim, Rule.keep, Rule.recognizer?, Rule.isIgnored, Recognizer.leaves,
        Pattern.identifier, Pattern.isQuoted]
    obtain ⟨tokens, ending, drained, whole⟩ := (drain_partitions accepted builtIn reached rfl).2 verbatim
    exact ⟨_, _, tokens, ending, accepted, verbatim, drained, whole⟩

end Stream

end Lexing
