import Mathlib.Data.List.Basic
import Lexing.Proofs.Lexer.Accepted

/-! # Ignoring is filtering

An ignored rule takes its text inside the search for the next token, and a rule that is kept ends
the search with a token. Where the text is taken makes no difference to what comes after: a lexer
and the one with all its rules kept go the same path, cursor by cursor. So a stream without the
ignored tokens is the stream with all tokens, filtered, and both end with the same cursor.
-/

namespace Lexing

namespace Rule

/-- The same rule with its tokens kept in the stream, if it recognizes any. -/
def kept (rule : Rule) : Rule :=
  match rule.action with
  | .recognize recognizer _ => { rule with action := .recognize recognizer false }
  | .reserve => rule

@[simp] theorem kept_kind (rule : Rule) : rule.kept.kind = rule.kind := by
  obtain ⟨kind, name, _ | _⟩ := rule <;> rfl

@[simp] theorem kept_name (rule : Rule) : rule.kept.name = rule.name := by
  obtain ⟨kind, name, _ | _⟩ := rule <;> rfl

@[simp] theorem kept_recognizer? (rule : Rule) : rule.kept.recognizer? = rule.recognizer? := by
  obtain ⟨kind, name, _ | _⟩ := rule <;> rfl

@[simp] theorem kept_isVirtual (rule : Rule) : rule.kept.isVirtual = rule.isVirtual := by
  rw [isVirtual, kept_recognizer?, isVirtual]

theorem kept_isIgnored {rule : Rule} {recognizer : Recognizer}
    (tried : rule.recognizer? = some recognizer) : rule.kept.isIgnored = false := by
  obtain ⟨kind, name, _ | _⟩ := rule
  · rfl
  · contradiction

theorem builtIn_kept {rule : Rule} (builtIn : rule.BuiltIn) : rule.kept.BuiltIn := by
  rwa [BuiltIn, kept_recognizer?]

theorem failsAt_kept {rule : Rule} {c : Cursor} (fails : rule.FailsAt c) : rule.kept.FailsAt c := by
  rwa [FailsAt, kept_recognizer?, kept_kind]

/-- The check does not look at what is ignored. -/
theorem wellFormed_map_kept {rules : List Rule} (wellFormed : WellFormed rules) :
    WellFormed (rules.map kept) where
  known := by
    rw [List.forall_mem_map]
    intro rule member
    rw [kept_kind]
    exact wellFormed.known rule member
  ordered := by
    rw [List.pairwise_map]
    refine wellFormed.ordered.imp fun precede => ?_
    simpa only [MayPrecede, kept_kind, kept_name, kept_isVirtual] using precede

end Rule

/-- A piece as the lexer with all rules kept passes it. -/
def Piece.kept : Piece → Piece
  | matched rule leaf segment token => matched rule.kept leaf segment token
  | unknown char => unknown char

namespace Lexer

variable {rules : List Rule} {lexer lexer' : Lexer} {c after last : Cursor} {piece : Piece}
  {pieces : List Piece}

/-- With its rules kept, an accepted list is accepted still, and the same rules are tried. -/
theorem exists_kept (accepted : (ofRules rules).outcome = .ok lexer) :
    ∃ lexer', (ofRules (rules.map Rule.kept)).outcome = .ok lexer' ∧
      lexer'.tried = lexer.tried.map Rule.kept := by
  obtain ⟨wellFormed, -⟩ := ofRules_eq_ok_iff.mp accepted
  have acceptedKept := ofRules_eq_ok_iff.mpr ⟨Rule.wellFormed_map_kept wellFormed, rfl⟩
  refine ⟨_, acceptedKept, ?_⟩
  have virtual : ((fun rule : Rule => !rule.isVirtual) ∘ Rule.kept) = fun rule => !rule.isVirtual :=
    funext fun rule => congrArg not rule.kept_isVirtual
  rw [tried_of_accepted acceptedKept, tried_of_accepted accepted, List.takeWhile_map, virtual]

theorem Step.kept (step : lexer.Step c piece after)
    (tried : lexer'.tried = lexer.tried.map Rule.kept) : lexer'.Step c piece.kept after := by
  have failing {earlier : List Rule} (failed : ∀ rule ∈ earlier, rule.FailsAt c) :
      ∀ rule ∈ earlier.map Rule.kept, rule.FailsAt c := by
    rw [List.forall_mem_map]
    exact fun rule member => Rule.failsAt_kept (failed rule member)
  cases step with
  | @matched _ earlier later rule recognizer leaf segment token rules failed found origin passed =>
    have sameFound : rule.kept.recognizer? = some recognizer := by rw [Rule.kept_recognizer?, found]
    have sameOrigin : recognizer.MatchedBy rule.kept.kind c token after leaf := by
      rwa [Rule.kept_kind]
    rw [rules, List.map_append, List.map_cons] at tried
    exact .matched tried (failing failed) sameFound sameOrigin passed
  | unknown failed current passed =>
    exact .unknown (tried ▸ failing failed) current passed

/-- Both lexers go the same path. -/
theorem Path.kept (path : lexer.Path c pieces last)
    (tried : lexer'.tried = lexer.tried.map Rule.kept) :
    lexer'.Path c (pieces.map Piece.kept) last := by
  induction path with
  | nil c => exact .nil c
  | cons step _ ih => exact .cons (step.kept tried) ih

/-- A piece that is ignored yields a token of an ignored kind once its rule is kept. -/
theorem Path.token?_eq (path : lexer.Path c pieces last) (valid : c.Valid)
    (accepted : (ofRules rules).outcome = .ok lexer) (member : piece ∈ pieces) :
    piece.token? = piece.kept.token?.filter fun token => !lexer.isIgnored token.kind := by
  cases piece with
  | unknown char =>
    rw [Piece.kept, Piece.token?, Option.filter_some, Token.unrecognized, isIgnored_unknown accepted]
    rfl
  | matched rule leaf segment token =>
    obtain ⟨tried, kind, recognizer, found⟩ := path.rule_of_matched valid member
    rw [Piece.kept, Piece.token?, Piece.token?, Rule.kept_isIgnored found,
      if_neg Bool.false_ne_true, Option.filter_some, kind, isIgnored_of_accepted accepted tried]
    cases rule.isIgnored <;> rfl

theorem Path.tokens_eq (path : lexer.Path c pieces last) (valid : c.Valid)
    (accepted : (ofRules rules).outcome = .ok lexer) :
    pieces.filterMap Piece.token? = ((pieces.map Piece.kept).filterMap Piece.token?).filter
      fun token => !lexer.isIgnored token.kind := by
  rw [List.filter_filterMap, List.filterMap_map]
  exact List.filterMap_congr fun piece member => path.token?_eq valid accepted member

end Lexer

namespace Stream

variable {rules : List Rule} {lexer : Lexer}

/-- The tokens of a text are the tokens it has with every rule kept, without those of the kinds that
are ignored, and both streams end with the same cursor. -/
theorem drain_eq_filter_kept (accepted : (Lexer.ofRules rules).outcome = .ok lexer)
    (builtIn : ∀ rule ∈ rules, rule.BuiltIn) (text : String) :
    ∃ keeping tokens all last, (Lexer.ofRules (rules.map Rule.kept)).outcome = .ok keeping ∧
      (lexer.stream text).drain.outcome = .ok (tokens, ⟨lexer, last, true⟩) ∧
      (keeping.stream text).drain.outcome = .ok (all, ⟨keeping, last, true⟩) ∧
      tokens = all.filter fun token => !lexer.isIgnored token.kind := by
  have valid := (Cursor.divides_ofString text).valid
  obtain ⟨keeping, acceptedKept, tried⟩ := Lexer.exists_kept accepted
  have builtInKept : ∀ rule ∈ rules.map Rule.kept, rule.BuiltIn := by
    rw [List.forall_mem_map]
    exact fun rule member => Rule.builtIn_kept (builtIn rule member)
  have triedBuiltIn := Lexer.builtIn_of_accepted accepted builtIn
  have keptBuiltIn := Lexer.builtIn_of_accepted acceptedKept builtInKept
  obtain ⟨pieces, last, path, ended⟩ := Lexer.exists_path triedBuiltIn valid
  exact ⟨keeping, _, _, last, acceptedKept, path.drain triedBuiltIn valid rfl ended,
    (path.kept tried).drain keptBuiltIn valid rfl ended, path.tokens_eq valid accepted⟩

/-- Spaces between names and before an unknown character are passed or yielded. -/
theorem drain_eq_filter_kept_spaces :
    ∃ (rules : List Rule) (lexer keeping : Lexer) (last : Cursor),
      (Lexer.ofRules rules).outcome = .ok lexer ∧
      (Lexer.ofRules (rules.map Rule.kept)).outcome = .ok keeping ∧
      (lexer.stream "é b ?").drain.outcome =
        .ok ([⟨⟨1⟩, "é"⟩, ⟨⟨1⟩, "b"⟩, .unrecognized '?'], ⟨lexer, last, true⟩) ∧
      (keeping.stream "é b ?").drain.outcome =
        .ok ([⟨⟨1⟩, "é"⟩, ⟨⟨2⟩, " "⟩, ⟨⟨1⟩, "b"⟩, ⟨⟨2⟩, " "⟩, .unrecognized '?'],
          ⟨keeping, last, true⟩) := by
  have accepted : (Lexer.ofRules [.keep ⟨1⟩ "name" (.pattern (.run (Text.oneOf "éb"))),
      (Rule.keep ⟨2⟩ "space" (.pattern .whitespace)).ignored]).outcome = .ok ⟨_, 2⟩ := rfl
  obtain ⟨keeping, tokens, all, last, acceptedKept, drained, drainedAll, -⟩ :=
    drain_eq_filter_kept accepted
      (by simp [Rule.BuiltIn, Rule.keep, Rule.ignored, Rule.recognizer?, Recognizer.BuiltIn]) "é b ?"
  refine ⟨_, _, keeping, last, accepted, acceptedKept, ?_, ?_⟩
  · have yielded : tokens = [⟨⟨1⟩, "é"⟩, ⟨⟨1⟩, "b"⟩, .unrecognized '?'] :=
      Except.ok.inj ((congrArg (Except.map Prod.fst) drained).symm.trans rfl)
    rw [drained, yielded]
  · cases acceptedKept
    have yielded : all = [⟨⟨1⟩, "é"⟩, ⟨⟨2⟩, " "⟩, ⟨⟨1⟩, "b"⟩, ⟨⟨2⟩, " "⟩, .unrecognized '?'] :=
      Except.ok.inj ((congrArg (Except.map Prod.fst) drainedAll).symm.trans rfl)
    rw [drainedAll, yielded]

end Stream

end Lexing
