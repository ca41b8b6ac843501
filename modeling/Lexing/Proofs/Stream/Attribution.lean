import Lexing.Proofs.Lexer.Accepted
import Lexing.Proofs.Stream.Pulls

/-! # Where the tokens of a stream come from

Every token of a stream has one origin, at the cursor where its text begins. It is made by a rule
that is neither ignored nor virtual, and then no rule before that one matches there; or it is a
single character of the reserved kind, and then no rule matches there at all. The cursor lies behind
the ignored pieces that the pull has passed: after each of these the rules were tried from the first
one on. The check of the rules is what makes a kind lead back to its one rule, and the reserved kind
to none.
-/

namespace Lexing

namespace Lexer

/-- A rule makes a token at a cursor, as the first of the rules that matches there. -/
structure MadeBy (lexer : Lexer) (rule : Rule) (c : Cursor) (token : Token) (after : Cursor) :
    Prop where
  recognizes : rule.isVirtual = false
  kept : rule.isIgnored = false
  kind : token.kind = rule.kind
  name : lexer.name? token.kind = some rule.name
  matched : ∃ recognizer, rule.recognizer? = some recognizer ∧
    recognizer.recognize rule.kind c = .ok (some token, after)
  first : ∃ earlier later, lexer.rules = earlier ++ rule :: later ∧
    ∀ other ∈ earlier, other.FailsAt c

/-- A token is the character at a cursor, where no rule matches. -/
structure MadeByNone (lexer : Lexer) (c : Cursor) (token : Token) (after : Cursor) : Prop where
  kind : token.kind = .unknown
  name : lexer.name? token.kind = none
  value : ∃ char, c.current = .ok (some char) ∧ token.value = String.ofList [char]
  passed : c.commit 1 = .ok after
  failed : ∀ rule ∈ lexer.rules, rule.FailsAt c

variable {rules : List Rule} {lexer : Lexer} {c d after last : Cursor} {piece : Piece} {token : Token}

theorem Step.madeBy (step : lexer.Step c piece after) (valid : c.Valid)
    (accepted : (ofRules rules).outcome = .ok lexer) (yielded : piece.token? = some token) :
    (∃ rule, lexer.MadeBy rule c token after) ∨ lexer.MadeByNone c token after := by
  obtain ⟨before, pending, rest, divides⟩ := Cursor.valid_iff_divides.mp valid
  cases step with
  | @matched _ earlier later rule recognizer leaf segment made tried failed found origin passed =>
    have kept : rule.isIgnored = false ∧ made = token := by simpa [Piece.token?] using yielded
    obtain ⟨kept, rfl⟩ := kept
    have listed : rule ∈ lexer.tried := tried ▸ List.mem_append_right _ (List.mem_cons_self ..)
    obtain ⟨n, -, same, -⟩ := origin.extent divides
    have kind : made.kind = rule.kind := by rw [same]; rfl
    left
    refine ⟨rule, ?_, kept, kind, ?_, ⟨recognizer, found, origin.recognize⟩, earlier,
      later ++ lexer.rules.drop lexer.recognizing, ?_, failed⟩
    · rw [Rule.isVirtual, found]
      rfl
    · rw [kind, name?, rule?_of_accepted accepted (mem_of_tried accepted listed)]
      rfl
    · rw [← List.cons_append, ← List.append_assoc, ← tried]
      exact (List.take_append_drop ..).symm
  | unknown failed current passed =>
    cases yielded
    right
    refine ⟨rfl, ?_, ⟨_, current, rfl⟩, passed, ?_⟩
    · rw [name?, Token.unrecognized, rule?_unknown accepted]
      rfl
    · rw [rules_eq accepted]
      exact failsAt_of_tried accepted failed

theorem Step.running (ready : c.Valid ∧ c.canceled = false) (step : lexer.Step c piece after) :
    after.Valid ∧ after.canceled = false :=
  ⟨step.valid ready.1, (step.alike ready.1).canceled.trans ready.2⟩

/-- A search with a token has passed ignored pieces and then the piece of the token. -/
theorem Search.exists_path (search : lexer.Search c (some token) last) :
    ∃ skipped d piece, lexer.Path c skipped d ∧ (∀ other ∈ skipped, other.token? = none) ∧
      lexer.Step d piece last ∧ piece.token? = some token := by
  generalize answer : some token = found at search
  induction search with
  | ended atEnd => contradiction
  | @found c after piece made step yielded =>
    cases answer
    exact ⟨[], c, piece, .nil c, List.forall_mem_nil _, step, yielded⟩
  | skipped step ignored _ ih =>
    obtain ⟨skipped, d, piece, path, passed, final, yielded⟩ := ih answer
    exact ⟨_ :: skipped, d, piece, .cons step path, List.forall_mem_cons.mpr ⟨ignored, passed⟩, final,
      yielded⟩

/-- A kind that is ignored, by its rule or because it is only reserved, is not that of a token. -/
theorem kind_ne_of_ignored (accepted : (ofRules rules).outcome = .ok lexer)
    (made : (∃ rule, lexer.MadeBy rule c token after) ∨ lexer.MadeByNone c token after) :
    ∀ rule ∈ rules, rule.isIgnored = true ∨ rule.isVirtual = true → token.kind ≠ rule.kind := by
  intro rule member left same
  have own := rule?_of_accepted accepted member
  rw [← same] at own
  rcases made with ⟨maker, made⟩ | made
  · obtain ⟨earlier, later, listed, -⟩ := made.first
    have makerMember : maker ∈ rules := by
      rw [← rules_eq accepted, listed]
      exact List.mem_append_right _ (List.mem_cons_self ..)
    have found := rule?_of_accepted accepted makerMember
    rw [← made.kind, own] at found
    cases found
    rcases left with ignored | virtual
    · exact Bool.false_ne_true (made.kept.symm.trans ignored)
    · exact Bool.false_ne_true (made.recognizes.symm.trans virtual)
  · rw [made.kind, rule?_unknown accepted] at own
    contradiction

end Lexer

namespace Stream

variable {rules : List Rule} {lexer : Lexer}

/-- After any number of pulls the next pull of a stream of a text comes to an answer. If it is a
token, the pull has passed ignored pieces, and where its text begins the token is made by the first
rule that matches, which is not ignored; or it is the character there, and no rule matches. Its kind
is never one that is ignored or only reserved. -/
theorem pull_attributed (accepted : (Lexer.ofRules rules).outcome = .ok lexer)
    (builtIn : ∀ rule ∈ rules, rule.BuiltIn) (text : String) (n : Nat) :
    ∃ answers s found s', (lexer.stream text).pulls n = .ok (answers, s) ∧
      s.pull.outcome = .ok (found, s') ∧ ∀ token, found = some token →
        (∃ skipped c, lexer.Path s.cursor skipped c ∧ (∀ piece ∈ skipped, piece.token? = none) ∧
          ((∃ rule, lexer.MadeBy rule c token s'.cursor) ∨ lexer.MadeByNone c token s'.cursor)) ∧
        ∀ rule ∈ rules, rule.isIgnored = true ∨ rule.isVirtual = true → token.kind ≠ rule.kind := by
  have tried := Lexer.builtIn_of_accepted accepted builtIn
  have start := (Cursor.divides_ofString text).valid
  obtain ⟨answers, c, finished, pulls, ⟨valid, running⟩, -⟩ :=
    pulls_keep (fun c => c.Valid ∧ c.canceled = false) tried id Lexer.Step.running ⟨start, rfl⟩ n
  cases finished with
  | true => exact ⟨answers, _, none, _, pulls, rfl, nofun⟩
  | false =>
    obtain ⟨found, last, search⟩ := Lexer.exists_search tried valid
    refine ⟨answers, _, found, _, pulls, search.pull tried valid running, ?_⟩
    rintro token rfl
    obtain ⟨skipped, d, piece, path, passed, step, yielded⟩ := search.exists_path
    obtain ⟨before, pending, rest, divides⟩ := Cursor.valid_iff_divides.mp valid
    obtain ⟨before', pending', left, -, divides'⟩ := path.divides divides
    have made := step.madeBy divides'.valid accepted yielded
    exact ⟨⟨skipped, d, path, passed, made⟩, Lexer.kind_ne_of_ignored accepted made⟩

/-- Behind a name and two spaces stands a word that a literal and the rule for names both match, and
the literal comes first. After the rest of the word nothing matches. -/
theorem pull_attributed_literal_before_name :
    ∃ (rules : List Rule) (lexer : Lexer) (s s' t t' : Stream) (c d : Cursor) (skipped : List Piece),
      (Lexer.ofRules rules).outcome = .ok lexer ∧
      (lexer.stream "a  iffy?").pulls 1 = .ok ([some ⟨⟨2⟩, "a"⟩], s) ∧
      s.pull.outcome = .ok (some ⟨⟨1⟩, "if"⟩, s') ∧ lexer.Path s.cursor skipped c ∧
      (∃ rule, lexer.MadeBy rule c ⟨⟨1⟩, "if"⟩ s'.cursor) ∧
      (lexer.stream "a  iffy?").pulls 3 =
        .ok ([some ⟨⟨2⟩, "a"⟩, some ⟨⟨1⟩, "if"⟩, some ⟨⟨2⟩, "fy"⟩], t) ∧
      t.pull.outcome = .ok (some (.unrecognized '?'), t') ∧
      lexer.MadeByNone d (.unrecognized '?') t'.cursor := by
  let lexer : Lexer := ⟨[.keep ⟨1⟩ "if" (.pattern (.literal (.ofList ["if"]) .sensitive)),
    .keep ⟨2⟩ "name" (.pattern .identifier),
    (Rule.keep ⟨3⟩ "space" (.pattern .whitespace)).ignored, .virtual ⟨4⟩ "call"], 3⟩
  have accepted : (Lexer.ofRules lexer.rules).outcome = .ok lexer := rfl
  have builtIn : ∀ rule ∈ lexer.rules, rule.BuiltIn := by
    simp [lexer, Rule.BuiltIn, Rule.keep, Rule.ignored, Rule.virtual, Rule.recognizer?,
      Recognizer.BuiltIn]
  obtain ⟨answers, s, found, s', pulls, pulled, attributed⟩ :=
    pull_attributed accepted builtIn "a  iffy?" 1
  obtain ⟨answers', t, found', t', pulls', pulled', attributed'⟩ :=
    pull_attributed accepted builtIn "a  iffy?" 3
  let behind (pos : Nat) : Stream := ⟨lexer, (Cursor.ofString "a  iffy?").settledAt pos, false⟩
  have known : (lexer.stream "a  iffy?").pulls 1 = .ok ([some ⟨⟨2⟩, "a"⟩], behind 1) := rfl
  have known' : (lexer.stream "a  iffy?").pulls 3 =
      .ok ([some ⟨⟨2⟩, "a"⟩, some ⟨⟨1⟩, "if"⟩, some ⟨⟨2⟩, "fy"⟩], behind 7) := rfl
  have next : (behind 1).pull.outcome = .ok (some ⟨⟨1⟩, "if"⟩, behind 5) := rfl
  have next' : (behind 7).pull.outcome = .ok (some (.unrecognized '?'), behind 8) := rfl
  cases pulls.symm.trans known
  cases pulls'.symm.trans known'
  cases pulled.symm.trans next
  cases pulled'.symm.trans next'
  obtain ⟨⟨skipped, c, path, -, made⟩, -⟩ := attributed _ rfl
  obtain ⟨⟨-, d, -, -, made'⟩, -⟩ := attributed' _ rfl
  have ofRule := made.resolve_right fun made => absurd made.kind (by decide)
  have nameless : lexer.name? .unknown = none := rfl
  have ofNone := made'.resolve_left fun ⟨rule, made⟩ => nomatch nameless.symm.trans made.name
  exact ⟨_, lexer, _, _, _, _, c, d, skipped, accepted, known, next, path, ofRule, known', next',
    ofNone⟩

end Stream

end Lexing
