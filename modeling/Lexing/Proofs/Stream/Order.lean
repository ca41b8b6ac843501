import Lexing.Proofs.Lexer.Accepted
import Lexing.Proofs.Recognizer.Behaved

/-! # The order of rules that exclude each other

The first rule that matches wins, so the order of two rules matters only where both match. If the
rules of two lists are the same apart from their order and from virtual rules, and every two that
have changed places exclude each other, then both lists have the same first match at every cursor.
Both lexers go the same path, and their streams yield the same tokens and end with the same cursor.
-/

namespace Lexing

/-- A run is not empty, so it begins with a member. -/
theorem Pattern.starts_of_run {member : Char → Bool} {behind ahead : List Char} {n : Nat}
    (covers : (run member).width? behind ahead = some n) :
    ∃ char later, ahead = char :: later ∧ member char = true := by
  obtain ⟨positive, width⟩ := positive?_eq_some covers
  rw [width, List.length_pos_iff] at positive
  cases ahead with
  | nil => contradiction
  | cons char later =>
    refine ⟨char, later, rfl, ?_⟩
    apply Classical.byContradiction
    intro other
    exact positive (List.takeWhile_cons_of_neg other)

namespace Rule

variable {rule first second : Rule} {rules : List Rule} {c : Cursor}

/-- The recognizer of a rule matches at a cursor. -/
def MatchesAt (rule : Rule) (c : Cursor) : Prop :=
  ∃ recognizer token after, rule.recognizer? = some recognizer ∧
    recognizer.recognize rule.kind c = .ok (some token, after)

/-- There is no sound cursor at which both rules match. -/
def Exclusive (first second : Rule) : Prop :=
  ∀ text c, c.Sound text → ¬ (first.MatchesAt c ∧ second.MatchesAt c)

theorem FailsAt.not_matchesAt (fails : rule.FailsAt c) : ¬ rule.MatchesAt c := by
  rintro ⟨recognizer, token, after, tried, matched⟩
  rw [fails recognizer tried] at matched
  cases matched

/-- In a list that is well formed the rules before the first virtual one are all that are not
virtual. -/
theorem WellFormed.takeWhile_eq_filter (wellFormed : WellFormed rules) :
    rules.takeWhile (fun rule => !rule.isVirtual) = rules.filter fun rule => !rule.isVirtual := by
  induction rules with
  | nil => rfl
  | cons rule rules ih =>
    obtain ⟨-, precede, others⟩ := wellFormed_cons.mp wellFormed
    cases virtual : rule.isVirtual with
    | false =>
      rw [List.takeWhile_cons_of_pos (by rw [virtual]; rfl),
        List.filter_cons_of_pos (by rw [virtual]; rfl), ih others]
    | true =>
      have allVirtual : ∀ later ∈ rules, ¬ (!later.isVirtual) = true := by
        intro later member
        rw [(precede later member).2.2 virtual]
        exact Bool.false_ne_true
      rw [List.takeWhile_cons_of_neg (by simp [virtual]), List.filter_cons_of_neg (by simp [virtual]),
        List.filter_eq_nil_iff.mpr allVirtual]

/-- A rule that matches where another is the first to match comes after it. -/
theorem sublist_of_first {earlier later : List Rule} (split : rules = earlier ++ first :: later)
    (failed : ∀ other ∈ earlier, other.FailsAt c) (member : second ∈ rules)
    (matched : second.MatchesAt c) (different : second ≠ first) : [first, second].Sublist rules := by
  subst split
  have after : second ∈ later := by
    rcases List.mem_append.mp member with before | atOrAfter
    · exact absurd matched (failed second before).not_matchesAt
    · exact (List.mem_cons.mp atOrAfter).resolve_left different
  have tail : [first, second].Sublist (first :: later) :=
    (List.singleton_sublist.mpr after).cons_cons first
  exact tail.trans (List.sublist_append_right earlier _)

/-- Runs of members of two classes that have no character in common exclude each other, as the next
character would be a member of both. -/
theorem exclusive_of_runs {member other : Char → Bool}
    (firstRun : first.recognizer? = some (.pattern (.run member)))
    (secondRun : second.recognizer? = some (.pattern (.run other)))
    (disjoint : ∀ char, member char = true → other char = false) : first.Exclusive second := by
  rintro text c sound ⟨⟨_, token, after, tried, matched⟩, ⟨_, token', after', tried', matched'⟩⟩
  cases firstRun.symm.trans tried
  cases secondRun.symm.trans tried'
  obtain ⟨before, pending, rest, divides⟩ := Cursor.valid_iff_divides.mp sound.toValid
  have starts {member : Char → Bool} {kind : Kind} {token : Token} {after : Cursor}
      (matched : (Recognizer.pattern (.run member)).recognize kind c = .ok (some token, after)) :
      ∃ char later, rest = char :: later ∧ member char = true := by
    have builtIn : (Recognizer.pattern (.run member)).BuiltIn := trivial
    rw [Recognizer.recognize_eq builtIn divides] at matched
    cases found : (Recognizer.pattern (.run member)).match? before.reverse rest with
    | none => rw [found] at matched; cases matched
    | some pair =>
      obtain ⟨n, covers, -⟩ := Option.map_eq_some_iff.mp found
      exact Pattern.starts_of_run covers
  obtain ⟨char, later, rfl, isMember⟩ := starts matched
  obtain ⟨_, _, same, isOther⟩ := starts matched'
  cases same
  rw [disjoint char isMember] at isOther
  contradiction

end Rule

namespace Lexer

variable {rules : List Rule} {lexer lexer' : Lexer} {c after last : Cursor} {piece : Piece}
  {pieces : List Piece} {text : String}

theorem tried_eq_filter (accepted : (ofRules rules).outcome = .ok lexer) :
    lexer.tried = rules.filter fun rule => !rule.isVirtual := by
  obtain ⟨wellFormed, -⟩ := ofRules_eq_ok_iff.mp accepted
  rw [tried_of_accepted accepted, wellFormed.takeWhile_eq_filter]

/-- A step leaves a sound cursor. -/
theorem Step.sound (step : lexer.Step c piece after) (sound : c.Sound text) : after.Sound text := by
  obtain ⟨before, pending, rest, divides⟩ := Cursor.valid_iff_divides.mp sound.toValid
  cases step with
  | matched rules failed tried origin passed =>
    obtain ⟨n, -, -, rfl⟩ := origin.extent divides
    exact Pattern.sound_after sound divides _ n
  | unknown failed current passed =>
    rw [divides.commit_eq] at passed
    cases passed
    exact sound.of_valid (divides.divides_settled 1).valid rfl (.inl rfl)

/-- Two lexers try the same rules, and those that have changed places exclude each other. -/
structure Reordered (lexer lexer' : Lexer) : Prop where
  perm : lexer.tried.Perm lexer'.tried
  exclusive : ∀ first second, [first, second].Sublist lexer.tried →
    [second, first].Sublist lexer'.tried → first.Exclusive second

/-- A step of one lexer is a step of the other. -/
theorem Step.reordered (step : lexer.Step c piece after) (reordered : Reordered lexer lexer')
    (builtIn : lexer.BuiltIn) (sound : c.Sound text) : lexer'.Step c piece after := by
  obtain ⟨before, pending, rest, divides⟩ := Cursor.valid_iff_divides.mp sound.toValid
  have sameRules (rule : Rule) : rule ∈ lexer.tried ↔ rule ∈ lexer'.tried := reordered.perm.mem_iff
  cases step with
  | @matched _ earlier later rule recognizer leaf segment token split failed tried origin passed =>
    have matched : rule.MatchesAt c := ⟨recognizer, token, after, tried, origin.recognize⟩
    have listed : rule ∈ lexer.tried := split ▸ List.mem_append_right _ (List.mem_cons_self ..)
    have builtIn' : ∀ rule ∈ lexer'.tried, rule.BuiltIn :=
      fun rule member => builtIn rule ((sameRules rule).mpr member)
    rcases fails_or_exists_match builtIn' divides with
      failed' | ⟨earlier', rule', later', recognizer', leaf', token', after', split', failed', tried',
        origin'⟩
    · exact absurd matched (failed' rule ((sameRules rule).mp listed)).not_matchesAt
    · have matched' : rule'.MatchesAt c :=
        ⟨recognizer', token', after', tried', origin'.recognize⟩
      have listed' : rule' ∈ lexer'.tried :=
        split' ▸ List.mem_append_right _ (List.mem_cons_self ..)
      -- Were they different, each would come after the other in one of the lists.
      have same : rule' = rule := by
        apply Classical.byContradiction
        intro different
        have inFirst := Rule.sublist_of_first split failed ((sameRules rule').mpr listed') matched'
          different
        have inSecond := Rule.sublist_of_first split' failed' ((sameRules rule).mp listed) matched
          (Ne.symm different)
        exact reordered.exclusive rule rule' inFirst inSecond text c sound ⟨matched, matched'⟩
      subst same
      exact .matched split' failed' tried origin passed
  | unknown failed current passed =>
    exact .unknown (fun rule member => failed rule ((sameRules rule).mpr member)) current passed

theorem Path.reordered (path : lexer.Path c pieces last) (reordered : Reordered lexer lexer')
    (builtIn : lexer.BuiltIn) (sound : c.Sound text) : lexer'.Path c pieces last := by
  induction path with
  | nil c => exact .nil c
  | cons step _ ih => exact .cons (step.reordered reordered builtIn sound) (ih (step.sound sound))

end Lexer

namespace Stream

variable {rules rules' : List Rule} {lexer lexer' : Lexer}

/-- Let the rules with a recognizer be the same in two accepted lists, up to their order. If every
two that have changed places exclude each other, the streams of a text yield the same tokens and end
with the same cursor. -/
theorem drain_of_reordered (accepted : (Lexer.ofRules rules).outcome = .ok lexer)
    (accepted' : (Lexer.ofRules rules').outcome = .ok lexer')
    (builtIn : ∀ rule ∈ rules, rule.BuiltIn)
    (perm : (rules.filter fun rule => !rule.isVirtual).Perm
      (rules'.filter fun rule => !rule.isVirtual))
    (exclusive : ∀ first second, [first, second].Sublist rules → [second, first].Sublist rules' →
      first.Exclusive second) (text : String) :
    ∃ tokens last, (lexer.stream text).drain.outcome = .ok (tokens, ⟨lexer, last, true⟩) ∧
      (lexer'.stream text).drain.outcome = .ok (tokens, ⟨lexer', last, true⟩) := by
  have tryable := Lexer.builtIn_of_accepted accepted builtIn
  have sublist : lexer.tried.Sublist rules := by
    rw [Lexer.tried_eq_filter accepted]
    exact List.filter_sublist
  have sublist' : lexer'.tried.Sublist rules' := by
    rw [Lexer.tried_eq_filter accepted']
    exact List.filter_sublist
  have reordered : Lexer.Reordered lexer lexer' := by
    refine ⟨?_, fun first second before after => ?_⟩
    · rwa [Lexer.tried_eq_filter accepted, Lexer.tried_eq_filter accepted']
    · exact exclusive first second (before.trans sublist) (after.trans sublist')
  have tryable' : lexer'.BuiltIn :=
    fun rule member => tryable rule (reordered.perm.mem_iff.mpr member)
  have sound := Cursor.sound_ofString text
  obtain ⟨pieces, last, path, ended⟩ := Lexer.exists_path tryable sound.toValid
  exact ⟨_, last, path.drain tryable sound.toValid rfl ended,
    (path.reordered reordered tryable sound).drain tryable' sound.toValid rfl ended⟩

/-- Digits and spaces change places, and another virtual rule comes after them. -/
theorem drain_of_reordered_digits_and_spaces :
    ∃ (rules rules' : List Rule) (lexer lexer' : Lexer) (last : Cursor),
      (Lexer.ofRules rules).outcome = .ok lexer ∧ (Lexer.ofRules rules').outcome = .ok lexer' ∧
      rules.map (·.name) = ["digits", "space", "call"] ∧
      rules'.map (·.name) = ["space", "digits", "list", "block"] ∧
      (lexer.stream "12 é3").drain.outcome =
        .ok ([⟨⟨1⟩, "12"⟩, .unrecognized 'é', ⟨⟨1⟩, "3"⟩], ⟨lexer, last, true⟩) ∧
      (lexer'.stream "12 é3").drain.outcome =
        .ok ([⟨⟨1⟩, "12"⟩, .unrecognized 'é', ⟨⟨1⟩, "3"⟩], ⟨lexer', last, true⟩) := by
  let digits : Rule := .keep ⟨1⟩ "digits" (.pattern (.run Text.isDigit))
  let space : Rule := (Rule.keep ⟨2⟩ "space" (.pattern .whitespace)).ignored
  let lexer : Lexer := ⟨[digits, space, .virtual ⟨3⟩ "call"], 2⟩
  let lexer' : Lexer := ⟨[space, digits, .virtual ⟨4⟩ "list", .virtual ⟨3⟩ "block"], 2⟩
  have accepted : (Lexer.ofRules lexer.rules).outcome = .ok lexer := rfl
  have accepted' : (Lexer.ofRules lexer'.rules).outcome = .ok lexer' := rfl
  have builtIn : ∀ rule ∈ lexer.rules, rule.BuiltIn := by
    simp [lexer, digits, space, Rule.BuiltIn, Rule.keep, Rule.ignored, Rule.virtual,
      Rule.recognizer?, Recognizer.BuiltIn]
  have disjoint (char : Char) (digit : Text.isDigit char = true) : Text.isSpace char = false := by
    apply Bool.eq_false_iff.mpr
    intro isSpace
    simp only [Text.isSpace, Bool.or_eq_true, beq_iff_eq] at isSpace
    rcases isSpace with ((rfl | rfl) | rfl) | rfl <;> contradiction
  have exclusive : lexer.rules.Pairwise Rule.Exclusive := by
    have virtual (rule : Rule) : rule.Exclusive (.virtual ⟨3⟩ "call") := by
      rintro text c sound ⟨-, recognizer, token, after, tried, -⟩
      cases tried
    have changed : digits.Exclusive space := Rule.exclusive_of_runs rfl rfl disjoint
    simp [lexer, virtual, changed]
  obtain ⟨tokens, last, drained, drained'⟩ := drain_of_reordered accepted accepted' builtIn
    (.swap ..) (fun first second before _ => List.pairwise_iff_forall_sublist.mp exclusive before)
    "12 é3"
  have known : (lexer.stream "12 é3").drain.outcome =
      .ok ([⟨⟨1⟩, "12"⟩, .unrecognized 'é', ⟨⟨1⟩, "3"⟩],
        ⟨lexer, (Cursor.ofString "12 é3").settledAt 6, true⟩) := rfl
  cases drained.symm.trans known
  exact ⟨_, _, lexer, lexer', _, accepted, accepted', rfl, rfl, drained, drained'⟩

end Stream

end Lexing
