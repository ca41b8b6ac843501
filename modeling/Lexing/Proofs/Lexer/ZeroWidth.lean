import Lexing.Proofs.Lexer.Accepted
import Lexing.Recognizer.Custom

/-! # A rule that matches without progress

A match that tests nothing does not count, and the rules after it are tried. But to have matched,
its recognizer has taken the token in progress out of the cursor, and the next rules no longer see
it. So such a rule may be added to a lexer without effect where no token is in progress, or where a
rule before it matches. In all other places the rules after it are tried at the cursor without the
token in progress (`next_takePending`), whose text is then in no token.
-/

namespace Lexing

namespace Rule

variable {earlier later : List Rule} {extra : Rule}

/-- A rule with a recognizer may be added before others if its kind and name are new and no virtual
rule comes before it. -/
theorem WellFormed.insert (wellFormed : WellFormed (earlier ++ later))
    (extracting : ∀ rule ∈ earlier, rule.isVirtual = false) (recognizes : extra.isVirtual = false)
    (known : extra.kind ≠ .unknown)
    (fresh : ∀ rule ∈ earlier ++ later, rule.kind ≠ extra.kind ∧ rule.name ≠ extra.name) :
    WellFormed (earlier ++ extra :: later) where
  known := by
    have others := wellFormed.known
    rw [List.forall_mem_append] at others ⊢
    exact ⟨others.1, List.forall_mem_cons.mpr ⟨known, others.2⟩⟩
  ordered := by
    obtain ⟨inEarlier, inLater, across⟩ := List.pairwise_append.mp wellFormed.ordered
    obtain ⟨freshEarlier, freshLater⟩ := List.forall_mem_append.mp fresh
    have afterExtra : ∀ rule ∈ later, extra.MayPrecede rule := by
      intro rule member
      obtain ⟨kind, name⟩ := freshLater rule member
      refine ⟨kind.symm, name.symm, fun virtual => ?_⟩
      rw [recognizes] at virtual
      contradiction
    have beforeExtra : ∀ rule ∈ earlier, rule.MayPrecede extra := by
      intro rule member
      obtain ⟨kind, name⟩ := freshEarlier rule member
      refine ⟨kind, name, fun virtual => ?_⟩
      rw [extracting rule member] at virtual
      contradiction
    rw [List.pairwise_append, List.pairwise_cons]
    refine ⟨inEarlier, ⟨afterExtra, inLater⟩, fun first member => ?_⟩
    exact List.forall_mem_cons.mpr ⟨beforeExtra first member, across first member⟩

end Rule

/-- To take the token in progress always succeeds. Untested text stays as it is. -/
theorem Recognizer.recognize_takePending {c : Cursor} {before pending rest : List Char}
    (divides : c.Divides before pending rest) (kind : Kind) :
    takePending.recognize kind c = .ok (some ⟨kind, String.ofList pending⟩, c.settledAt c.pos) := by
  rw [takePending, recognize, divides.extractAll_eq]
  exact keepPlace_some kind c _ _

namespace Cursor

variable {c : Cursor} {before pending rest : List Char}

theorem settledAt_pos (settled : c.start = c.pos) : c.settledAt c.pos = c := by
  cases c
  cases settled
  rfl

theorem Divides.divides_settledAt_pos (divides : c.Divides before pending rest) :
    (c.settledAt c.pos).Divides (before ++ pending) [] rest := by
  simpa using divides.divides_settled 0

end Cursor

namespace Lexer

variable {lexer lexer' : Lexer} {c : Cursor} {before pending rest : List Char}
  {earlier later : List Rule} {extra : Rule}

/-- Where no rule before it matches, a rule that takes the token in progress and nothing more is
reported, and the rules after it are tried without the token in progress. -/
theorem tryRules_takePending (divides : c.Divides before pending rest)
    (zeroWidth : extra.recognizer? = some .takePending)
    (failed : ∀ rule ∈ earlier, rule.FailsAt c) :
    (tryRules c.pos (earlier ++ extra :: later) c).outcome =
      (tryRules c.pos later (c.settledAt c.pos)).outcome := by
  have idle : (c.settledAt c.pos).pos = c.pos := rfl
  rw [tryRules_of_fails failed, tryRules, zeroWidth]
  simp only [Recognizer.recognize_takePending divides, Traced.ofExcept, Traced.bind_ok,
    List.nil_append, if_pos idle]
  rfl

/-- A rule that takes the token in progress makes no difference at a cursor: there is none, or a
rule before it matches. -/
def Unaffected (earlier : List Rule) (c : Cursor) : Prop :=
  c.start = c.pos ∨ ∃ rule ∈ earlier, ¬ rule.FailsAt c

theorem tryRules_insert (builtIn : ∀ rule ∈ earlier, rule.BuiltIn)
    (divides : c.Divides before pending rest) (zeroWidth : extra.recognizer? = some .takePending)
    (unaffected : Unaffected earlier c) :
    (tryRules c.pos (earlier ++ extra :: later) c).outcome =
      (tryRules c.pos (earlier ++ later) c).outcome := by
  rcases fails_or_exists_match builtIn divides with
    failed | ⟨first, rule, others, recognizer, leaf, token, after, rfl, failed, tried, origin⟩
  · rcases unaffected with settled | ⟨rule, member, succeeds⟩
    · rw [tryRules_takePending divides zeroWidth failed, tryRules_of_fails failed,
        Cursor.settledAt_pos settled]
    · exact absurd (failed rule member) succeeds
  · obtain ⟨n, width, -, rfl⟩ := origin.extent divides
    have moved := Pattern.pos_lt_after (c := c) width
    rw [List.append_assoc, List.append_assoc, List.cons_append, List.cons_append,
      tryRules_of_fails failed, tryRules_of_fails failed, tryRules_of_match tried origin moved,
      tryRules_of_match tried origin moved]

/-- Behind a match no token is in progress, so if the added rule makes no difference to the first
try, it makes none to the search. -/
theorem nextWithin_insert (builtIn : lexer.BuiltIn) (tried : lexer.tried = earlier ++ later)
    (tried' : lexer'.tried = earlier ++ extra :: later)
    (zeroWidth : extra.recognizer? = some .takePending) (valid : c.Valid)
    (unaffected : Unaffected earlier c) (tries : Nat) :
    (lexer'.nextWithin tries c).outcome = (lexer.nextWithin tries c).outcome := by
  induction tries generalizing c with
  | zero => rfl
  | succ tries ih =>
    obtain ⟨before, pending, rest, divides⟩ := Cursor.valid_iff_divides.mp valid
    have sameTry : (tryRules c.pos lexer'.tried c).outcome = (tryRules c.pos lexer.tried c).outcome := by
      rw [tried, tried']
      refine tryRules_insert (fun rule member => builtIn rule ?_) divides zeroWidth unaffected
      exact tried ▸ List.mem_append_left _ member
    rw [nextWithin_outcome, nextWithin_outcome, sameTry]
    rcases fails_or_exists_step builtIn divides with failed | ⟨rule, _, _, _, after, step⟩
    · rw [tryRules_nothing failed]
      rfl
    · rw [tryRules_of_step step valid]
      split
      · obtain ⟨left, -, -, divided, -⟩ := step.divides divides
        exact ih divided.valid (.inl divided.start_eq_pos)
      · rfl

/-- Where no rule before it matches, the added rule makes the rules after it start over without the
token in progress. Behind an ignored match of theirs the search goes on as ever. -/
theorem next_takePending (builtIn : lexer.BuiltIn) (tried : lexer.tried = earlier ++ later)
    (tried' : lexer'.tried = earlier ++ extra :: later)
    (zeroWidth : extra.recognizer? = some .takePending) (valid : c.Valid)
    (failed : ∀ rule ∈ earlier, rule.FailsAt c) :
    (lexer'.next c).outcome =
      (tryRules c.pos later (c.settledAt c.pos)).outcome >>= fun (found, after) =>
        found.conclude (fun middle => (lexer.next middle).outcome) after := by
  obtain ⟨before, pending, rest, divides⟩ := Cursor.valid_iff_divides.mp valid
  have settled := divides.divides_settledAt_pos
  have builtInLater : ∀ rule ∈ later, rule.BuiltIn :=
    fun rule member => builtIn rule (tried ▸ List.mem_append_right _ member)
  rw [next, nextWithin_outcome, tried', tryRules_takePending divides zeroWidth failed]
  rcases fails_or_exists_match builtInLater settled with
    missed | ⟨first, rule, others, recognizer, leaf, token, after, rfl, missed, recognized, origin⟩
  · rw [tryRules_nothing missed]
    rfl
  · obtain ⟨n, width, -, landed⟩ := origin.extent settled
    have moved : c.pos < after.pos := by
      rw [landed]
      exact Pattern.pos_lt_after (c := c.settledAt c.pos) width
    have divided : after.Divides _ [] (rest.drop n) := landed ▸ Pattern.divides_after settled leaf n
    have sameSize : after.size = c.size := by
      rw [landed]
      exact congrArg Source.size (Pattern.alike_after leaf rest n (c.settledAt c.pos)).source
    have bounded := divided.valid.pos_le_size
    have goesOn : (lexer'.nextWithin (c.size - c.pos) after).outcome = (lexer.next after).outcome := by
      rw [nextWithin_insert builtIn tried tried' zeroWidth divided.valid (.inl divided.start_eq_pos),
        next, nextWithin_enough builtIn divided.valid (by omega) (Nat.lt_succ_self _)]
    have answer : tryRules c.pos (rule :: others) (c.settledAt c.pos) = _ :=
      tryRules_of_match recognized origin moved others
    rw [tryRules_of_fails missed, answer]
    split
    · exact goesOn
    · rfl

theorem tried_append (accepted : (ofRules (earlier ++ later)).outcome = .ok lexer)
    (recognizing : ∀ rule ∈ earlier, rule.isVirtual = false) :
    lexer.tried = earlier ++ later.takeWhile fun rule => !rule.isVirtual := by
  rw [tried_of_accepted accepted]
  exact List.takeWhile_append_of_pos fun rule member => by rw [recognizing rule member]; rfl

/-- A rule that takes the token in progress and nothing more may be added to accepted rules before
any of those with a recognizer. No token is lost and none changes where no token is in progress or a
rule before the added one matches. In all other places the rules after it see the text without the
token in progress, which is in no token then. -/
theorem next_insert_takePending (accepted : (ofRules (earlier ++ later)).outcome = .ok lexer)
    (builtIn : ∀ rule ∈ earlier ++ later, rule.BuiltIn)
    (recognizing : ∀ rule ∈ earlier, rule.isVirtual = false)
    (zeroWidth : extra.recognizer? = some .takePending) (known : extra.kind ≠ .unknown)
    (fresh : ∀ rule ∈ earlier ++ later, rule.kind ≠ extra.kind ∧ rule.name ≠ extra.name) :
    ∃ lexer', (ofRules (earlier ++ extra :: later)).outcome = .ok lexer' ∧
      ∀ c : Cursor, c.Valid →
        (Unaffected earlier c → ∃ found after, (lexer.next c).outcome = .ok (found, after) ∧
          (lexer'.next c).outcome = .ok (found, after)) ∧
        (¬ Unaffected earlier c → (lexer'.next c).outcome =
          (tryRules c.pos (lexer.tried.drop earlier.length) (c.settledAt c.pos)).outcome >>=
            fun (found, after) =>
              found.conclude (fun middle => (lexer.next middle).outcome) after) := by
  have tried := tried_append accepted recognizing
  have tryable := builtIn_of_accepted accepted builtIn
  obtain ⟨wellFormed, -⟩ := ofRules_eq_ok_iff.mp accepted
  have recognizes : extra.isVirtual = false := by rw [Rule.isVirtual, zeroWidth]; rfl
  have accepted' := ofRules_eq_ok_iff.mpr ⟨wellFormed.insert recognizing recognizes known fresh, rfl⟩
  have tried' := tried_append accepted' recognizing
  rw [List.takeWhile_cons_of_pos (by rw [recognizes]; rfl)] at tried'
  refine ⟨_, accepted', fun c valid => ⟨fun unaffected => ?_, fun affected => ?_⟩⟩
  · obtain ⟨found, after, searched⟩ := exists_next tryable valid
    refine ⟨found, after, searched, ?_⟩
    rw [← searched]
    exact nextWithin_insert tryable tried tried' zeroWidth valid unaffected _
  · have failed : ∀ rule ∈ earlier, rule.FailsAt c := by
      simpa [Unaffected] using (not_or.mp affected).2
    rw [tried, List.drop_left]
    exact next_takePending tryable tried tried' zeroWidth valid failed

theorem next_insert_takePending_behind_strings :
    ∃ (earlier later : List Rule) (extra : Rule) (lexer lexer' : Lexer) (c d : Cursor),
      (ofRules (earlier ++ later)).outcome = .ok lexer ∧ extra.recognizer? = some .takePending ∧
      (ofRules (earlier ++ extra :: later)).outcome = .ok lexer' ∧
      (Cursor.ofString "é'b'").advance 1 = .ok (true, c) ∧
      (Cursor.ofString "éb").advance 1 = .ok (true, d) ∧
      (lexer.next c).outcome = .ok (some ⟨⟨1⟩, "b"⟩, c.settledAt 5) ∧
      (lexer'.next c).outcome = .ok (some ⟨⟨1⟩, "b"⟩, c.settledAt 5) ∧
      (lexer'.next d).outcome = .ok (some ⟨⟨2⟩, "b"⟩, d.settledAt 3) := by
  let string := Rule.keep ⟨1⟩ "string" (.pattern .quotedString)
  let name := Rule.keep ⟨2⟩ "name" (.pattern .identifier)
  let call := Rule.virtual ⟨3⟩ "call"
  let mark := (Rule.keep ⟨4⟩ "mark" .takePending).ignored
  let lexer : Lexer := ⟨[string, name, call], 2⟩
  let c : Cursor := { Cursor.ofString "é'b'" with pos := 2 }
  let d : Cursor := { Cursor.ofString "éb" with pos := 2 }
  have accepted : (ofRules ([string] ++ [name, call])).outcome = .ok lexer := rfl
  have builtIn : ∀ rule ∈ [string] ++ [name, call], rule.BuiltIn := by
    simp [string, name, call, Rule.BuiltIn, Rule.keep, Rule.virtual, Rule.recognizer?,
      Recognizer.BuiltIn]
  have zeroWidth : mark.recognizer? = some .takePending := rfl
  obtain ⟨lexer', accepted', found⟩ := next_insert_takePending accepted builtIn
    (by simp [string, Rule.isVirtual, Rule.keep, Rule.recognizer?]) zeroWidth (by decide)
    (by simp [string, name, call, mark, Rule.keep, Rule.virtual, Rule.ignored])
  -- The string is the first rule to match at `c`, and nothing matches before the mark at `d`.
  obtain ⟨answer, after, found_c, found_c'⟩ := (found c ⟨by decide, by decide, by decide, by decide⟩).1
    (.inr ⟨string, List.mem_singleton_self _, fun fails => by cases fails _ rfl⟩)
  have found_d := (found d ⟨by decide, by decide, by decide, by decide⟩).2 (by
    rintro (settled | ⟨rule, member, succeeds⟩)
    · exact absurd settled (by decide)
    · obtain rfl := List.mem_singleton.mp member
      refine succeeds fun recognizer tried => ?_
      cases tried
      rfl)
  have known : (lexer.next c).outcome = .ok (some ⟨⟨1⟩, "b"⟩, c.settledAt 5) := rfl
  cases found_c.symm.trans known
  exact ⟨_, _, mark, lexer, lexer', c, d, accepted, zeroWidth,
    accepted', rfl, rfl, found_c, found_c', found_d⟩

/-- A rule that takes the token in progress is not without effect: the rules after it lose the
beginning of their token. -/
theorem next_insert_takePending_loses_pending :
    ∃ (rule extra : Rule) (lexer lexer' : Lexer) (c : Cursor),
      rule.BuiltIn ∧ extra.recognizer? = some .takePending ∧
      (ofRules [rule]).outcome = .ok lexer ∧ (ofRules [extra, rule]).outcome = .ok lexer' ∧
      (Cursor.ofString "ab").advance 1 = .ok (true, c) ∧
      (lexer.next c).outcome = .ok (some ⟨⟨1⟩, "ab"⟩, c.settledAt 2) ∧
      (lexer'.next c).outcome = .ok (some ⟨⟨1⟩, "b"⟩, c.settledAt 2) := by
  let name := Rule.keep ⟨1⟩ "name" (.pattern .identifier)
  let mark := Rule.keep ⟨9⟩ "mark" .takePending
  have builtIn : name.BuiltIn := by
    simp [name, Rule.BuiltIn, Rule.keep, Rule.recognizer?, Recognizer.BuiltIn]
  exact ⟨name, mark, ⟨[name], 1⟩, ⟨[mark, name], 2⟩, { Cursor.ofString "ab" with pos := 1 }, builtIn,
    rfl, rfl, rfl, rfl, rfl, rfl⟩

end Lexer

end Lexing
