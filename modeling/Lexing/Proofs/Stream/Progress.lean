import Lexing.Proofs.Lexer.Rounds
import Lexing.Proofs.Lexer.ZeroWidth
import Lexing.Proofs.Recognizer.Behaved
import Lexing.Proofs.Stream.Pulls

/-! # Every token makes progress

A search has no bound on its rounds of its own, and tells progress from the lack of it by comparing
positions. If the recognizers behave, the position never goes back, so every round but the last
passes a character, and so does every token, of a rule or not. The number of characters ahead bounds
the rounds of one search and the tokens of a whole stream. Matches without progress may come up at
any place and change nothing about this.
-/

namespace Lexing

theorem Text.length_le_byteSize (text : List Char) : text.length ≤ byteSize text := by
  induction text with
  | nil => exact Nat.le_refl 0
  | cons c rest ih =>
    have positive := c.utf8Size_pos
    rw [List.length_cons, byteSize_cons]
    omega

namespace Cursor

variable {c d : Cursor} {text : String} {rest rest' : List Char}

theorem Valid.exists_rest (valid : c.Valid) : ∃ rest, c.rest = .ok rest := by
  obtain ⟨before, pending, rest, divides⟩ := valid_iff_divides.mp valid
  exact ⟨rest, divides.rest_eq⟩

theorem Valid.length_rest_le (valid : c.Valid) (ahead : c.rest = .ok rest) :
    rest.length ≤ c.size - c.pos := by
  obtain ⟨before, pending, rest, divides⟩ := valid_iff_divides.mp valid
  cases divides.rest_eq.symm.trans ahead
  have bounded := Text.length_le_byteSize rest
  rw [divides.size_eq, divides.pos]
  omega

/-- Of two cursors over one text, the one further on has fewer characters ahead. -/
theorem Sound.length_rest_lt (sound : c.Sound text) (sound' : d.Sound text)
    (ahead : c.rest = .ok rest) (ahead' : d.rest = .ok rest') (moved : c.pos < d.pos) :
    rest'.length < rest.length := by
  obtain ⟨before, pending, rest, divides⟩ := valid_iff_divides.mp sound.toValid
  obtain ⟨before', pending', rest', divides'⟩ := valid_iff_divides.mp sound'.toValid
  cases divides.rest_eq.symm.trans ahead
  cases divides'.rest_eq.symm.trans ahead'
  have sameText : before ++ pending ++ rest = before' ++ pending' ++ rest' := by
    rw [← divides.chars, ← divides'.chars, sound.source_eq, sound'.source_eq]
  rw [divides.pos, divides'.pos] at moved
  obtain ⟨middle, further, rfl⟩ :=
    Text.exists_append_of_byteSize_le sameText (Nat.le_of_lt moved)
  rw [further, Text.byteSize_append _ middle] at moved
  have nonempty : middle ≠ [] := by
    rintro rfl
    exact Nat.lt_irrefl _ moved
  have positive := List.length_pos_iff.mpr nonempty
  rw [List.length_append]
  omega

end Cursor

/-- The recognizer of a rule behaves, if it has one. -/
def Rule.Behaved (text : String) (rule : Rule) : Prop :=
  ∀ recognizer, rule.recognizer? = some recognizer → recognizer.Behaved text

namespace Lexer

/-- All recognizers that are tried behave. -/
def Behaved (text : String) (lexer : Lexer) : Prop := ∀ rule ∈ lexer.tried, rule.Behaved text

variable {lexer : Lexer} {c : Cursor} {text : String} {rest : List Char}

/-- A round comes to an answer. If it is nothing, the position is where the round began, and
otherwise it is further on. -/
theorem exists_round {origin : Nat} {rules : List Rule}
    (behaved : ∀ rule ∈ rules, rule.Behaved text) (sound : c.Sound text) (begun : c.pos = origin) :
    ∃ answer after, (tryRules origin rules c).outcome = .ok (answer, after) ∧ after.Sound text ∧
      (answer = .nothing ∧ after.pos = origin ∨ answer ≠ .nothing ∧ origin < after.pos) := by
  induction rules generalizing c with
  | nil => exact ⟨.nothing, c, rfl, sound, .inl ⟨rfl, begun⟩⟩
  | cons rule rules ih =>
    obtain ⟨ruleBehaved, others⟩ := List.forall_mem_cons.mp behaved
    cases tried : rule.recognizer? with
    | none =>
      rw [tryRules_cons_virtual tried]
      exact ih others sound begun
    | some recognizer =>
      obtain ⟨found, middle, recognized, allowed⟩ := ruleBehaved recognizer tried rule.kind c sound
      have onward := allowed.onward
      rw [tryRules_cons tried, recognized, ok_bind]
      dsimp only
      cases counts : counted origin middle found with
      | none =>
        -- No match, or a match at the position where the round began.
        have idle : middle.pos = origin := by
          cases found with
          | none => rw [(allowed.stays rfl).1, begun]
          | some token => simpa [counted] using counts
        exact ih others allowed.sound idle
      | some token =>
        obtain ⟨-, moved⟩ := counted_eq_some counts
        refine ⟨_, middle, rfl, allowed.sound, .inr ⟨?_, by omega⟩⟩
        cases rule.isIgnored
        · exact Found.noConfusion
        · exact Found.noConfusion

/-- A search starts over at most once for each character ahead. With a token it has moved on. -/
theorem exists_run (behaved : lexer.Behaved text) (sound : c.Sound text)
    (ahead : c.rest = .ok rest) :
    ∃ n found after, n ≤ rest.length ∧ lexer.Runs n c found after ∧ after.Sound text ∧
      c.pos ≤ after.pos ∧ (found.isSome = true → c.pos < after.pos) := by
  generalize length : rest.length = characters
  induction characters using Nat.strongRecOn generalizing c rest with
  | ind characters ih =>
    obtain ⟨answer, middle, round, soundMiddle, progress⟩ := exists_round behaved sound rfl
    cases answer with
    | nothing =>
      rcases progress with ⟨-, stayed⟩ | ⟨impossible, -⟩
      · exact ⟨0, none, middle, Nat.zero_le _, .nothing round, soundMiddle, Nat.le_of_eq stayed.symm,
          nofun⟩
      · exact absurd rfl impossible
    | token token =>
      rcases progress with ⟨impossible, -⟩ | ⟨-, moved⟩
      · contradiction
      · exact ⟨0, some token, middle, Nat.zero_le _, .token round, soundMiddle, Nat.le_of_lt moved,
          fun _ => moved⟩
    | skipped =>
      rcases progress with ⟨impossible, -⟩ | ⟨-, moved⟩
      · contradiction
      · obtain ⟨left, aheadMiddle⟩ := soundMiddle.toValid.exists_rest
        have fewer := sound.length_rest_lt soundMiddle ahead aheadMiddle moved
        obtain ⟨n, found, after, bounded, run, soundAfter, onward, later⟩ :=
          ih left.length (length ▸ fewer) soundMiddle aheadMiddle rfl
        refine ⟨n + 1, found, after, by omega, .restart round run, soundAfter, ?_, fun _ => ?_⟩
        · omega
        · omega

theorem next_of_run {n : Nat} {found : Option Token} {after : Cursor}
    (run : lexer.Runs n c found after) (valid : c.Valid) (ahead : c.rest = .ok rest)
    (bounded : n ≤ rest.length) : (lexer.next c).outcome = .ok (found, after) := by
  have inBytes := valid.length_rest_le ahead
  exact nextWithin_eq_ok_iff.mpr ⟨n, by omega, run⟩

end Lexer

/-- To take the token in progress is to match without moving. -/
theorem Recognizer.behaved_takePending (text : String) : takePending.Behaved text := by
  intro kind c sound
  obtain ⟨before, pending, rest, divides⟩ := Cursor.valid_iff_divides.mp sound.toValid
  have settled := sound.of_valid divides.divides_settledAt_pos.valid rfl (.inl rfl)
  exact ⟨_, _, recognize_takePending divides kind, settled, Nat.le_refl _, nofun⟩

namespace Stream

variable {lexer : Lexer} {c : Cursor} {text : String} {rest : List Char}

/-- A pull comes to an answer. With a token the position is further on, and without one the stream
has ended. -/
theorem exists_pull (behaved : lexer.Behaved text) (sound : c.Sound text) (finished : Bool) :
    ∃ found last, (⟨lexer, c, finished⟩ : Stream).pull.outcome =
        .ok (found, ⟨lexer, last, found.isNone⟩) ∧
      last.Sound text ∧ (found.isSome = true → c.pos < last.pos) := by
  cases finished with
  | true => exact ⟨none, c, rfl, sound, nofun⟩
  | false =>
    cases running : c.canceled with
    | true => exact ⟨none, c, pull_of_canceled running, sound, nofun⟩
    | false =>
      obtain ⟨rest, ahead⟩ := sound.toValid.exists_rest
      obtain ⟨n, found, after, bounded, run, soundAfter, onward, moved⟩ :=
        Lexer.exists_run behaved sound ahead
      have searched := Lexer.next_of_run run sound.toValid ahead bounded
      rw [pull_outcome running, searched, ok_bind]
      cases found with
      | some token => exact ⟨some token, after, rfl, soundAfter, moved⟩
      | none =>
        obtain ⟨before, pending, left, divides⟩ := Cursor.valid_iff_divides.mp soundAfter.toValid
        dsimp only
        rw [divides.current_eq, ok_bind]
        cases left with
        | nil => exact ⟨none, after, rfl, soundAfter, nofun⟩
        | cons char left =>
          have passed := divides.divides_settled 1
          have positive := char.utf8Size_pos
          refine ⟨some (.unrecognized char), after.settledAt _, ?_,
            soundAfter.of_valid passed.valid rfl (.inl rfl), fun _ => ?_⟩
          · rw [divides.commit_eq]
            rfl
          · change c.pos < after.pos + Text.byteSize [char]
            rw [Text.byteSize_cons]
            omega

/-- A stream yields at most one token for each character ahead and then ends. -/
theorem exists_drainWithin (behaved : lexer.Behaved text) (sound : c.Sound text)
    (ahead : c.rest = .ok rest) {m : Nat} (enough : rest.length < m) :
    ∃ tokens ending, tokens.length ≤ rest.length ∧
      (drainWithin m ⟨lexer, c, false⟩).outcome = .ok (tokens, ending) ∧
      (⟨lexer, c, false⟩ : Stream).pulls (tokens.length + 1) =
        .ok (tokens.map some ++ [none], ending) := by
  induction m generalizing c rest with
  | zero => omega
  | succ m ih =>
    obtain ⟨found, last, pulled, soundLast, moved⟩ := exists_pull behaved sound false
    rw [drainWithin_succ, pulled, ok_bind]
    cases found with
    | none => exact ⟨[], _, Nat.zero_le _, rfl, pulls_succ pulled rfl⟩
    | some token =>
      obtain ⟨left, aheadLast⟩ := soundLast.toValid.exists_rest
      have fewer := sound.length_rest_lt soundLast ahead aheadLast (moved rfl)
      obtain ⟨tokens, ending, bounded, drained, pulls⟩ := ih soundLast aheadLast (by omega)
      refine ⟨token :: tokens, ending, ?_, ?_, pulls_succ pulled pulls⟩
      · rw [List.length_cons]
        omega
      · dsimp only [Option.isNone]
        rw [drained]
        rfl

/-- If the recognizers of a lexer behave, then at every sound cursor a search comes to an answer and
starts over no more often than there are characters ahead; a pull comes to an answer, and one with
a token moves the position on; and a stream ends after no more tokens than there are characters
ahead. -/
theorem progress_of_behaved (behaved : lexer.Behaved text) (sound : c.Sound text)
    (ahead : c.rest = .ok rest) :
    (∃ restarts found after, restarts ≤ rest.length ∧ lexer.Runs restarts c found after ∧
      (lexer.next c).outcome = .ok (found, after)) ∧
    (∀ finished, ∃ found last, (⟨lexer, c, finished⟩ : Stream).pull.outcome =
        .ok (found, ⟨lexer, last, found.isNone⟩) ∧
      last.Sound text ∧ (found.isSome = true → c.pos < last.pos)) ∧
    ∃ tokens ending, tokens.length ≤ rest.length ∧
      (⟨lexer, c, false⟩ : Stream).drain.outcome = .ok (tokens, ending) ∧
      (⟨lexer, c, false⟩ : Stream).pulls (tokens.length + 1) =
        .ok (tokens.map some ++ [none], ending) := by
  refine ⟨?_, exists_pull behaved sound, ?_⟩
  · obtain ⟨n, found, after, bounded, run, -⟩ := Lexer.exists_run behaved sound ahead
    exact ⟨n, found, after, bounded, run, Lexer.next_of_run run sound.toValid ahead bounded⟩
  · have inBytes := sound.toValid.length_rest_le ahead
    exact exists_drainWithin behaved sound ahead (Nat.lt_succ_of_le inBytes)

/-- Marks that take the token in progress and test nothing, one of them ignored, stand before and
between the other rules, and a third closes a choice. The letter in progress is dropped, a space is
passed, and a word and an unknown character are yielded. -/
theorem progress_of_behaved_among_marks :
    ∃ (lexer : Lexer) (c after : Cursor) (ending : Stream), lexer.Behaved "é b?" ∧
      c.Sound "é b?" ∧ c.start < c.pos ∧ c.rest = .ok " b?".toList ∧
      (∃ restarts ≤ 3, lexer.Runs restarts c (some ⟨⟨4⟩, "b"⟩) after) ∧
      (lexer.next c).outcome = .ok (some ⟨⟨4⟩, "b"⟩, after) ∧
      (∃ last, (⟨lexer, c, false⟩ : Stream).pull.outcome =
        .ok (some ⟨⟨4⟩, "b"⟩, ⟨lexer, last, false⟩) ∧ c.pos < last.pos) ∧
      (⟨lexer, c, false⟩ : Stream).pulls 3 =
        .ok ([some ⟨⟨4⟩, "b"⟩, some (.unrecognized '?'), none], ending) := by
  let lexer : Lexer := ⟨[(Rule.keep ⟨1⟩ "mark" .takePending).ignored,
    (Rule.keep ⟨2⟩ "space" (.pattern .whitespace)).ignored, Rule.keep ⟨3⟩ "point" .takePending,
    Rule.keep ⟨4⟩ "word" (.orElse (.orElse (.pattern .decimal) (.pattern .identifier)) .takePending)],
    4⟩
  let c : Cursor := { Cursor.ofString "é b?" with pos := 2 }
  have sound : c.Sound "é b?" :=
    Cursor.Reached.sound ⟨[.act (.advance 1)], _, by decide, rfl, rfl⟩
  have mark := Recognizer.behaved_takePending "é b?"
  have builtIn : (Recognizer.orElse (.pattern .decimal) (.pattern .identifier)).BuiltIn :=
    ⟨trivial, trivial⟩
  have word := (builtIn.behaved "é b?").orElse mark
  have behaved : lexer.Behaved "é b?" := by
    simp [lexer, Lexer.Behaved, Lexer.tried, Rule.Behaved, Rule.keep, Rule.ignored,
      Rule.recognizer?, mark, word, Recognizer.behaved_pattern]
  have ahead : c.rest = .ok " b?".toList := rfl
  obtain ⟨⟨n, found, after, bounded, run, searched⟩, pulled, tokens, ending, -, drained, pulls⟩ :=
    progress_of_behaved behaved sound ahead
  obtain ⟨first, last, pulledFirst, -, moved⟩ := pulled false
  have known : (lexer.next c).outcome = .ok (some ⟨⟨4⟩, "b"⟩, c.settledAt 4) := rfl
  cases searched.symm.trans known
  have knownFirst : (⟨lexer, c, false⟩ : Stream).pull.outcome =
      .ok (some ⟨⟨4⟩, "b"⟩, ⟨lexer, c.settledAt 4, false⟩) := rfl
  cases pulledFirst.symm.trans knownFirst
  have yielded : tokens = [⟨⟨4⟩, "b"⟩, .unrecognized '?'] :=
    Except.ok.inj ((congrArg (Except.map Prod.fst) drained).symm.trans rfl)
  subst yielded
  exact ⟨lexer, c, _, ending, behaved, sound, by decide, ahead, ⟨n, bounded, run⟩, known,
    ⟨_, knownFirst, moved rfl⟩, pulls⟩

end Stream

end Lexing
