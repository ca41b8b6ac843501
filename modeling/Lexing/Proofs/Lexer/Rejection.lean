import Lexing.Proofs.Lexer.Accepted

/-! # Which rule is to blame

The check holds each rule against those before it and stops at the first that has a problem. So a
list that is rejected has a first beginning that is not well formed, and the last rule of this
beginning is the one to blame. `Blamed` says which of the four errors it is blamed with: an error
applies only where none of those before it does. The rules that come later are never looked at.
-/

namespace Lexing

theorem Kind.isUnknown_iff {kind : Kind} : kind.isUnknown = true ↔ kind = .unknown := by
  simp [isUnknown]

namespace Rule

variable {rule : Rule} {earlier rules : List Rule} {error : RuleError}

/-- A list is well formed if no kind is the reserved one, kinds and names are distinct, and no rule
with a recognizer comes after a virtual one. -/
theorem wellFormed_iff :
    WellFormed rules ↔ (∀ rule ∈ rules, rule.kind ≠ .unknown) ∧ (rules.map (·.kind)).Nodup ∧
      (rules.map (·.name)).Nodup ∧
      rules.Pairwise fun first second => first.isVirtual = true → second.isVirtual = true := by
  simp only [List.Nodup, List.pairwise_map, ← List.pairwise_and_iff]
  constructor
  · intro wellFormed
    exact ⟨wellFormed.known, wellFormed.ordered⟩
  · rintro ⟨known, ordered⟩
    exact ⟨known, ordered⟩

/-- The beginning of a list that is well formed is well formed. -/
theorem WellFormed.take (wellFormed : WellFormed rules) (n : Nat) : WellFormed (rules.take n) where
  known rule member := wellFormed.known rule (List.mem_of_mem_take member)
  ordered := wellFormed.ordered.sublist (List.take_sublist n rules)

/-! ## The error of a rule -/

/-- The error that a rule behind others is blamed with. Of the four errors it is the first that
applies. -/
inductive Blamed (earlier : List Rule) (rule : Rule) : RuleError → Prop
  /-- The kind is that of unrecognized characters. -/
  | reservedKind (reserved : rule.kind = .unknown) : Blamed earlier rule (.reservedKind rule.name)
  /-- An earlier rule has the kind. -/
  | duplicateKind {first : Rule} (known : rule.kind ≠ .unknown) (member : first ∈ earlier)
      (same : first.kind = rule.kind) :
      Blamed earlier rule (.duplicateKind rule.kind first.name rule.name)
  /-- An earlier rule has the name. -/
  | duplicateName {first : Rule} (known : rule.kind ≠ .unknown)
      (newKind : ∀ other ∈ earlier, other.kind ≠ rule.kind) (member : first ∈ earlier)
      (same : first.name = rule.name) : Blamed earlier rule (.duplicateName rule.name)
  /-- There is a recognizer, and `first` is the earliest of the virtual rules before. -/
  | recognizerAfterVirtual {before after : List Rule} {first : Rule} (known : rule.kind ≠ .unknown)
      (newKind : ∀ other ∈ earlier, other.kind ≠ rule.kind)
      (newName : ∀ other ∈ earlier, other.name ≠ rule.name) (recognizes : rule.isVirtual = false)
      (split : earlier = before ++ first :: after) (virtual : first.isVirtual = true)
      (earliest : ∀ other ∈ before, other.isVirtual = false) :
      Blamed earlier rule (.recognizerAfterVirtual rule.name first.name)

/-- The problem of a rule is what it is blamed with. -/
theorem blamed_of_problem? (problem : rule.problem? earlier = some error) :
    Blamed earlier rule error := by
  rw [problem?] at problem
  by_cases reserved : rule.kind = .unknown
  · rw [if_pos (Kind.isUnknown_iff.mpr reserved)] at problem
    cases problem
    exact .reservedKind reserved
  rw [if_neg (mt Kind.isUnknown_iff.mp reserved)] at problem
  cases found : earlier.find? (·.kind == rule.kind) with
  | some first =>
    rw [found] at problem
    cases problem
    have same : first.kind = rule.kind := by simpa using List.find?_some found
    exact .duplicateKind reserved (List.mem_of_find?_eq_some found) same
  | none =>
    have newKind : ∀ other ∈ earlier, other.kind ≠ rule.kind := by simpa using found
    rw [found] at problem
    dsimp only at problem
    split at problem
    · next taken =>
      cases problem
      obtain ⟨first, member, same⟩ := List.any_eq_true.mp taken
      exact .duplicateName reserved newKind member (by simpa using same)
    · next free =>
      have newName : ∀ other ∈ earlier, other.name ≠ rule.name := by simpa using free
      split at problem
      · contradiction
      · next recognizes =>
        obtain ⟨first, foundVirtual, same⟩ := Option.map_eq_some_iff.mp problem
        obtain ⟨virtual, before, after, split, earliest⟩ :=
          List.find?_eq_some_iff_append.mp foundVirtual
        cases same
        exact .recognizerAfterVirtual reserved newKind newName (by simpa using recognizes) split
          virtual (by simpa using earliest)

/-- Behind rules that are well formed, a rule is blamed with its problem and nothing else. -/
theorem problem?_eq_some_iff (wellFormed : WellFormed earlier) :
    rule.problem? earlier = some error ↔ Blamed earlier rule error := by
  refine ⟨blamed_of_problem?, fun blamed => ?_⟩
  cases blamed with
  | reservedKind reserved => exact if_pos (Kind.isUnknown_iff.mpr reserved)
  | duplicateKind known member same =>
    -- No other rule has the kind of the one found.
    rw [problem?, if_neg (mt Kind.isUnknown_iff.mp known), ← same,
      wellFormed.find?_kind member]
  | duplicateName known newKind member same =>
    have free : earlier.find? (·.kind == rule.kind) = none := by simpa using newKind
    rw [problem?, if_neg (mt Kind.isUnknown_iff.mp known), free]
    exact if_pos (List.any_eq_true.mpr ⟨_, member, by simpa using same⟩)
  | @recognizerAfterVirtual before after first known newKind newName recognizes split virtual earliest =>
    have free : earlier.find? (·.kind == rule.kind) = none := by simpa using newKind
    have foundVirtual : earlier.find? isVirtual = some first :=
      List.find?_eq_some_iff_append.mpr ⟨virtual, before, after, split, by simpa using earliest⟩
    rw [problem?, if_neg (mt Kind.isUnknown_iff.mp known), free]
    dsimp only
    rw [if_neg (by simpa using newName), recognizes, foundVirtual]
    rfl

/-! ## The first rule with a problem -/

/-- Rules that pass the check are only compared with those that follow. -/
theorem check_append {passed rest : List Rule} (ok : check earlier passed = .ok ()) :
    check earlier (passed ++ rest) = check (earlier ++ passed) rest := by
  induction passed generalizing earlier with
  | nil => rw [List.nil_append, List.append_nil]
  | cons rule passed ih =>
    rw [check] at ok
    rw [List.cons_append, check]
    cases problem : rule.problem? earlier with
    | some error =>
      rw [problem] at ok
      contradiction
    | none =>
      rw [problem] at ok
      dsimp only
      rw [ih ok, List.append_assoc, List.singleton_append]

/-- A list is rejected with the problem of a rule before which all rules pass the check. -/
theorem exists_problem (failed : check earlier rules = .error error) :
    ∃ passed rule rest, rules = passed ++ rule :: rest ∧ check earlier passed = .ok () ∧
      rule.problem? (earlier ++ passed) = some error := by
  induction rules generalizing earlier with
  | nil => contradiction
  | cons rule rules ih =>
    rw [check] at failed
    cases problem : rule.problem? earlier with
    | some found =>
      rw [problem] at failed
      cases failed
      exact ⟨[], rule, rules, rfl, rfl, by rwa [List.append_nil]⟩
    | none =>
      rw [problem] at failed
      obtain ⟨passed, offender, rest, rfl, ok, blamed⟩ := ih failed
      rw [List.append_assoc] at blamed
      refine ⟨rule :: passed, offender, rest, rfl, ?_, blamed⟩
      rw [check, problem]
      exact ok

/-- A rule behind others that are well formed makes them a longer such list if it has no problem. -/
theorem wellFormed_concat (wellFormed : WellFormed earlier) :
    WellFormed (earlier ++ [rule]) ↔ rule.problem? earlier = none := by
  rw [← check_nil_eq_ok_iff, check_append (check_nil_eq_ok_iff.mpr wellFormed), List.nil_append,
    check]
  cases rule.problem? earlier with
  | none => exact iff_of_true rfl rfl
  | some error => simp

/-- In a list that is not well formed, one rule is the first with a problem. -/
theorem exists_first_problem (malformed : ¬ WellFormed rules) :
    ∃ passed rule rest error, rules = passed ++ rule :: rest ∧ WellFormed passed ∧
      rule.problem? passed = some error := by
  cases checked : check [] rules with
  | ok _ => exact absurd (check_nil_eq_ok_iff.mp checked) malformed
  | error error =>
    obtain ⟨passed, rule, rest, split, ok, problem⟩ := exists_problem checked
    exact ⟨passed, rule, rest, error, split, check_nil_eq_ok_iff.mp ok, problem⟩

/-- The check ends with the first problem, whatever rules follow. -/
theorem check_of_problem {passed : List Rule} (wellFormed : WellFormed passed)
    (problem : rule.problem? passed = some error) (rest : List Rule) :
    check [] (passed ++ rule :: rest) = .error error := by
  rw [check_append (check_nil_eq_ok_iff.mpr wellFormed), List.nil_append, check, problem]

end Rule

namespace Lexer

/-- A list of rules is rejected with the error of its check. -/
theorem ofRules_of_check {rules : List Rule} {error : RuleError}
    (failed : Rule.check [] rules = .error error) : (ofRules rules).outcome = .error error := by
  rw [ofRules, failed]
  rfl

/-- Rules are accepted exactly if they are well formed: no kind is the reserved one, kinds and names
are distinct, and virtual rules come last. If they are not, the error is about the rule at the least
index up to which they are not well formed, it is the first of the four that applies to this rule,
and no rule behind it makes a difference. -/
theorem ofRules_accepts_or_blames (rules : List Rule) :
    (Rule.WellFormed rules ↔ (∀ rule ∈ rules, rule.kind ≠ .unknown) ∧
      (rules.map (·.kind)).Nodup ∧ (rules.map (·.name)).Nodup ∧
      rules.Pairwise fun first second => first.isVirtual = true → second.isVirtual = true) ∧
    ((∃ lexer, (ofRules rules).outcome = .ok lexer) ↔ Rule.WellFormed rules) ∧
    (¬ Rule.WellFormed rules → ∃ i rule error, rules[i]? = some rule ∧
      ¬ Rule.WellFormed (rules.take (i + 1)) ∧ (∀ j < i, Rule.WellFormed (rules.take (j + 1))) ∧
      (∀ other, Rule.Blamed (rules.take i) rule other ↔ other = error) ∧
      (ofRules rules).outcome = .error error ∧
      ∀ others, (ofRules (rules.take (i + 1) ++ others)).outcome = .error error) := by
  refine ⟨Rule.wellFormed_iff, ?_, ?_⟩
  · constructor
    · rintro ⟨lexer, accepted⟩
      exact (ofRules_eq_ok_iff.mp accepted).1
    · intro wellFormed
      exact ⟨_, ofRules_eq_ok_iff.mpr ⟨wellFormed, rfl⟩⟩
  · intro malformed
    obtain ⟨passed, rule, rest, error, rfl, wellFormed, problem⟩ :=
      Rule.exists_first_problem malformed
    have upTo : (passed ++ rule :: rest).take (passed.length + 1) = passed ++ [rule] := by
      rw [List.take_length_add_append]
      rfl
    have rejected (others : List Rule) :
        (ofRules (passed ++ rule :: others)).outcome = .error error :=
      ofRules_of_check (Rule.check_of_problem wellFormed problem others)
    refine ⟨passed.length, rule, error, by simp, ?_, ?_, ?_, rejected rest, ?_⟩
    · rw [upTo, Rule.wellFormed_concat wellFormed, problem]
      exact Option.some_ne_none error
    · intro j before
      rw [List.take_append_of_le_length before]
      exact wellFormed.take (j + 1)
    · intro other
      rw [List.take_left, ← Rule.problem?_eq_some_iff wellFormed, problem, Option.some.injEq, eq_comm]
    · intro others
      rw [upTo, List.append_assoc]
      exact rejected others

/-- A rule that takes an earlier kind and an earlier name and comes after a virtual rule is blamed
with the kind, and the reserved kind behind it is not reached. -/
theorem ofRules_blames_kind_of_fourth :
    ∃ (rules : List Rule) (error : RuleError), ¬ Rule.WellFormed rules ∧
      rules.map (fun rule => (rule.kind, rule.name, rule.isVirtual)) =
        [(⟨1⟩, "name", false), (⟨2⟩, "call", true), (⟨3⟩, "list", true), (⟨1⟩, "call", false),
          (.unknown, "list", false)] ∧
      error = .duplicateKind ⟨1⟩ "name" "call" ∧ (ofRules rules).outcome = .error error ∧
      ∀ others, (ofRules (rules.take 4 ++ others)).outcome = .error error := by
  let name := Rule.keep ⟨1⟩ "name" (.pattern .identifier)
  let again := Rule.keep ⟨1⟩ "call" (.pattern .decimal)
  let reserved := Rule.keep .unknown "list" (.pattern .whitespace)
  let rules := [name, .virtual ⟨2⟩ "call", .virtual ⟨3⟩ "list", again, reserved]
  have malformed : ¬ Rule.WellFormed rules := fun wellFormed =>
    wellFormed.known reserved (by simp [rules]) rfl
  obtain ⟨i, rule, error, -, broken, least, -, rejected, independent⟩ :=
    (ofRules_accepts_or_blames rules).2.2 malformed
  have known : (ofRules rules).outcome = .error (.duplicateKind ⟨1⟩ "name" "call") := rfl
  cases rejected.symm.trans known
  have three : Rule.WellFormed (rules.take 3) := by
    have accepted : (ofRules (rules.take 3)).outcome = .ok ⟨rules.take 3, 1⟩ := rfl
    exact (ofRules_eq_ok_iff.mp accepted).1
  have four : ¬ Rule.WellFormed (rules.take 4) := by
    intro wellFormed
    have kinds := (Rule.wellFormed_iff.mp wellFormed).2.1
    exact absurd kinds (by decide)
  obtain rfl : i = 3 := by
    rcases Nat.lt_trichotomy i 3 with earlier | same | later
    · have shorter := three.take (i + 1)
      rw [List.take_take, Nat.min_eq_left (by omega)] at shorter
      exact absurd shorter broken
    · exact same
    · exact absurd (least 3 later) four
  exact ⟨rules, _, malformed, rfl, rfl, known, independent⟩

end Lexer

end Lexing
