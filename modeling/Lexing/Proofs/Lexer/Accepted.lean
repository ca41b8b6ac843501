import Lexing.Proofs.Lexer.Path

/-! # Accepted rules

The check goes through a list of rules once and holds each against the ones before it. What it asks
of the whole list is a relation between two rules, `MayPrecede`, and that no rule takes the kind of
unrecognized characters. In an accepted list a kind stands for one rule, so what a lexer says about
a kind is what the rule says.
-/

namespace Lexing

namespace Rule

variable {rule : Rule} {earlier rules : List Rule}

/-- Whether a list of rules may hold one rule before another. -/
def MayPrecede (first second : Rule) : Prop :=
  first.kind ≠ second.kind ∧ first.name ≠ second.name ∧
    (first.isVirtual = true → second.isVirtual = true)

/-- What is asked of a list of rules. -/
structure WellFormed (rules : List Rule) : Prop where
  known : ∀ rule ∈ rules, rule.kind ≠ .unknown
  ordered : rules.Pairwise MayPrecede

theorem wellFormed_cons :
    WellFormed (rule :: rules) ↔
      rule.kind ≠ .unknown ∧ (∀ later ∈ rules, rule.MayPrecede later) ∧ WellFormed rules := by
  constructor
  · rintro ⟨known, ordered⟩
    rw [List.forall_mem_cons] at known
    rw [List.pairwise_cons] at ordered
    exact ⟨known.1, ordered.1, known.2, ordered.2⟩
  · rintro ⟨known, precede, others⟩
    exact ⟨List.forall_mem_cons.mpr ⟨known, others.known⟩, .cons precede others.ordered⟩

/-- A rule has no problem when its kind is free and every rule before it may precede it. -/
theorem problem?_eq_none_iff :
    rule.problem? earlier = none ↔
      rule.kind ≠ .unknown ∧ ∀ first ∈ earlier, first.MayPrecede rule := by
  rw [problem?]
  by_cases reserved : rule.kind = .unknown
  · simp [Kind.isUnknown, reserved]
  rw [if_neg (by simpa [Kind.isUnknown] using reserved)]
  cases found : earlier.find? (·.kind == rule.kind) with
  | some first =>
    have same : first.kind = rule.kind := by simpa using List.find?_some found
    simp only [reduceCtorEq, false_iff]
    exact fun conditions => (conditions.2 first (List.mem_of_find?_eq_some found)).1 same
  | none =>
    have kinds : ∀ first ∈ earlier, first.kind ≠ rule.kind := by simpa using found
    by_cases taken : ∃ first ∈ earlier, first.name = rule.name
    · obtain ⟨first, member, same⟩ := taken
      rw [if_pos (List.any_eq_true.mpr ⟨first, member, by simpa using same⟩)]
      simp only [reduceCtorEq, false_iff]
      exact fun conditions => (conditions.2 first member).2.1 same
    · have names : ∀ first ∈ earlier, first.name ≠ rule.name := by simpa using taken
      rw [if_neg (by simpa using names)]
      have tail : (∀ first ∈ earlier, first.MayPrecede rule) ↔
          ∀ first ∈ earlier, first.isVirtual = true → rule.isVirtual = true :=
        ⟨fun precede first member => (precede first member).2.2,
          fun tail first member => ⟨kinds first member, names first member, tail first member⟩⟩
      cases virtual : rule.isVirtual with
      | true => simp [reserved, tail, virtual]
      | false => simp [reserved, tail, virtual]

/-- Rules pass the check behind others if they are well formed and all the others may precede them. -/
theorem check_eq_ok_iff :
    check earlier rules = .ok () ↔
      WellFormed rules ∧ ∀ first ∈ earlier, ∀ rule ∈ rules, first.MayPrecede rule := by
  induction rules generalizing earlier with
  | nil => exact ⟨fun _ => ⟨⟨nofun, .nil⟩, fun _ _ => nofun⟩, fun _ => rfl⟩
  | cons rule rest ih =>
    rw [check, wellFormed_cons]
    cases problem : rule.problem? earlier with
    | some error =>
      have failed := mt problem?_eq_none_iff.mpr (by rw [problem]; exact Option.some_ne_none error)
      simp only [reduceCtorEq, false_iff]
      rintro ⟨⟨known, -⟩, precede⟩
      exact failed ⟨known, fun first member => precede first member rule (List.mem_cons_self ..)⟩
    | none =>
      obtain ⟨known, precede⟩ := problem?_eq_none_iff.mp problem
      simp only [ih, List.forall_mem_append, List.forall_mem_cons]
      constructor
      · rintro ⟨others, before, ⟨own, -⟩⟩
        exact ⟨⟨known, own, others⟩, fun first member => ⟨precede first member, before first member⟩⟩
      · rintro ⟨⟨-, own, others⟩, before⟩
        exact ⟨others, fun first member => (before first member).2, own, nofun⟩

/-- A whole list passes the check exactly if it is well formed. -/
theorem check_nil_eq_ok_iff : check [] rules = .ok () ↔ WellFormed rules := by
  rw [check_eq_ok_iff]
  exact and_iff_left (List.forall_mem_nil _)

/-- A rule is found by a key that no two rules of the list share. -/
theorem find?_key {κ : Type} [BEq κ] [LawfulBEq κ] (key : Rule → κ)
    (distinct : rules.Pairwise fun first second => key first ≠ key second)
    (member : rule ∈ rules) : rules.find? (key · == key rule) = some rule := by
  induction distinct with
  | nil => contradiction
  | @cons first rest differs _ ih =>
    rcases List.mem_cons.mp member with rfl | later
    · exact List.find?_cons_of_pos (beq_self_eq_true _)
    · have other : (key first == key rule) = false := by simpa using differs rule later
      rw [List.find?_cons, other]
      exact ih later

/-- In a list that is well formed a kind is that of one rule. -/
theorem WellFormed.find?_kind (wellFormed : WellFormed rules) (member : rule ∈ rules) :
    rules.find? (·.kind == rule.kind) = some rule :=
  find?_key kind (wellFormed.ordered.imp fun precede => precede.1) member

/-- In a list that is well formed no rule with a recognizer comes after a virtual one. -/
theorem WellFormed.mem_takeWhile (wellFormed : WellFormed rules) (member : rule ∈ rules)
    (recognizes : rule.isVirtual = false) :
    rule ∈ rules.takeWhile fun rule => !rule.isVirtual := by
  induction rules with
  | nil => contradiction
  | cons first rest ih =>
    obtain ⟨-, precede, others⟩ := wellFormed_cons.mp wellFormed
    rw [List.takeWhile_cons]
    cases virtual : first.isVirtual with
    | true =>
      have allVirtual : rule.isVirtual = true := by
        rcases List.mem_cons.mp member with rfl | later
        · exact virtual
        · exact (precede rule later).2.2 virtual
      rw [allVirtual] at recognizes
      contradiction
    | false =>
      rcases List.mem_cons.mp member with rfl | later
      · exact List.mem_cons_self ..
      · exact List.mem_cons_of_mem _ (ih others later)

end Rule

namespace Lexer

variable {rules : List Rule} {lexer : Lexer}

/-- A list of rules is accepted when it is well formed, and makes up the whole lexer. -/
theorem ofRules_eq_ok_iff :
    (ofRules rules).outcome = .ok lexer ↔ Rule.WellFormed rules ∧
      lexer = ⟨rules, (rules.takeWhile fun rule => !rule.isVirtual).length⟩ := by
  rw [ofRules, Traced.outcome_bind, ← Rule.check_nil_eq_ok_iff]
  cases Rule.check [] rules with
  | error error => simp [Traced.report, Traced.fail]
  | ok _ => simp [Traced.report, eq_comm]

theorem rules_eq (accepted : (ofRules rules).outcome = .ok lexer) : lexer.rules = rules := by
  obtain ⟨-, rfl⟩ := ofRules_eq_ok_iff.mp accepted
  rfl

/-- The rules of an accepted list that are tried are those before the virtual ones. -/
theorem tried_of_accepted (accepted : (ofRules rules).outcome = .ok lexer) :
    lexer.tried = rules.takeWhile fun rule => !rule.isVirtual := by
  obtain ⟨-, rfl⟩ := ofRules_eq_ok_iff.mp accepted
  exact (List.prefix_iff_eq_take.mp (List.takeWhile_prefix _)).symm

theorem mem_of_tried (accepted : (ofRules rules).outcome = .ok lexer) {rule : Rule}
    (member : rule ∈ lexer.tried) : rule ∈ rules := by
  rw [tried_of_accepted accepted] at member
  exact (List.takeWhile_sublist _).mem member

theorem mem_tried (accepted : (ofRules rules).outcome = .ok lexer) {rule : Rule}
    (member : rule ∈ rules) (recognizes : rule.isVirtual = false) : rule ∈ lexer.tried := by
  rw [tried_of_accepted accepted]
  obtain ⟨wellFormed, -⟩ := ofRules_eq_ok_iff.mp accepted
  exact wellFormed.mem_takeWhile member recognizes

/-- A rule that is not tried has nothing to match with. -/
theorem failsAt_of_tried {c : Cursor} (accepted : (ofRules rules).outcome = .ok lexer)
    (failed : ∀ rule ∈ lexer.tried, rule.FailsAt c) : ∀ rule ∈ rules, rule.FailsAt c := by
  intro rule member
  cases virtual : rule.isVirtual with
  | false => exact failed rule (mem_tried accepted member virtual)
  | true =>
    intro recognizer tried
    rw [Rule.isVirtual, tried] at virtual
    contradiction

theorem builtIn_of_accepted (accepted : (ofRules rules).outcome = .ok lexer)
    (builtIn : ∀ rule ∈ rules, rule.BuiltIn) : lexer.BuiltIn :=
  fun rule member => builtIn rule (mem_of_tried accepted member)

/-- The rule of a kind is the one that has it. -/
theorem rule?_of_accepted (accepted : (ofRules rules).outcome = .ok lexer) {rule : Rule}
    (member : rule ∈ rules) : lexer.rule? rule.kind = some rule := by
  obtain ⟨wellFormed, rfl⟩ := ofRules_eq_ok_iff.mp accepted
  exact wellFormed.find?_kind member

/-- Unrecognized characters have no rule. -/
theorem rule?_unknown (accepted : (ofRules rules).outcome = .ok lexer) :
    lexer.rule? .unknown = none := by
  obtain ⟨wellFormed, rfl⟩ := ofRules_eq_ok_iff.mp accepted
  simpa [rule?] using wellFormed.known

/-- What a lexer says of a kind is what its rule says. -/
theorem isIgnored_of_accepted (accepted : (ofRules rules).outcome = .ok lexer) {rule : Rule}
    (member : rule ∈ lexer.tried) : lexer.isIgnored rule.kind = rule.isIgnored := by
  rw [isIgnored, rule?_of_accepted accepted (mem_of_tried accepted member)]
  rfl

/-- Unrecognized characters are never left out. -/
theorem isIgnored_unknown (accepted : (ofRules rules).outcome = .ok lexer) :
    lexer.isIgnored .unknown = false := by
  rw [isIgnored, rule?_unknown accepted]
  rfl

end Lexer

end Lexing
