import Lexing.Proofs.Recognizer.Choice

/-! # How far a recognizer looks behind

A literal is compared with as many characters as it has itself, so the condition of a conditional
literal that looks behind sees no more of the text behind than its longest literal is long. No other
pattern looks behind at all. `lookBehind` is this number for a pattern and for a recognizer, and
`match?_congr` says that recognizers see no further: where the texts behind agree on so many
characters, or on all there are, the matches agree.
-/

namespace Lexing

namespace Matcher

variable {source literal : List Char} {m : Nat}

theorem isPrefixOf_take (short : literal.length ≤ m) :
    literal.isPrefixOf (source.take m) = literal.isPrefixOf source := by
  rw [Bool.eq_iff_iff, List.isPrefixOf_iff_prefix, List.isPrefixOf_iff_prefix,
    List.prefix_take_iff]
  exact and_iff_left short

theorem foldedMatch_take (short : literal.length ≤ m) :
    foldedMatch (source.take m) literal = foldedMatch source literal := by
  induction literal generalizing source m with
  | nil => rw [foldedMatch, foldedMatch]
  | cons expected literal ih =>
    obtain ⟨m, rfl⟩ : ∃ k, m = k + 1 := ⟨m - 1, by rw [List.length_cons] at short; omega⟩
    cases source with
    | nil => rfl
    | cons found source =>
      rw [List.take_succ_cons, foldedMatch, foldedMatch, ih (Nat.le_of_succ_le_succ short)]

end Matcher

/-- A comparison looks at no more characters than the literal has. -/
theorem Lookup.compare_take (lookup : Lookup) {source literal : List Char} {m : Nat}
    (short : literal.length ≤ m) :
    lookup.resolve.compare (source.take m) literal = lookup.resolve.compare source literal := by
  have shortReverse : literal.reverse.length ≤ m := by rwa [List.length_reverse]
  rcases lookup with ⟨_ | _, _ | _⟩
  · simp only [resolve, Matcher.startsWith, Matcher.isPrefixOf_take short]
  · exact Matcher.foldedMatch_take short
  · simp only [resolve, Matcher.endsWith, Matcher.isPrefixOf_take shortReverse]
  · exact Matcher.foldedMatch_take shortReverse

namespace Literals

/-- The number of characters of the longest literal of a set. -/
def longest (set : Literals) : Nat := (set.entries.map String.length).max?.getD 0

theorem length_le_longest {set : Literals} {literal : String} (member : literal ∈ set.entries) :
    literal.toList.length ≤ set.longest := by
  rw [String.length_toList]
  exact List.le_max?_getD_of_mem (List.mem_map_of_mem member)

theorem findFrom_take (lookup : Lookup) {source : List Char} {entries : List String} {m : Nat}
    (short : ∀ literal ∈ entries, literal.toList.length ≤ m) (index : Nat) :
    findFrom lookup.resolve (source.take m) index entries =
      findFrom lookup.resolve source index entries := by
  induction entries generalizing index with
  | nil => rfl
  | cons literal rest ih =>
    obtain ⟨first, others⟩ := List.forall_mem_cons.mp short
    rw [findFrom, findFrom, lookup.compare_take first, ih others]

/-- A set of literals looks at no more characters than its longest literal has. -/
theorem find?_take (set : Literals) (lookup : Lookup) {source : List Char} {m : Nat}
    (short : set.longest ≤ m) :
    set.find? lookup.resolve (source.take m) = set.find? lookup.resolve source :=
  findFrom_take lookup (fun _ member => Nat.le_trans (length_le_longest member) short) 0

end Literals

namespace Pattern

/-- How many characters behind the token in progress a pattern may look at. -/
def lookBehind : Pattern → Nat
  | conditional _ condition options => if options.conditionPrecedes then condition.longest else 0
  | _ => 0

/-- A pattern looks at no more of the text behind than it says. -/
theorem width?_take (shape : Pattern) {behind ahead : List Char} {m : Nat}
    (near : shape.lookBehind ≤ m) :
    shape.width? (behind.take m) ahead = shape.width? behind ahead := by
  cases shape with
  | conditional set condition options =>
    have present : condition.find? options.conditionLookup.resolve
          (sideOf options.conditionLookup (behind.take m) ahead) =
        condition.find? options.conditionLookup.resolve
          (sideOf options.conditionLookup behind ahead) := by
      cases precedes : options.conditionPrecedes with
      | true =>
        rw [lookBehind, if_pos precedes] at near
        simp only [sideOf, ConditionOptions.conditionLookup, precedes, if_true]
        exact condition.find?_take _ near
      | false =>
        simp only [sideOf, ConditionOptions.conditionLookup, precedes, Bool.false_eq_true, if_false]
    simp only [width?, present]
  | _ => rfl

end Pattern

namespace Recognizer

/-- How many characters behind the token in progress a recognizer may look at. -/
def lookBehind (r : Recognizer) : Nat := (r.leaves.map Pattern.lookBehind).max?.getD 0

theorem leaf_lookBehind_le {r : Recognizer} {leaf : Pattern} (member : leaf ∈ r.leaves) :
    leaf.lookBehind ≤ r.lookBehind :=
  List.le_max?_getD_of_mem (List.mem_map_of_mem member)

theorem match?_take {r : Recognizer} {behind ahead : List Char} {m : Nat}
    (near : ∀ leaf ∈ r.leaves, leaf.lookBehind ≤ m) :
    r.match? (behind.take m) ahead = r.match? behind ahead := by
  induction r with
  | pattern shape => rw [match?, match?, shape.width?_take (near shape (List.mem_singleton_self _))]
  | custom attempt => rfl
  | orElse first second ihFirst ihSecond =>
    obtain ⟨nearFirst, nearSecond⟩ := List.forall_mem_append.mp near
    rw [match?, match?, ihFirst nearFirst, ihSecond nearSecond]

/-- Behind texts that agree as far as a recognizer looks, it matches the same. -/
theorem match?_congr {r : Recognizer} {behind behind' ahead : List Char} {m : Nat}
    (near : r.lookBehind ≤ m) (same : behind.take m = behind'.take m) :
    r.match? behind ahead = r.match? behind' ahead := by
  have leaves : ∀ leaf ∈ r.leaves, leaf.lookBehind ≤ m :=
    fun leaf member => Nat.le_trans (leaf_lookBehind_le member) near
  rw [← match?_take leaves, same, match?_take leaves]

variable {r : Recognizer} {c : Cursor} {before pending rest : List Char} {kind : Kind}

/-- A recognizer built of patterns fails exactly where it has no match. -/
theorem recognize_eq_none_iff (builtIn : r.BuiltIn) (divides : c.Divides before pending rest) :
    r.recognize kind c = .ok (none, c) ↔ r.match? before.reverse rest = none := by
  rw [recognize_eq builtIn divides]
  cases r.match? before.reverse rest with
  | none => exact iff_of_true rfl rfl
  | some found => simp [result, Pattern.result]

/-- A token that comes from a pattern tells the match of its recognizer. -/
theorem MatchedBy.match?_eq {token : Token} {after : Cursor} {leaf : Pattern}
    (matched : MatchedBy kind c token after r leaf) (builtIn : r.BuiltIn)
    (divides : c.Divides before pending rest) :
    ∃ n, r.match? before.reverse rest = some (leaf, n) ∧
      token = leaf.tokenOf kind pending (rest.take n) ∧ after = leaf.after rest n c := by
  obtain ⟨n, width, token, after⟩ := matched.extent divides
  refine ⟨n, ?_, token, after⟩
  clear token after
  induction matched with
  | leaf found => rw [match?, width, Option.map_some]
  | first _ ih => rw [match?, ih builtIn.1 width, Option.some_or]
  | second failed _ ih =>
    rw [match?, (recognize_eq_none_iff builtIn.1 divides).mp failed, Option.none_or,
      ih builtIn.2 width]

end Recognizer

end Lexing
