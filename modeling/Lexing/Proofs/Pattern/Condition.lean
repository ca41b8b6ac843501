import Lexing.Proofs.Cursor.FirstLiteral
import Lexing.Proofs.Recognizer.Choice

/-! # Literals with and without a condition

A list of literals covers what the first of them covers that is found, so it can be taken apart into
two lists of which the second is tried where the first has nothing (`map_snd_find?_append`). A
condition is looked for next to the literals, and its place does not depend on which of them is found:
it lets them cover what they cover, or nothing (`width?_conditional`). So a conditional literal can
be taken apart like a plain one, and a condition and its negation share the matches of the plain
literal out between them.
-/

namespace Lexing

namespace Literals

variable {matcher : Matcher} {source : List Char}

theorem map_snd_findFrom (first : Nat) (entries : List String) :
    (findFrom matcher source first entries).map (·.2) =
      entries.findSome? fun literal => matcher.compare source literal.toList := by
  induction entries generalizing first with
  | nil => rfl
  | cons head rest ih =>
    rw [findFrom, List.findSome?_cons]
    cases matcher.compare source head.toList with
    | some width => rfl
    | none => exact ih (first + 1)

/-- Two lists one after the other cover what the first covers, or else what the second does. -/
theorem map_snd_find?_append (first second : List String) :
    ((ofList (first ++ second)).find? matcher source).map (·.2) =
      (((ofList first).find? matcher source).map (·.2)).or
        (((ofList second).find? matcher source).map (·.2)) := by
  simp only [find?, map_snd_findFrom, ofList, List.filter_append, List.findSome?_append]

/-- A list of literals has a match exactly if one of them is found that is not empty. -/
theorem isSome_find?_ofList_iff (literals : List String) (lookup : Lookup)
    {before rest : List Char} :
    ((ofList literals).find? lookup.resolve (Pattern.sideOf lookup before.reverse rest)).isSome ↔
      ∃ literal ∈ literals, literal ≠ "" ∧ lookup.Finds before rest literal.toList := by
  constructor
  · intro matched
    obtain ⟨⟨index, width⟩, found⟩ := Option.isSome_iff_exists.mp matched
    obtain ⟨literal, member, accepted⟩ := findFrom_eq_some found
    obtain ⟨listed, nonempty⟩ := mem_entries_ofList.mp member
    exact ⟨literal, listed, nonempty, (lookup.compare_eq_some_iff.mp accepted).2⟩
  · rintro ⟨literal, listed, nonempty, found⟩
    rw [Option.isSome_iff_ne_none]
    intro missing
    have refused := findFrom_eq_none_iff.mp missing literal
      (mem_entries_ofList.mpr ⟨listed, nonempty⟩)
    cases refused.symm.trans (lookup.compare_eq_some_iff.mpr ⟨rfl, found⟩)

end Literals

namespace ConditionOptions

/-- The same options with the condition turned round. -/
def flipped (options : ConditionOptions) : ConditionOptions :=
  { options with conditionNegated := !options.conditionNegated }

/-- Of some literals one that is not empty is found, on the side and in the case mode that the
options name for a condition. -/
def Present (options : ConditionOptions) (condition : List String) (before rest : List Char) : Prop :=
  ∃ literal ∈ condition, literal ≠ "" ∧ options.conditionLookup.Finds before rest literal.toList

/-- A condition is present where it has to be, or absent where it may not be. -/
def Met (options : ConditionOptions) (condition : List String) (before rest : List Char) : Prop :=
  options.Present condition before rest ↔ options.conditionNegated = false

/-- Either a condition is met or its negation is. -/
theorem flipped_met_iff {options : ConditionOptions} {condition : List String}
    {before rest : List Char} :
    options.flipped.Met condition before rest ↔ ¬ options.Met condition before rest := by
  have same : options.flipped.Present condition before rest ↔
      options.Present condition before rest := Iff.rfl
  rw [Met, Met, same, flipped]
  cases options.conditionNegated <;> simp

theorem met_iff_present {options : ConditionOptions} (required : options.conditionNegated = false)
    {condition : List String} {before rest : List Char} :
    options.Met condition before rest ↔ options.Present condition before rest := by
  rw [Met, required]
  exact iff_true_right rfl

/-- A condition is met unless the search for it answers what is negated. -/
theorem met_iff {options : ConditionOptions} {condition : List String} {before rest : List Char} :
    options.Met condition before rest ↔
      ((Literals.ofList condition).find? options.conditionLookup.resolve
        (Pattern.sideOf options.conditionLookup before.reverse rest)).isSome ≠
          options.conditionNegated := by
  rw [Met, Present, ← Literals.isSome_find?_ofList_iff]
  generalize Option.isSome _ = present
  cases present <;> cases options.conditionNegated <;> simp

end ConditionOptions

namespace Pattern

variable {behind ahead : List Char}

/-- A condition lets literals cover what they cover, or nothing, whichever of them is found. -/
theorem width?_conditional (set condition : Literals) (options : ConditionOptions) :
    (conditional set condition options).width? behind ahead =
      if (condition.find? options.conditionLookup.resolve
          (sideOf options.conditionLookup behind ahead)).isSome = options.conditionNegated then none
      else (literal set options.matchMode).width? behind ahead := by
  rw [width?, width?]
  cases set.find? (Lookup.resolve ⟨.ahead, options.matchMode⟩) ahead with
  | none => simp only [Option.bind_none, Option.map_none, ite_self]
  | some entry => rfl

theorem width?_literal_append (first second : List String) (mode : CaseMode) :
    (literal (.ofList (first ++ second)) mode).width? behind ahead =
      ((literal (.ofList first) mode).width? behind ahead).or
        ((literal (.ofList second) mode).width? behind ahead) :=
  Literals.map_snd_find?_append first second

theorem width?_conditional_append (first second : List String) (condition : Literals)
    (options : ConditionOptions) :
    (conditional (.ofList (first ++ second)) condition options).width? behind ahead =
      ((conditional (.ofList first) condition options).width? behind ahead).or
        ((conditional (.ofList second) condition options).width? behind ahead) := by
  simp only [width?_conditional]
  split
  · rfl
  · exact width?_literal_append first second options.matchMode

end Pattern

namespace Recognizer

/-- The literals of a list, in their order. -/
def literal (literals : List String) (mode : CaseMode) : Recognizer :=
  pattern (.literal (.ofList literals) mode)

/-- The literals of a list under a condition. -/
def conditional (literals condition : List String) (options : ConditionOptions) : Recognizer :=
  pattern (.conditional (.ofList literals) (.ofList condition) options)

/-- The result of literals that cover so many characters of the text ahead. -/
def literalResult (kind : Kind) (ahead : List Char) (c : Cursor) :
    Option Nat → Option Token × Cursor
  | none => (none, c)
  | some n => (some ⟨kind, String.ofList (ahead.take n)⟩,
      c.settledAt (c.pos + Text.byteSize (ahead.take n)))

variable {c : Cursor} {before pending rest : List Char} {kind : Kind} {first second : Recognizer}

theorem recognize_literal (divides : c.Divides before pending rest) (kind : Kind)
    (literals : List String) (mode : CaseMode) :
    (literal literals mode).recognize kind c = .ok (literalResult kind rest c
      ((Pattern.literal (.ofList literals) mode).width? before.reverse rest)) := by
  rw [literal, recognize_eq (r := pattern _) trivial divides, match?]
  cases (Pattern.literal (.ofList literals) mode).width? before.reverse rest <;> rfl

theorem recognize_conditional (divides : c.Divides before pending rest) (kind : Kind)
    (literals condition : List String) (options : ConditionOptions) :
    (conditional literals condition options).recognize kind c = .ok (literalResult kind rest c
      ((Pattern.conditional (.ofList literals) (.ofList condition) options).width?
        before.reverse rest)) := by
  rw [conditional, recognize_eq (r := pattern _) trivial divides, match?]
  cases (Pattern.conditional (.ofList literals) (.ofList condition) options).width?
    before.reverse rest <;> rfl

/-- A choice between literals covers what the first covers, or else what the second does. -/
theorem recognize_orElse_literals {width width' : Option Nat}
    (recognized : first.recognize kind c = .ok (literalResult kind rest c width))
    (recognized' : second.recognize kind c = .ok (literalResult kind rest c width')) :
    (orElse first second).recognize kind c =
      .ok (literalResult kind rest c (width.or width')) := by
  rw [recognize, recognized, ok_bind]
  cases width with
  | some n => exact keepPlace_some kind c _ _
  | none =>
    change (second.recognize kind c >>= keepPlace kind c) = _
    rw [recognized', ok_bind, Option.none_or]
    cases width' with
    | some n => exact keepPlace_some kind c _ _
    | none => exact keepPlace_none kind c

/-- Two lists of literals one after the other do at every cursor what a choice between them does,
with the same token or none and the same cursor behind it, and also under a condition. -/
theorem literals_split_into_choice (valid : c.Valid) (kind : Kind)
    (first second condition : List String) :
    (∀ mode, ∃ found after,
      (literal (first ++ second) mode).recognize kind c = .ok (found, after) ∧
      (orElse (literal first mode) (literal second mode)).recognize kind c = .ok (found, after)) ∧
    ∀ options, ∃ found after,
      (conditional (first ++ second) condition options).recognize kind c = .ok (found, after) ∧
      (orElse (conditional first condition options)
        (conditional second condition options)).recognize kind c = .ok (found, after) := by
  obtain ⟨before, pending, rest, divides⟩ := Cursor.valid_iff_divides.mp valid
  constructor
  · intro mode
    refine ⟨_, _, recognize_literal divides kind (first ++ second) mode, ?_⟩
    rw [Pattern.width?_literal_append]
    exact recognize_orElse_literals (recognize_literal divides kind first mode)
      (recognize_literal divides kind second mode)
  · intro options
    refine ⟨_, _, recognize_conditional divides kind (first ++ second) condition options, ?_⟩
    rw [Pattern.width?_conditional_append]
    exact recognize_orElse_literals (recognize_conditional divides kind first condition options)
      (recognize_conditional divides kind second condition options)

/-- The list tries the shorter word first, and so does the choice, although its second part holds
the longer one. Where the condition forbids both words, the choice tries its second part in vain. -/
theorem literals_split_into_choice_overlapping :
    ∃ c after : Cursor, c.Valid ∧ c.start < c.pos ∧
      (literal (["in"] ++ ["", "INTO"]) .insensitive).recognize ⟨1⟩ c =
        .ok (some ⟨⟨1⟩, "In"⟩, after) ∧
      (orElse (literal ["in"] .insensitive) (literal ["", "INTO"] .insensitive)).recognize ⟨1⟩ c =
        .ok (some ⟨⟨1⟩, "In"⟩, after) ∧
      (orElse (conditional ["In"] ["Int"] { conditionNegated := true })
        (conditional ["", "Into"] ["Int"] { conditionNegated := true })).recognize ⟨1⟩ c =
          .ok (none, c) := by
  have valid : Cursor.Valid { Cursor.ofString "éInto" with pos := 2 } :=
    ⟨by decide, by decide, by decide, by decide⟩
  obtain ⟨plain, -⟩ := literals_split_into_choice valid ⟨1⟩ ["in"] ["", "INTO"] []
  obtain ⟨-, guarded⟩ := literals_split_into_choice valid ⟨1⟩ ["In"] ["", "Into"] ["Int"]
  obtain ⟨found, after, whole, parts⟩ := plain .insensitive
  obtain ⟨found', after', whole', parts'⟩ := guarded { conditionNegated := true }
  cases whole
  cases whole'
  exact ⟨_, _, valid, by decide, rfl, parts, parts'⟩

/-- Where the condition is met, conditional literals do what plain ones do. -/
theorem recognize_conditional_of_met (divides : c.Divides before pending rest) (kind : Kind)
    (literals : List String) {condition : List String} {options : ConditionOptions}
    (met : options.Met condition before rest) :
    (conditional literals condition options).recognize kind c =
      (literal literals options.matchMode).recognize kind c := by
  rw [recognize_conditional divides, recognize_literal divides, Pattern.width?_conditional,
    if_neg (ConditionOptions.met_iff.mp met)]

theorem recognize_conditional_of_not_met (divides : c.Divides before pending rest) (kind : Kind)
    (literals : List String) {condition : List String} {options : ConditionOptions}
    (unmet : ¬ options.Met condition before rest) :
    (conditional literals condition options).recognize kind c = .ok (none, c) := by
  rw [ConditionOptions.met_iff, not_not] at unmet
  rw [recognize_conditional divides, Pattern.width?_conditional, if_pos unmet]
  rfl

theorem recognize_conditional_of_none (divides : c.Divides before pending rest)
    {literals : List String} (condition : List String) (options : ConditionOptions)
    (plain : (literal literals options.matchMode).recognize kind c = .ok (none, c)) :
    (conditional literals condition options).recognize kind c = .ok (none, c) := by
  by_cases met : options.Met condition before rest
  · exact (recognize_conditional_of_met divides kind literals met).trans plain
  · exact recognize_conditional_of_not_met divides kind literals met

theorem recognize_conditional_eq_some_iff (divides : c.Divides before pending rest)
    {literals : List String} (condition : List String) (options : ConditionOptions) {token : Token}
    {after : Cursor}
    (plain : (literal literals options.matchMode).recognize kind c = .ok (some token, after)) :
    (conditional literals condition options).recognize kind c = .ok (some token, after) ↔
      options.Met condition before rest := by
  constructor
  · intro recognized
    apply Classical.byContradiction
    intro unmet
    rw [recognize_conditional_of_not_met divides kind literals unmet] at recognized
    cases recognized
  · intro met
    exact (recognize_conditional_of_met divides kind literals met).trans plain

/-- A condition and its negation share out the matches of the plain literals: where these match, one
of the two does the same and the other leaves the cursor as it is, and where these do not match both
leave it. The one that requires the condition matches exactly where the condition is present. -/
theorem condition_and_negation_share_matches (divides : c.Divides before pending rest) (kind : Kind)
    (literals condition : List String) (options : ConditionOptions) :
    ((literal literals options.matchMode).recognize kind c = .ok (none, c) ∧
      (conditional literals condition options).recognize kind c = .ok (none, c) ∧
      (conditional literals condition options.flipped).recognize kind c = .ok (none, c)) ∨
    ∃ token after, (literal literals options.matchMode).recognize kind c = .ok (some token, after) ∧
      ((conditional literals condition options).recognize kind c = .ok (some token, after) ∧
          (conditional literals condition options.flipped).recognize kind c = .ok (none, c) ∨
        (conditional literals condition options).recognize kind c = .ok (none, c) ∧
          (conditional literals condition options.flipped).recognize kind c =
            .ok (some token, after)) ∧
      ∀ chosen ∈ [options, options.flipped], chosen.conditionNegated = false →
        ((conditional literals condition chosen).recognize kind c = .ok (some token, after) ↔
          options.Present condition before rest) := by
  have plain := recognize_literal divides kind literals options.matchMode
  cases width : (Pattern.literal (.ofList literals) options.matchMode).width? before.reverse rest with
  | none =>
    rw [width] at plain
    exact .inl ⟨plain, recognize_conditional_of_none divides condition options plain,
      recognize_conditional_of_none divides condition options.flipped plain⟩
  | some n =>
    rw [width] at plain
    have matches_iff := recognize_conditional_eq_some_iff divides condition options plain
    have matches_iff' := recognize_conditional_eq_some_iff divides condition options.flipped plain
    refine .inr ⟨_, _, plain, ?_, ?_⟩
    · by_cases met : options.Met condition before rest
      · have unmet := mt ConditionOptions.flipped_met_iff.mp (not_not_intro met)
        exact .inl ⟨matches_iff.mpr met, recognize_conditional_of_not_met divides kind literals unmet⟩
      · have met' := ConditionOptions.flipped_met_iff.mpr met
        exact .inr ⟨recognize_conditional_of_not_met divides kind literals met, matches_iff'.mpr met'⟩
    · intro chosen member required
      simp only [List.mem_cons, List.not_mem_nil, or_false] at member
      rcases member with rfl | rfl
      · exact matches_iff.trans (ConditionOptions.met_iff_present required)
      · exact matches_iff'.trans (ConditionOptions.met_iff_present required)

/-- A name after a point is looked for behind the character in progress. The condition is present
there although it is written in the other case, so the literal matches and its negation does not. -/
theorem condition_and_negation_share_matches_after_point :
    ∃ (options : ConditionOptions) (c after : Cursor), c.Divides ['K', '.'] ['_'] ['x', 'y'] ∧
      options.conditionNegated = true ∧ options.Present ["", "k."] ['K', '.'] ['x', 'y'] ∧
      (conditional ["X"] ["", "k."] options).recognize ⟨1⟩ c = .ok (none, c) ∧
      (conditional ["X"] ["", "k."] options.flipped).recognize ⟨1⟩ c =
        .ok (some ⟨⟨1⟩, "x"⟩, after) := by
  have divides : Cursor.Divides { Cursor.ofString "K._xy" with pos := 3, start := 2 }
      ['K', '.'] ['_'] ['x', 'y'] := ⟨by decide, by decide, by decide⟩
  have present : ConditionOptions.Present ⟨true, true, true, true⟩ ["", "k."]
      ['K', '.'] ['x', 'y'] := ⟨"k.", by decide, by decide, by decide⟩
  rcases condition_and_negation_share_matches divides ⟨1⟩ ["X"] ["", "k."]
      ⟨true, true, true, true⟩ with ⟨failed, -⟩ | ⟨token, after, plain, shared, required⟩
  · cases failed
  · have matched := (required _ (.tail _ (.head _)) rfl).mpr present
    rcases shared with ⟨-, unmatched⟩ | ⟨unmatched, -⟩
    · cases matched.symm.trans unmatched
    · cases plain
      exact ⟨_, _, _, divides, rfl, present, unmatched, matched⟩

end Recognizer

end Lexing
