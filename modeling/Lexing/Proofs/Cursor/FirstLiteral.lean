import Lexing.Proofs.Cursor.Lookup

/-! # The first literal of a set

A set tries its literals in the order they were declared in and stops at the first that is found,
however long it is. `FirstFound` says this of the literals themselves, by what the lookup of a single
literal answers, and `matchAny_eq_some_iff` ties the search through a set to it. The index counts the
literals that a set keeps: empty ones are dropped when it is made, and so a literal that is found
covers some text. With less regard to case more literals are found and none is lost, so the first of
them moves towards the front or stays where it was.
-/

namespace Lexing

namespace Literals

/-- A set keeps the literals of a list that are not empty. -/
theorem mem_entries_ofList {literals : List String} {literal : String} :
    literal ∈ (ofList literals).entries ↔ literal ∈ literals ∧ literal ≠ "" := by
  rw [ofList, List.mem_filter, decide_eq_true_iff]

end Literals

namespace Cursor

variable {c : Cursor} {before pending rest : List Char}

/-- Of some literals, the one at an index is found at a cursor, with so many characters, and no
earlier one is. -/
structure FirstFound (c : Cursor) (lookup : Lookup) (literals : List String) (index width : Nat) :
    Prop where
  found : ∃ literal, literals[index]? = some literal ∧
    c.matchLiteral literal lookup = .ok (some width)
  missing : ∀ earlier ∈ literals.take index, c.matchLiteral earlier lookup = .ok none

/-- The search through a set ends at the first of its literals that is found. -/
theorem Divides.matchAny_eq_some_iff (divides : c.Divides before pending rest) (set : Literals)
    (lookup : Lookup) {index width : Nat} :
    c.matchAny set lookup = .ok (some (index, width)) ↔
      c.FirstFound lookup set.entries index width := by
  rw [Pattern.matchAny_eq divides, Except.ok.injEq, Literals.find?, Literals.findFrom_eq_some_iff]
  simp only [Nat.zero_add]
  constructor
  · rintro ⟨place, rfl, ⟨literal, entry, matched⟩, missing⟩
    refine ⟨⟨literal, entry, ?_⟩, ?_⟩
    · rw [divides.matchLiteral_eq, matched]
    · intro earlier member
      rw [divides.matchLiteral_eq, missing earlier member]
  · rintro ⟨⟨literal, entry, matched⟩, missing⟩
    simp only [divides.matchLiteral_eq, Except.ok.injEq] at matched missing
    exact ⟨index, rfl, ⟨literal, entry, matched⟩, missing⟩

theorem Divides.matchAny_eq_none_iff (divides : c.Divides before pending rest) (set : Literals)
    (lookup : Lookup) :
    c.matchAny set lookup = .ok none ↔
      ∀ literal ∈ set.entries, c.matchLiteral literal lookup = .ok none := by
  rw [Pattern.matchAny_eq divides, Except.ok.injEq, Literals.find?, Literals.findFrom_eq_none_iff]
  simp only [divides.matchLiteral_eq, Except.ok.injEq]

/-- The index alone is that of the first literal found. -/
theorem Divides.index_matchAny_iff (divides : c.Divides before pending rest) (set : Literals)
    (lookup : Lookup) :
    (∀ index, (do return (← c.matchAny set lookup).map (·.1)) =
        (.ok (some index) : Except Fault (Option Nat)) ↔
      ∃ width, c.FirstFound lookup set.entries index width) ∧
    ((do return (← c.matchAny set lookup).map (·.1)) = (.ok none : Except Fault (Option Nat)) ↔
      ∀ literal ∈ set.entries, c.matchLiteral literal lookup = .ok none) := by
  simp only [← divides.matchAny_eq_some_iff, ← divides.matchAny_eq_none_iff]
  rw [Pattern.matchAny_eq divides]
  cases set.find? lookup.resolve (Pattern.sideOf lookup before.reverse rest) with
  | none => exact ⟨fun index => iff_of_false nofun (by simp), iff_of_true rfl rfl⟩
  | some entry =>
    refine ⟨fun index => ⟨?_, ?_⟩, iff_of_false nofun nofun⟩
    · rintro ⟨⟩
      exact ⟨entry.2, rfl⟩
    · rintro ⟨width, ⟨⟩⟩
      rfl

/-- Where a literal of a set is found, the search stops there or earlier. -/
theorem Divides.exists_matchAny_le (divides : c.Divides before pending rest) (set : Literals)
    {lookup : Lookup} {index width : Nat} {literal : String}
    (entry : set.entries[index]? = some literal)
    (matched : c.matchLiteral literal lookup = .ok (some width)) :
    ∃ index' width', index' ≤ index ∧ c.matchAny set lookup = .ok (some (index', width')) := by
  have search := Pattern.matchAny_eq divides set lookup
  generalize set.find? lookup.resolve (Pattern.sideOf lookup before.reverse rest) = answer at search
  cases answer with
  | none =>
    have refused := (divides.matchAny_eq_none_iff set lookup).mp search literal
      (List.mem_of_getElem? entry)
    cases matched.symm.trans refused
  | some answer =>
    obtain ⟨index', width'⟩ := answer
    refine ⟨index', width', ?_, search⟩
    obtain ⟨-, missing⟩ := (divides.matchAny_eq_some_iff set lookup).mp search
    apply Nat.le_of_not_lt
    intro later
    have member : literal ∈ set.entries.take index' :=
      List.mem_of_getElem? ((List.getElem?_take_of_lt later).trans entry)
    cases matched.symm.trans (missing literal member)

/-- The search through the literals of a list answers with the first that is found, counted among
those that are not empty, and with nothing if none of these is found. What is found covers some text.
Whoever asks for the index alone gets the same index. Without regard to case the search ends no
later than with it. -/
theorem matchAny_finds_first (valid : c.Valid) (literals : List String) :
    (∀ lookup index width,
      (c.matchAny (.ofList literals) lookup = .ok (some (index, width)) ↔
        c.FirstFound lookup (literals.filter (· ≠ "")) index width) ∧
      (c.matchAny (.ofList literals) lookup = .ok (some (index, width)) → 1 ≤ width)) ∧
    (∀ lookup, c.matchAny (.ofList literals) lookup = .ok none ↔
      ∀ literal ∈ literals, literal ≠ "" → c.matchLiteral literal lookup = .ok none) ∧
    (∀ mode,
      ((∀ index, c.indexAhead (.ofList literals) mode = .ok (some index) ↔
          ∃ width, c.FirstFound ⟨.ahead, mode⟩ (literals.filter (· ≠ "")) index width) ∧
        (c.indexAhead (.ofList literals) mode = .ok none ↔
          ∀ literal ∈ literals, literal ≠ "" → c.matchLiteral literal ⟨.ahead, mode⟩ = .ok none)) ∧
      (∀ index, c.indexBehind (.ofList literals) mode = .ok (some index) ↔
          ∃ width, c.FirstFound ⟨.behind, mode⟩ (literals.filter (· ≠ "")) index width) ∧
        (c.indexBehind (.ofList literals) mode = .ok none ↔
          ∀ literal ∈ literals, literal ≠ "" →
            c.matchLiteral literal ⟨.behind, mode⟩ = .ok none)) ∧
    ∀ side index width,
      c.matchAny (.ofList literals) ⟨side, .sensitive⟩ = .ok (some (index, width)) →
      ∃ index' width', index' ≤ index ∧
        c.matchAny (.ofList literals) ⟨side, .insensitive⟩ = .ok (some (index', width')) := by
  obtain ⟨before, pending, rest, divides⟩ := valid_iff_divides.mp valid
  have kept (lookup : Lookup) :
      (∀ literal ∈ (Literals.ofList literals).entries, c.matchLiteral literal lookup = .ok none) ↔
        ∀ literal ∈ literals, literal ≠ "" → c.matchLiteral literal lookup = .ok none := by
    simp only [Literals.mem_entries_ofList, and_imp]
  refine ⟨?_, ?_, ?_, ?_⟩
  · intro lookup index width
    refine ⟨divides.matchAny_eq_some_iff (.ofList literals) lookup, ?_⟩
    intro matched
    rw [Pattern.matchAny_eq divides, Except.ok.injEq] at matched
    exact (Literals.find?_bounds matched).1
  · intro lookup
    exact (divides.matchAny_eq_none_iff _ lookup).trans (kept lookup)
  · intro mode
    obtain ⟨ahead, noneAhead⟩ := divides.index_matchAny_iff (.ofList literals) ⟨.ahead, mode⟩
    obtain ⟨behind, noneBehind⟩ := divides.index_matchAny_iff (.ofList literals) ⟨.behind, mode⟩
    exact ⟨⟨ahead, noneAhead.trans (kept _)⟩, behind, noneBehind.trans (kept _)⟩
  · intro side index width search
    obtain ⟨⟨literal, entry, matched⟩, -⟩ := (divides.matchAny_eq_some_iff _ _).mp search
    obtain ⟨rfl, found⟩ := (divides.matchLiteral_eq_some_iff literal _).mp matched
    exact divides.exists_matchAny_le _ entry
      ((divides.matchLiteral_eq_some_iff literal _).mpr ⟨rfl, found.insensitive⟩)

/-- Behind a character in progress, a letter is found before the word it begins. Without regard to
case a word in capitals is found, which stands before both. The empty literals are not counted. -/
theorem matchAny_finds_first_capitals :
    ∃ c : Cursor, c.Valid ∧ c.start < c.pos ∧
      c.matchAny (.ofList ["", "IF", "", "i", "if"]) ⟨.ahead, .sensitive⟩ = .ok (some (1, 1)) ∧
      c.indexAhead (.ofList ["", "IF", "", "i", "if"]) .insensitive = .ok (some 0) ∧
      c.matchAny (.ofList ["", "IF", "", "i", "if"]) ⟨.behind, .insensitive⟩ = .ok none := by
  have valid : Valid { ofString "é!if(" with pos := 3, start := 2 } :=
    ⟨by decide, by decide, by decide, by decide⟩
  obtain ⟨found, missing, index, -⟩ := matchAny_finds_first valid ["", "IF", "", "i", "if"]
  obtain ⟨⟨ahead, -⟩, -⟩ := index .insensitive
  refine ⟨_, valid, by decide, (found _ 1 1).1.mpr ⟨⟨"i", rfl, rfl⟩, ?_⟩,
    (ahead 0).mpr ⟨2, ⟨"IF", rfl, rfl⟩, ?_⟩, (missing _).mpr ?_⟩
  · intro earlier member
    obtain rfl : earlier = "IF" := by simpa using member
    rfl
  · simp
  · simp only [List.forall_mem_cons]
    exact ⟨absurd rfl, fun _ => rfl, absurd rfl, fun _ => rfl, fun _ => rfl, by simp⟩

end Cursor

end Lexing
