import Lexing.Proofs.Cursor.Invariant

/-! # A cursor as a zipper

Seen from outside, a cursor is three lists of characters and an operation moves characters from one
list to its neighbour. The byte offsets that a cursor keeps in their place follow this picture at
every operation: counts are in characters whatever the width of a character, a count past the end
of the text stops there, and what an operation returns is read off the lists. Nothing of a cursor
but its two offsets moves.
-/

namespace Lexing.Cursor

variable {c c' : Cursor} {before pending rest : List Char}

/-- A cursor goes to another division of its text. Apart from the offsets it stays as it is. -/
structure MovesTo (c c' : Cursor) (before pending rest : List Char) : Prop where
  divides : c'.Divides before pending rest
  frame : c' = { c with pos := c'.pos, start := c'.start }

namespace Divides

theorem movesTo_advance (divides : c.Divides before pending rest) (n : Nat) :
    ∃ c', c.advance n = .ok (!(rest.drop n).isEmpty, c') ∧
      c.MovesTo c' before (pending ++ rest.take n) (rest.drop n) :=
  ⟨_, divides.advance_eq n, divides.divides_advance n, rfl⟩

theorem movesTo_commit (divides : c.Divides before pending rest) (n : Nat) :
    ∃ c', c.commit n = .ok c' ∧ c.MovesTo c' (before ++ pending ++ rest.take n) [] (rest.drop n) :=
  ⟨_, divides.commit_eq n, divides.divides_settled n, rfl⟩

theorem movesTo_rewind (divides : c.Divides before pending rest) :
    c.MovesTo c.rewind before [] (pending ++ rest) :=
  ⟨divides.divides_rewind, rfl⟩

/-- A cut of the text that lies in the token in progress is a cut of the token. -/
theorem exists_parts_of_canReset (divides : c.Divides before pending rest) {checkpoint : Nat}
    (inside : c.CanReset checkpoint) :
    ∃ kept back, pending = kept ++ back ∧ checkpoint = Text.byteSize (before ++ kept) := by
  obtain ⟨⟨first, last⟩, cut⟩ := inside
  obtain ⟨left, right, whole, rfl⟩ := Source.isBoundary_iff.mp cut
  rw [divides.start] at first
  rw [divides.pos] at last
  -- The cut is no earlier than the start of the token, and the position is no earlier than the cut.
  have fromStart : before ++ (pending ++ rest) = left ++ right := by
    rw [← whole, divides.chars, List.append_assoc]
  obtain ⟨kept, rfl, -⟩ := Text.exists_append_of_byteSize_le fromStart first
  obtain ⟨back, tested, -⟩ :=
    Text.exists_append_of_byteSize_le (whole.symm.trans divides.chars) last
  rw [List.append_assoc, List.append_cancel_left_eq] at tested
  exact ⟨kept, back, tested, rfl⟩

theorem movesTo_reset (divides : c.Divides before pending rest) {checkpoint : Nat}
    (inside : c.CanReset checkpoint) :
    ∃ kept back c', pending = kept ++ back ∧ checkpoint = Text.byteSize (before ++ kept) ∧
      c.reset checkpoint = .ok c' ∧ c.MovesTo c' before kept (back ++ rest) := by
  obtain ⟨kept, back, rfl, offset⟩ := divides.exists_parts_of_canReset inside
  refine ⟨kept, back, _, rfl, offset, divides.valid.reset_eq inside, ⟨?_, divides.start, offset⟩, rfl⟩
  rw [divides.chars]
  simp only [List.append_assoc]

theorem movesTo_extract (divides : c.Divides before pending rest) (skip : Skip) (suffix : Nat) :
    ∃ c', c.extract skip suffix = .ok (String.ofList (extracted pending rest skip suffix), c') ∧
      c.MovesTo c' (before ++ pending ++ rest.take suffix) [] (rest.drop suffix) :=
  ⟨_, divides.extract_eq skip suffix, divides.divides_settled suffix, rfl⟩

end Divides

/-- On a cursor that divides its text into three lists, every reading shows a list or a part of
one, and every move takes characters from one list to the next. -/
theorem operations_on_parts (divides : c.Divides before pending rest) :
    ((∀ n, c.peek n = .ok rest[n]?) ∧ c.current = .ok rest[0]? ∧
      c.consumed = .ok pending.length ∧ c.pending = .ok pending ∧ c.rest = .ok rest) ∧
    (∀ n, ∃ c', c.advance n = .ok (!(rest.drop n).isEmpty, c') ∧
      c.MovesTo c' before (pending ++ rest.take n) (rest.drop n)) ∧
    (∀ n, ∃ c', c.commit n = .ok c' ∧
      c.MovesTo c' (before ++ pending ++ rest.take n) [] (rest.drop n)) ∧
    c.MovesTo c.rewind before [] (pending ++ rest) ∧
    (∀ checkpoint, c.CanReset checkpoint →
      ∃ kept back c', pending = kept ++ back ∧ checkpoint = Text.byteSize (before ++ kept) ∧
        c.reset checkpoint = .ok c' ∧ c.MovesTo c' before kept (back ++ rest)) ∧
    (∀ k m, ∃ c', c.extract (.chars k) m =
        .ok (String.ofList ((pending ++ rest.take m).drop k), c') ∧
      c.MovesTo c' (before ++ pending ++ rest.take m) [] (rest.drop m)) ∧
    ∀ m, ∃ c', c.extract .consumed m = .ok (String.ofList (rest.take m), c') ∧
      c.MovesTo c' (before ++ pending ++ rest.take m) [] (rest.drop m) := by
  refine ⟨⟨divides.peek_eq, ?_, divides.consumed_eq, divides.pending_eq, divides.rest_eq⟩,
    divides.movesTo_advance, divides.movesTo_commit, divides.movesTo_rewind,
    fun checkpoint inside => divides.movesTo_reset inside,
    fun k m => divides.movesTo_extract (.chars k) m, divides.movesTo_extract .consumed⟩
  rw [divides.current_eq, List.head?_eq_getElem?]

/-- Between characters of one to four bytes, the largest of all counts takes the rest of the text,
and a reset gives back the last character tested. -/
theorem operations_on_parts_wide :
    ∃ c : Cursor, c.Divides ['a'] ['é', '€'] ['😀', 'b'] ∧ c.peek 1 = .ok (some 'b') ∧
      (∃ c', c.extract (.chars 1) (UInt64.size - 1) = .ok ("€😀b", c') ∧ c'.start = 11 ∧ c'.pos = 11) ∧
      ∃ c', c.reset 3 = .ok c' ∧ c'.Divides ['a'] ['é'] ['€', '😀', 'b'] := by
  have divides : Divides { ofString "aé€😀b" with pos := 6, start := 1 }
      ['a'] ['é', '€'] ['😀', 'b'] := ⟨by decide, by decide, by decide⟩
  obtain ⟨⟨peek, -⟩, -, -, -, reset, extract, -⟩ := operations_on_parts divides
  refine ⟨_, divides, peek 1, ?_, ?_⟩
  · obtain ⟨c', value, moved⟩ := extract 1 (UInt64.size - 1)
    exact ⟨c', value, moved.divides.start, moved.divides.pos⟩
  · obtain ⟨-, -, c', -, -, moved, -⟩ := reset 3 (by decide)
    refine ⟨c', moved, ?_⟩
    cases moved
    exact ⟨by decide, by decide, by decide⟩

end Lexing.Cursor
