import Lexing.Text.Offset

/-! # Source texts

A source is a text together with all the ways to cut it in two, found by byte offset. Both halves of
every cut are parts of the same two lists, the text and its reverse, so the cuts take no more room
than the text, and reading at any offset costs only what is read. `splitAt?_eq_some_iff` says which
cuts there are.
-/

namespace Lexing

namespace Text

/-- The cuts of a text that follows `before`, by byte offset: the part before the cut with its last
character first, and the part after it. Inside a character there is none. -/
def cuts (before : List Char) : List Char → List (Option (List Char × List Char))
  | [] => [some (before, [])]
  | c :: rest =>
    some (before, c :: rest) ::
      (List.replicate (c.utf8Size - 1) none ++ cuts (c :: before) rest)

@[simp] theorem length_cuts (before text : List Char) :
    (cuts before text).length = byteSize text + 1 := by
  induction text generalizing before with
  | nil => rfl
  | cons c rest ih =>
    have := c.utf8Size_pos
    simp only [cuts, List.length_cons, List.length_append, List.length_replicate, ih, byteSize_cons]
    omega

theorem cuts_eq_some_iff {before text left right : List Char} {n : Nat} :
    ((cuts before text)[n]?).join = some (left, right) ↔
      ∃ middle, text = middle ++ right ∧ left = middle.reverse ++ before ∧ byteSize middle = n := by
  induction text generalizing before n with
  | nil =>
    cases n with
    | zero =>
      simp only [cuts, List.getElem?_cons_zero, Option.join_some, Option.some.injEq, Prod.mk.injEq]
      constructor
      · rintro ⟨rfl, rfl⟩
        exact ⟨[], rfl, rfl, rfl⟩
      · rintro ⟨middle, empty, rfl, -⟩
        obtain ⟨rfl, rfl⟩ := List.append_eq_nil_iff.mp empty.symm
        simp
    | succ n =>
      simp only [cuts, List.getElem?_cons_succ, List.getElem?_nil, Option.join_none]
      constructor
      · intro impossible
        contradiction
      · rintro ⟨middle, empty, -, size⟩
        obtain ⟨rfl, -⟩ := List.append_eq_nil_iff.mp empty.symm
        simp at size
  | cons c rest ih =>
    have positive := c.utf8Size_pos
    cases n with
    | zero =>
      simp only [cuts, List.getElem?_cons_zero, Option.join_some, Option.some.injEq, Prod.mk.injEq]
      constructor
      · rintro ⟨rfl, rfl⟩
        exact ⟨[], rfl, rfl, rfl⟩
      · rintro ⟨middle, whole, rfl, size⟩
        cases middle with
        | nil => simpa using whole
        | cons d middle =>
          have := d.utf8Size_pos
          simp only [byteSize_cons] at size
          omega
    | succ n =>
      simp only [cuts, List.getElem?_cons_succ]
      by_cases inside : n < c.utf8Size - 1
      · rw [List.getElem?_append_left (by simpa using inside), List.getElem?_replicate,
          if_pos inside]
        constructor
        · intro impossible
          contradiction
        · rintro ⟨middle, whole, -, size⟩
          cases middle with
          | nil => simp at size
          | cons d middle =>
            simp only [List.cons_append, List.cons.injEq] at whole
            obtain ⟨rfl, -⟩ := whole
            simp only [byteSize_cons] at size
            omega
      · rw [List.getElem?_append_right (by simpa using Nat.le_of_not_lt inside),
          List.length_replicate, ih]
        clear ih
        constructor
        · rintro ⟨middle, rfl, rfl, size⟩
          exact ⟨c :: middle, rfl, by simp, by simp only [byteSize_cons]; omega⟩
        · rintro ⟨middle, whole, rfl, size⟩
          cases middle with
          | nil => simp at size
          | cons d middle =>
            simp only [List.cons_append, List.cons.injEq] at whole
            obtain ⟨rfl, rfl⟩ := whole
            exact ⟨middle, rfl, by simp, by simp only [byteSize_cons] at size; omega⟩

end Text

/-- A text with its cuts. -/
structure Source where
  chars : List Char
  cuts : Array (Option (List Char × List Char))
  cuts_eq : cuts = (Text.cuts [] chars).toArray

namespace Source

/-- The source of a list of characters. -/
def ofList (chars : List Char) : Source := ⟨chars, (Text.cuts [] chars).toArray, rfl⟩

@[ext] theorem ext {a b : Source} (same : a.chars = b.chars) : a = b := by
  obtain ⟨chars, cuts, rfl⟩ := a
  obtain ⟨_, _, rfl⟩ := b
  subst same
  rfl

instance : DecidableEq Source := fun a b =>
  decidable_of_iff (a.chars = b.chars) ⟨ext, congrArg chars⟩

/-- Length of the text in bytes. -/
def size (source : Source) : Nat := source.cuts.size - 1

/-- The text before a byte offset, its last character first, and the text after it. -/
def splitAt? (source : Source) (offset : Nat) : Option (List Char × List Char) :=
  (source.cuts[offset]?).join

/-- Whether a byte offset lies between two characters or at an end of the text. -/
def isBoundary (source : Source) (offset : Nat) : Bool := (source.splitAt? offset).isSome

/-- The text between two byte offsets. -/
def slice? (source : Source) (first last : Nat) : Option (List Char) :=
  if first ≤ last then
    (source.splitAt? first).bind fun (_, after) => Text.takeBytes? after (last - first)
  else none

@[simp] theorem chars_ofList (chars : List Char) : (ofList chars).chars = chars := rfl

theorem size_eq (source : Source) : source.size = Text.byteSize source.chars := by
  obtain ⟨chars, cuts, rfl⟩ := source
  simp [size]

theorem splitAt?_eq_some_iff {source : Source} {offset : Nat} {before after : List Char} :
    source.splitAt? offset = some (before, after) ↔
      source.chars = before.reverse ++ after ∧ Text.byteSize before.reverse = offset := by
  obtain ⟨chars, cuts, rfl⟩ := source
  simp only [splitAt?, List.getElem?_toArray, Text.cuts_eq_some_iff, List.append_nil]
  constructor
  · rintro ⟨middle, whole, rfl, size⟩
    simpa using ⟨whole, size⟩
  · rintro ⟨whole, size⟩
    exact ⟨before.reverse, whole, by simp, size⟩

end Source

end Lexing
