import Lexing.Proofs.Pattern.Munch

/-! # Names and runs

A name is a character that may start it and the longest text behind it of characters that may
continue it. The pattern looks ahead to see how far a name reaches and takes it in one go. `Scans`
passes it a character at a time, each time looking whether the text has ended and whether the next
character continues the name. Both ways lead to the same token (`recognize_name_iff_scans`). A run
is a name whose characters may all start it.
-/

namespace Lexing

/-- The longest beginning of a text whose characters all satisfy a test ends before the first that
does not. -/
theorem Text.longestPrefix_takeWhile (test : Char → Bool) (text : List Char) :
    LongestPrefix (fun segment => ∀ char ∈ segment, test char = true)
      (text.takeWhile test) text where
  starts := List.takeWhile_prefix test
  formed := List.all_eq_true.mp List.all_takeWhile
  longest := by
    rintro other ⟨more, rfl⟩ satisfied
    rw [List.takeWhile_append_of_pos satisfied, List.length_append]
    exact Nat.le_add_right ..

namespace Cursor

/-! ## A character at a time -/

/-- Pass a character, and more of them while the text goes on with one that satisfies a test. -/
inductive Scans (test : Char → Bool) : Cursor → Cursor → Prop
  | stops {c c' : Cursor} {remains : Bool} {next : Option Char}
      (passed : c.advance 1 = .ok (remains, c')) (current : c'.current = .ok next)
      (refused : (remains && next.any test) = false) : Scans test c c'
  | continues {c c' c'' : Cursor} {remains : Bool} {next : Option Char}
      (passed : c.advance 1 = .ok (remains, c')) (current : c'.current = .ok next)
      (accepted : (remains && next.any test) = true) (later : Scans test c' c'') : Scans test c c''

variable {c c' : Cursor} {before pending tail : List Char} {head : Char} {test : Char → Bool}

/-- The cursor behind the next character. -/
def afterChar (c : Cursor) (char : Char) : Cursor := { c with pos := c.pos + char.utf8Size }

theorem Divides.advance_one (divides : c.Divides before pending (head :: tail)) :
    c.advance 1 = .ok (!tail.isEmpty, c.afterChar head) ∧
      (c.afterChar head).Divides before (pending ++ [head]) tail :=
  ⟨divides.advance_eq 1, divides.divides_advance 1⟩

/-- Behind a character, scanning goes on exactly if a character comes that satisfies the test. -/
theorem Divides.scans_step_iff (divides : c.Divides before pending (head :: tail)) :
    c.Scans test c' ↔
      if tail.head?.any test then (c.afterChar head).Scans test c' else c' = c.afterChar head := by
  obtain ⟨passed, divided⟩ := divides.advance_one
  have current := divided.current_eq
  -- At the end of the text there is no next character, so the test alone decides.
  have decides : (!tail.isEmpty && tail.head?.any test) = tail.head?.any test := by
    cases tail <;> rfl
  constructor
  · rintro (⟨passed', current', refused⟩ | ⟨passed', current', accepted, later⟩)
    · cases passed.symm.trans passed'
      cases current.symm.trans current'
      rw [← decides, refused, if_neg Bool.false_ne_true]
    · cases passed.symm.trans passed'
      cases current.symm.trans current'
      rw [← decides, accepted, if_pos rfl]
      exact later
  · split
    · next accepted => exact .continues passed current (decides.trans accepted)
    · next refused =>
      rintro rfl
      exact .stops passed current (decides.trans (Bool.eq_false_iff.mpr refused))

/-- Scanning passes the first character and then exactly those that satisfy the test. -/
theorem Divides.scans_iff (divides : c.Divides before pending (head :: tail)) :
    c.Scans test c' ↔
      c' = { c with pos := c.pos + Text.byteSize (head :: tail.takeWhile test) } := by
  induction tail generalizing c pending head with
  | nil => exact divides.scans_step_iff
  | cons next tail ih =>
    rw [divides.scans_step_iff, List.head?_cons, Option.any_some]
    split
    · next accepted =>
      rw [ih divides.advance_one.2, List.takeWhile_cons_of_pos accepted]
      simp only [afterChar, Text.byteSize_cons, Nat.add_assoc]
    · next refused =>
      rw [List.takeWhile_cons_of_neg refused]
      exact Iff.rfl

end Cursor

/-- A run goes as far as a name of which every character may be the first. -/
theorem Pattern.nameSpan_self (member : Char → Bool) (text : List Char) :
    nameSpan member member text = text.takeWhile member := by
  cases text with
  | nil => rfl
  | cons char text => rw [nameSpan, List.takeWhile_cons]

namespace Recognizer

variable {c : Cursor} {before pending rest tail : List Char} {head : Char}
  {first body : Char → Bool}

/-- Where a name starts, it becomes a token together with the token in progress. -/
theorem recognize_name_of_starts (divides : c.Divides before pending (head :: tail))
    (starts : first head = true) (kind : Kind) :
    (pattern (.name first body)).recognize kind c =
      .ok (some ⟨kind, String.ofList (pending ++ head :: tail.takeWhile body)⟩,
        c.settledAt (c.pos + Text.byteSize (head :: tail.takeWhile body))) := by
  have span : (head :: tail).take (head :: tail.takeWhile body).length =
      head :: tail.takeWhile body :=
    (List.prefix_iff_eq_take.mp ((List.prefix_cons_inj head).mpr (List.takeWhile_prefix body))).symm
  have width : (Pattern.name first body).width? before.reverse (head :: tail) =
      some (head :: tail.takeWhile body).length := by
    rw [Pattern.width?, Pattern.nameSpan, if_pos starts]
    rfl
  rw [recognize_eq (r := pattern (.name first body)) trivial divides, match?, width]
  simp only [Option.map_some, result, Pattern.result, Pattern.tokenOf, Pattern.value, Pattern.after,
    Pattern.lined, span]

/-- Where no name starts, nothing is recognized and the cursor stays as it is. -/
theorem recognize_name_of_not_starts (divides : c.Divides before pending rest)
    (missing : ¬ ∃ head tail, rest = head :: tail ∧ first head = true) (kind : Kind) :
    (pattern (.name first body)).recognize kind c = .ok (none, c) := by
  have empty : Pattern.nameSpan first body rest = [] := by
    cases rest with
    | nil => rfl
    | cons head tail => exact if_neg fun starts => missing ⟨head, tail, rfl, starts⟩
  apply recognize_of_width?_eq_none divides
  rw [Pattern.width?, empty]
  rfl

theorem starts_of_recognize_name (divides : c.Divides before pending rest) {kind : Kind}
    {token : Token} {c' : Cursor}
    (recognized : (pattern (.name first body)).recognize kind c = .ok (some token, c')) :
    ∃ head tail, rest = head :: tail ∧ first head = true := by
  apply Classical.byContradiction
  intro missing
  rw [recognize_name_of_not_starts divides missing] at recognized
  cases recognized

/-- A name is recognized exactly if it starts at the cursor and is taken after scanning it a
character at a time. -/
theorem recognize_name_iff_scans (divides : c.Divides before pending rest) {kind : Kind}
    {token : Token} {c' : Cursor} :
    (pattern (.name first body)).recognize kind c = .ok (some token, c') ↔
      token.kind = kind ∧ ∃ head scanned, c.current = .ok (some head) ∧ first head = true ∧
        c.Scans body scanned ∧ scanned.extractAll = .ok (token.value, c') := by
  -- Both sides know the first character, and then each has one result at most.
  have taken {head : Char} {tail : List Char} (divides : c.Divides before pending (head :: tail)) :
      Cursor.extractAll { c with pos := c.pos + Text.byteSize (head :: tail.takeWhile body) } =
        .ok (String.ofList (pending ++ head :: tail.takeWhile body),
          c.settledAt (c.pos + Text.byteSize (head :: tail.takeWhile body))) := by
    rw [← List.takeWhile_append_dropWhile (p := body) (l := tail), ← List.cons_append] at divides
    exact divides.moved.extractAll_eq
  constructor
  · intro recognized
    obtain ⟨head, tail, rfl, starts⟩ := starts_of_recognize_name divides recognized
    rw [recognize_name_of_starts divides starts] at recognized
    cases recognized
    exact ⟨rfl, head, _, divides.current_eq, starts, divides.scans_iff.mpr rfl, taken divides⟩
  · rintro ⟨rfl, head, scanned, current, starts, scans, extracted⟩
    obtain ⟨tail, rfl⟩ :=
      List.head?_eq_some_iff.mp (Except.ok.inj (divides.current_eq.symm.trans current))
    obtain rfl := divides.scans_iff.mp scans
    obtain ⟨value, rfl⟩ := Prod.mk.inj (Except.ok.inj ((taken divides).symm.trans extracted))
    rw [recognize_name_of_starts divides starts, value]

/-- A run is recognized as a name is, at every cursor. -/
theorem recognize_run_eq_name (member : Char → Bool) (kind : Kind) (c : Cursor) :
    (pattern (.run member)).recognize kind c =
      (pattern (.name member member)).recognize kind c := by
  rw [recognize, recognize, Pattern.recognize, Pattern.recognize]
  simp only [Pattern.nameSpan_self]

/-- A name is recognized exactly where a character comes that may start it. It is that character
with the longest text behind it of characters that may continue it, and the token in progress comes
before it in the token. The cursor goes on behind it, where no character continues it; a scan that
passes one character at a time leads there too. Everywhere else the cursor stays as it is. A run is
a name whose characters may all start it. -/
theorem recognize_name_iff (divides : c.Divides before pending rest) (first body : Char → Bool)
    (kind : Kind) :
    ((∃ token c', (pattern (.name first body)).recognize kind c = .ok (some token, c')) ↔
      ∃ head tail, rest = head :: tail ∧ first head = true) ∧
    (∀ head tail, rest = head :: tail → first head = true →
      ∃ more after c', tail = more ++ after ∧
        Text.LongestPrefix (fun segment => ∀ char ∈ segment, body char = true) more tail ∧
        (∀ char, after.head? = some char → body char = false) ∧
        (pattern (.name first body)).recognize kind c =
          .ok (some ⟨kind, String.ofList (pending ++ head :: more)⟩, c') ∧
        c.MovesTo c' (before ++ pending ++ head :: more) [] after) ∧
    ((¬ ∃ head tail, rest = head :: tail ∧ first head = true) →
      (pattern (.name first body)).recognize kind c = .ok (none, c)) ∧
    (∀ token c', (pattern (.name first body)).recognize kind c = .ok (some token, c') ↔
      token.kind = kind ∧ ∃ head scanned, c.current = .ok (some head) ∧ first head = true ∧
        c.Scans body scanned ∧ scanned.extractAll = .ok (token.value, c')) ∧
    ∀ (member : Char → Bool) (d : Cursor),
      (pattern (.run member)).recognize kind d =
        (pattern (.name member member)).recognize kind d := by
  refine ⟨⟨?_, ?_⟩, ?_, fun missing => recognize_name_of_not_starts divides missing kind,
    fun _ _ => recognize_name_iff_scans divides, fun member => recognize_run_eq_name member kind⟩
  · rintro ⟨token, c', recognized⟩
    exact starts_of_recognize_name divides recognized
  · rintro ⟨head, tail, rfl, starts⟩
    exact ⟨_, _, recognize_name_of_starts divides starts kind⟩
  · rintro head tail rfl starts
    refine ⟨tail.takeWhile body, tail.dropWhile body, _, List.takeWhile_append_dropWhile.symm,
      Text.longestPrefix_takeWhile body tail, ?_, recognize_name_of_starts divides starts kind, ?_,
      rfl⟩
    · intro char next
      have fails := List.head?_dropWhile_not body tail
      rw [next] at fails
      simpa using fails
    · rw [← List.takeWhile_append_dropWhile (p := body) (l := tail), ← List.cons_append] at divides
      exact divides.settled

/-- Behind a character in progress, a name of wide characters ends before the first that does not
continue it, and one at the end of the text is taken whole. Where a character comes that only
continues names, there is none. -/
theorem recognize_name_iff_wide :
    ∃ (first body : Char → Bool) (c c' d d' e : Cursor), first '1' = false ∧ body '1' = true ∧
      c.Divides ['-'] ['€'] ['é', '1', 'é', '😀'] ∧
      (pattern (.name first body)).recognize ⟨1⟩ c = .ok (some ⟨⟨1⟩, "€é1é"⟩, c') ∧
      c'.Divides ['-', '€', 'é', '1', 'é'] [] ['😀'] ∧
      d.Divides [] [] ['é', '1'] ∧
      (pattern (.name first body)).recognize ⟨1⟩ d = .ok (some ⟨⟨1⟩, "é1"⟩, d') ∧
      d'.Divides ['é', '1'] [] [] ∧
      e.Divides [] ['é'] ['1'] ∧ (pattern (.name first body)).recognize ⟨1⟩ e = .ok (none, e) := by
  have divides : Cursor.Divides { Cursor.ofString "-€é1é😀" with pos := 4, start := 1 }
      ['-'] ['€'] ['é', '1', 'é', '😀'] := ⟨by decide, by decide, by decide⟩
  have divides' : Cursor.Divides (Cursor.ofString "é1") [] [] ['é', '1'] :=
    Cursor.divides_ofString "é1"
  have divides'' : Cursor.Divides { Cursor.ofString "é1" with pos := 2 } [] ['é'] ['1'] :=
    ⟨by decide, by decide, by decide⟩
  have longest := Text.longestPrefix_takeWhile (Text.oneOf "é1") ['1', 'é', '😀']
  have longest' := Text.longestPrefix_takeWhile (Text.oneOf "é1") ['1']
  obtain ⟨-, taken, -⟩ := recognize_name_iff divides (Text.oneOf "é") (Text.oneOf "é1") ⟨1⟩
  obtain ⟨more, after, c', whole, most, -, recognized, moved⟩ := taken _ _ rfl (by decide)
  obtain rfl : ['1', 'é'] = more := most.unique longest
  obtain rfl : ['😀'] = after := by simpa using whole
  obtain ⟨-, taken', -⟩ := recognize_name_iff divides' (Text.oneOf "é") (Text.oneOf "é1") ⟨1⟩
  obtain ⟨more, after, d', whole', most', -, recognized', moved'⟩ := taken' _ _ rfl (by decide)
  obtain rfl : ['1'] = more := most'.unique longest'
  obtain rfl : [] = after := by simpa using whole'
  obtain ⟨-, -, refused, -⟩ := recognize_name_iff divides'' (Text.oneOf "é") (Text.oneOf "é1") ⟨1⟩
  refine ⟨_, _, _, c', _, d', _, by decide, by decide, divides, recognized, moved.divides, divides',
    recognized', moved'.divides, divides'', refused ?_⟩
  rintro ⟨head, tail, same, starts⟩
  cases same
  exact absurd starts (by decide)

end Recognizer

end Lexing
