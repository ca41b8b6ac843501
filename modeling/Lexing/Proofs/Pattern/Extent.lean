import Lexing.Pattern
import Lexing.Proofs.Cursor.Division

/-! # The extent of a pattern

What a pattern does at a cursor is settled by two lists alone, the text behind the token in progress
and the untested text: `width?` is the number of characters the pattern covers there. The lemma
`recognize_eq` gives the whole result of a pattern in terms of its width: the token it makes and
the cursor it leaves, or the same cursor when it does not match. A pattern that matches covers at
least one character, and no more than there are (`width?_bounds`).
-/

namespace Lexing

namespace Matcher

theorem foldedMatch_eq_some {source literal : List Char} {width : Nat}
    (matched : foldedMatch source literal = some width) :
    width = literal.length ∧ literal.length ≤ source.length := by
  fun_induction foldedMatch source literal generalizing width with
  | case1 =>
    cases matched
    exact ⟨rfl, Nat.zero_le _⟩
  | case2 => contradiction
  | case3 found source expected literal same ih =>
    obtain ⟨shorter, tail, rfl⟩ := Option.map_eq_some_iff.mp matched
    have bounds := ih tail
    simp only [List.length_cons]
    omega
  | case4 => contradiction

theorem prefix_eq_some {source literal : List Char} {length width : Nat}
    (matched : (if literal.isPrefixOf source then some length else none) = some width) :
    width = length ∧ literal.length ≤ source.length := by
  split at matched
  · next starts =>
    cases matched
    exact ⟨rfl, (List.isPrefixOf_iff_prefix.mp starts).length_le⟩
  · contradiction

end Matcher

/-- A literal that is found has its own number of characters, and so many there are. -/
theorem Lookup.compare_eq_some {lookup : Lookup} {source literal : List Char} {width : Nat}
    (matched : lookup.resolve.compare source literal = some width) :
    width = literal.length ∧ literal.length ≤ source.length := by
  rcases lookup with ⟨_ | _, _ | _⟩
  · exact Matcher.prefix_eq_some matched
  · exact Matcher.foldedMatch_eq_some matched
  · simpa only [List.length_reverse] using Matcher.prefix_eq_some matched
  · simpa only [List.length_reverse] using Matcher.foldedMatch_eq_some matched

namespace Literals

variable {matcher : Matcher} {source : List Char} {entries : List String} {first index width : Nat}

/-- The search counts on from `first`, and stops at the first literal that the matcher accepts. -/
theorem findFrom_eq_some_iff :
    findFrom matcher source first entries = some (index, width) ↔
      ∃ place, index = first + place ∧
        (∃ literal, entries[place]? = some literal ∧
          matcher.compare source literal.toList = some width) ∧
        ∀ earlier ∈ entries.take place, matcher.compare source earlier.toList = none := by
  induction entries generalizing first with
  | nil => simp [findFrom]
  | cons head rest ih =>
    rw [findFrom]
    cases accepted : matcher.compare source head.toList with
    | some headWidth =>
      constructor
      · rintro ⟨⟩
        exact ⟨0, rfl, ⟨head, rfl, accepted⟩, by simp⟩
      · rintro ⟨place, rfl, ⟨literal, entry, matched⟩, missing⟩
        cases place with
        | zero =>
          cases entry
          cases accepted.symm.trans matched
          rfl
        | succ place =>
          have refused := missing head (by simp)
          cases accepted.symm.trans refused
    | none =>
      dsimp only
      rw [ih]
      constructor
      · rintro ⟨place, rfl, found, missing⟩
        refine ⟨place + 1, by omega, found, ?_⟩
        rw [List.take_succ_cons]
        exact List.forall_mem_cons.mpr ⟨accepted, missing⟩
      · rintro ⟨place, rfl, ⟨literal, entry, matched⟩, missing⟩
        cases place with
        | zero =>
          cases entry
          cases accepted.symm.trans matched
        | succ place =>
          rw [List.take_succ_cons] at missing
          exact ⟨place, by omega, ⟨literal, entry, matched⟩, (List.forall_mem_cons.mp missing).2⟩

theorem findFrom_eq_none_iff :
    findFrom matcher source first entries = none ↔
      ∀ literal ∈ entries, matcher.compare source literal.toList = none := by
  induction entries generalizing first with
  | nil => simp [findFrom]
  | cons head rest ih =>
    rw [findFrom, List.forall_mem_cons]
    cases accepted : matcher.compare source head.toList with
    | some width => simp
    | none => simpa using ih

theorem findFrom_eq_some (found : findFrom matcher source first entries = some (index, width)) :
    ∃ literal ∈ entries, matcher.compare source literal.toList = some width := by
  obtain ⟨place, -, ⟨literal, entry, matched⟩, -⟩ := findFrom_eq_some_iff.mp found
  exact ⟨literal, List.mem_of_getElem? entry, matched⟩

/-- No literal of a set is empty, so one that is found covers some text. -/
theorem find?_bounds {set : Literals} {lookup : Lookup} {source : List Char} {index width : Nat}
    (found : set.find? lookup.resolve source = some (index, width)) :
    0 < width ∧ width ≤ source.length := by
  obtain ⟨literal, member, matched⟩ := findFrom_eq_some found
  obtain ⟨rfl, bounded⟩ := Lookup.compare_eq_some matched
  have nonempty : literal.toList ≠ [] := by
    intro empty
    exact set.nonempty literal member (String.toList_eq_nil_iff.mp empty)
  exact ⟨List.length_pos_iff.mpr nonempty, bounded⟩

end Literals

namespace Pattern

/-! ## Spans -/

theorem nameSpan_isPrefix (first body : Char → Bool) (text : List Char) :
    nameSpan first body text <+: text := by
  cases text with
  | nil => exact List.prefix_refl []
  | cons c rest =>
    rw [nameSpan]
    split
    · exact List.prefix_cons_inj c |>.mpr (List.takeWhile_prefix body)
    · exact List.nil_prefix

theorem numberSpan_isPrefix (digit : Char → Bool) (separator : Char) (separated : Bool)
    (text : List Char) : numberSpan digit separator separated text <+: text := by
  induction text generalizing separated with
  | nil => exact List.prefix_refl []
  | cons c rest ih =>
    rw [numberSpan]
    split
    · split
      · exact List.nil_prefix
      · exact (List.prefix_cons_inj c).mpr (ih true)
    · split
      · exact (List.prefix_cons_inj c).mpr (ih separated)
      · exact List.nil_prefix

/-- A quoted value stands between two equal delimiters. -/
theorem quotedSpan?_eq_some {quote quotable : Char → Bool} {text interior : List Char}
    (found : quotedSpan? quote quotable text = some interior) :
    ∃ delimiter after, text = delimiter :: (interior ++ delimiter :: after) := by
  cases text with
  | nil => contradiction
  | cons delimiter rest =>
    simp only [quotedSpan?] at found
    split at found
    · next closed =>
      obtain ⟨after, tail⟩ := List.head?_eq_some_iff.mp closed.2
      obtain rfl := Option.some.inj found
      refine ⟨delimiter, after, ?_⟩
      have parts := List.take_append_drop (rest.takeWhile fun c => c != delimiter && quotable c).length rest
      rw [tail, List.prefix_iff_eq_take.mp (List.takeWhile_prefix _) |>.symm] at parts
      rw [parts]
    · contradiction

/-- A quoted value with its delimiters. -/
theorem take_quoted (delimiter : Char) (interior after : List Char) :
    (delimiter :: (interior ++ delimiter :: after)).take (interior.length + 2) =
      delimiter :: (interior ++ [delimiter]) := by
  rw [List.take_succ_cons, List.take_length_add_append]
  rfl

/-- The number of characters of one stride. -/
def strideLength (width : Nat) (ending : Bool) : Nat := if ending then width else 1

/-- The number of characters that strides pass. -/
def strideWidth (width : Nat) : List Bool → Nat
  | [] => 0
  | ending :: path => strideLength width ending + strideWidth width path

theorem strideWidth_strides_le (member : Char → Bool) (terminator text : List Char) :
    strideWidth terminator.length (strides member terminator text) ≤ text.length := by
  fun_induction strides member terminator text with
  | case1 => exact Nat.zero_le _
  | case2 c rest inside ending ih =>
    have fits := (List.isPrefixOf_iff_prefix.mp ending.2).length_le
    have positive := List.length_pos_iff.mpr ending.1
    rw [List.length_drop] at ih
    rw [List.length_cons] at fits
    rw [strideWidth, List.length_cons, strideLength, if_pos rfl]
    omega
  | case3 c rest inside plain ih =>
    rw [strideWidth, List.length_cons, strideLength, if_neg Bool.false_ne_true]
    omega
  | case4 => exact Nat.zero_le _

/-- A stride passes at least one character. -/
theorem strideWidth_strides_pos {member : Char → Bool} {terminator text : List Char}
    (strode : strides member terminator text ≠ []) :
    0 < strideWidth terminator.length (strides member terminator text) := by
  fun_cases strides member terminator text with
  | case1 => rw [strides] at strode; contradiction
  | case2 c rest inside ending =>
    have positive := List.length_pos_iff.mpr ending.1
    rw [strideWidth, strideLength, if_pos rfl]
    omega
  | case3 c rest inside plain =>
    rw [strideWidth, strideLength, if_neg Bool.false_ne_true]
    omega
  | case4 c rest outside => rw [strides, if_neg outside] at strode; contradiction

/-! ## Widths -/

/-- A number of characters, if it is not zero. -/
def positive? (n : Nat) : Option Nat := if n = 0 then none else some n

theorem positive?_eq_some {m n : Nat} (some : positive? m = some n) : 0 < n ∧ n = m := by
  unfold positive? at some
  split at some
  · contradiction
  · cases some
    omega

/-- The text on the side that a lookup compares with. -/
def sideOf (lookup : Lookup) (behind ahead : List Char) : List Char :=
  match lookup.side with
  | .ahead => ahead
  | .behind => behind

/-- The number of characters a pattern covers at the beginning of the text ahead, if it matches. The
text behind comes with its last character first. -/
def width? (shape : Pattern) (behind ahead : List Char) : Option Nat :=
  match shape with
  | name first body => positive? (nameSpan first body ahead).length
  | run member => positive? (ahead.takeWhile member).length
  | layout member terminator =>
    positive? (strideWidth terminator.length (strides member terminator.toList ahead))
  | quoted quote quotable => (quotedSpan? quote quotable ahead).map (·.length + 2)
  | number digit separator =>
    let span := numberSpan digit separator false ahead
    if span = [separator] then none else positive? span.length
  | literal set mode => (set.find? (Lookup.resolve ⟨.ahead, mode⟩) ahead).map (·.2)
  | conditional set condition options =>
    (set.find? (Lookup.resolve ⟨.ahead, options.matchMode⟩) ahead).bind fun (_, width) =>
      let present := condition.find? options.conditionLookup.resolve
        (sideOf options.conditionLookup behind ahead)
      if present.isSome = options.conditionNegated then none else some width

/-- A pattern that matches covers some text, and none that is not there. -/
theorem width?_bounds {shape : Pattern} {behind ahead : List Char} {n : Nat}
    (matched : shape.width? behind ahead = some n) : 0 < n ∧ n ≤ ahead.length := by
  cases shape with
  | name first body =>
    obtain ⟨positive, rfl⟩ := positive?_eq_some matched
    exact ⟨positive, (nameSpan_isPrefix first body ahead).length_le⟩
  | run member =>
    obtain ⟨positive, rfl⟩ := positive?_eq_some matched
    exact ⟨positive, (List.takeWhile_prefix member).length_le⟩
  | layout member terminator =>
    obtain ⟨positive, rfl⟩ := positive?_eq_some matched
    exact ⟨positive, strideWidth_strides_le member terminator.toList ahead⟩
  | quoted quote quotable =>
    obtain ⟨interior, found, rfl⟩ := Option.map_eq_some_iff.mp matched
    obtain ⟨delimiter, after, rfl⟩ := quotedSpan?_eq_some found
    simp only [List.length_cons, List.length_append]
    omega
  | number digit separator =>
    simp only [width?] at matched
    split at matched
    · contradiction
    · obtain ⟨positive, rfl⟩ := positive?_eq_some matched
      exact ⟨positive, (numberSpan_isPrefix digit separator false ahead).length_le⟩
  | literal set mode =>
    obtain ⟨⟨index, width⟩, found, rfl⟩ := Option.map_eq_some_iff.mp matched
    exact Literals.find?_bounds found
  | conditional set condition options =>
    obtain ⟨⟨index, width⟩, found, kept⟩ := Option.bind_eq_some_iff.mp matched
    dsimp only at kept
    split at kept
    · contradiction
    · cases kept
      exact Literals.find?_bounds found

theorem take_ne_nil_of_width? {shape : Pattern} {behind ahead : List Char} {n : Nat}
    (matched : shape.width? behind ahead = some n) : ahead.take n ≠ [] := by
  obtain ⟨positive, bounded⟩ := width?_bounds matched
  intro empty
  have length := congrArg List.length empty
  simp only [List.length_take, List.length_nil] at length
  omega

/-! ## What a match leaves -/

/-- The value of the token that a pattern makes of a segment, with the text pending before it. -/
def value (shape : Pattern) (pending segment : List Char) : List Char :=
  match shape with
  | name .. | run .. | layout .. | number .. => pending ++ segment
  | quoted .. => segment.tail.dropLast
  | literal .. | conditional .. => segment

/-- The token that a pattern makes of a segment. -/
def tokenOf (shape : Pattern) (kind : Kind) (pending segment : List Char) : Token :=
  ⟨kind, String.ofList (shape.value pending segment)⟩

/-- The cursor after one stride over the text ahead. -/
def afterStride (width : Nat) (ending : Bool) (ahead : List Char) (c : Cursor) : Cursor :=
  let next : Cursor :=
    { c with pos := c.pos + Text.byteSize (ahead.take (strideLength width ending)) }
  if ending then next.markNewLine else next

/-- The cursor after strides over the text ahead. -/
def afterStrides (width : Nat) : List Bool → List Char → Cursor → Cursor
  | [], _, c => c
  | ending :: path, ahead, c =>
    afterStrides width path (ahead.drop (strideLength width ending)) (afterStride width ending ahead c)

/-- The cursor with the lines noted that a pattern finds in the text ahead. Only layout has any. -/
def lined (shape : Pattern) (ahead : List Char) (c : Cursor) : Cursor :=
  match shape with
  | layout member terminator =>
    afterStrides terminator.length (strides member terminator.toList ahead) ahead c
  | _ => c

/-- The cursor behind a match of so many characters. -/
def after (shape : Pattern) (ahead : List Char) (n : Nat) (c : Cursor) : Cursor :=
  (shape.lined ahead c).settledAt (c.pos + Text.byteSize (ahead.take n))

/-- The result of a pattern of the given width: without one the cursor stays as it is. -/
def result (shape : Pattern) (kind : Kind) (pending ahead : List Char) (c : Cursor) :
    Option Nat → Option Token × Cursor
  | none => (none, c)
  | some n => (some (shape.tokenOf kind pending (ahead.take n)), shape.after ahead n c)

/-! ## What a match leaves alone -/

/-- Whether a pattern notes lines. -/
def isLayout : Pattern → Bool
  | layout .. => true
  | _ => false

theorem alike_afterStride (width : Nat) (ending : Bool) (ahead : List Char) (c : Cursor) :
    c.Alike (afterStride width ending ahead c) := by
  cases ending
  · exact ⟨rfl, rfl, rfl, rfl⟩
  · exact ⟨rfl, rfl, rfl, rfl⟩

theorem alike_afterStrides (width : Nat) (path : List Bool) (ahead : List Char) (c : Cursor) :
    c.Alike (afterStrides width path ahead c) := by
  induction path generalizing ahead c with
  | nil => exact ⟨rfl, rfl, rfl, rfl⟩
  | cons ending path ih => exact (alike_afterStride width ending ahead c).trans (ih _ _)

/-- A match moves the offsets and may note lines; nothing else of a cursor changes. -/
theorem alike_after (shape : Pattern) (ahead : List Char) (n : Nat) (c : Cursor) :
    c.Alike (shape.after ahead n c) := by
  cases shape with
  | layout member terminator =>
    obtain ⟨source, nesting, canceled, error⟩ := alike_afterStrides terminator.length
      (strides member terminator.toList ahead) ahead c
    exact ⟨source, nesting, canceled, error⟩
  | _ => exact ⟨rfl, rfl, rfl, rfl⟩

theorem lines_after {shape : Pattern} (plain : shape.isLayout = false) (ahead : List Char) (n : Nat)
    (c : Cursor) :
    (shape.after ahead n c).line = c.line ∧ (shape.after ahead n c).lineStart = c.lineStart := by
  cases shape with
  | layout member terminator => contradiction
  | _ => exact ⟨rfl, rfl⟩

section Recognizing

variable {c : Cursor} {before pending rest : List Char}

/-- Untested text of so many characters becomes a token together with the token in progress. -/
theorem advance_extractAll (divides : c.Divides before pending rest) (kind : Kind) (n : Nat) :
    (do
      let (_, c) ← c.advance n
      let (value, c) ← c.extractAll
      return (some (⟨kind, value⟩ : Token), c)) =
      (.ok (some ⟨kind, String.ofList (pending ++ rest.take n)⟩,
        c.settledAt (c.pos + Text.byteSize (rest.take n))) : Except Fault (Option Token × Cursor)) := by
  have extracted := (divides.divides_advance n).extractAll_eq
  rw [divides.advance_eq, ok_bind]
  dsimp only
  rw [extracted, ok_bind]
  rfl

theorem takeSpan_eq (divides : c.Divides before pending rest) (kind : Kind) (span : List Char) :
    takeSpan kind c span = .ok (match positive? span.length with
      | none => (none, c)
      | some n => (some ⟨kind, String.ofList (pending ++ rest.take n)⟩,
        c.settledAt (c.pos + Text.byteSize (rest.take n)))) := by
  cases span with
  | nil => rfl
  | cons first span => exact advance_extractAll divides kind (first :: span).length

theorem takeLiteral_eq (divides : c.Divides before pending rest) (kind : Kind) (width : Nat) :
    takeLiteral kind c width = .ok (some ⟨kind, String.ofList (rest.take width)⟩,
      c.settledAt (c.pos + Text.byteSize (rest.take width))) := by
  rw [takeLiteral, divides.extract_eq, ok_bind]
  rfl

theorem sideText_eq (divides : c.Divides before pending rest) (lookup : Lookup) :
    c.sideText lookup.resolve.side = .ok (sideOf lookup before.reverse rest) := by
  rw [Lookup.resolve_side]
  rcases lookup with ⟨_ | _, mode⟩
  · exact divides.rest_eq
  · exact divides.behind_eq

theorem matchAny_eq (divides : c.Divides before pending rest) (set : Literals) (lookup : Lookup) :
    c.matchAny set lookup = .ok (set.find? lookup.resolve (sideOf lookup before.reverse rest)) := by
  rw [Cursor.matchAny, Cursor.matchAnyWith, sideText_eq divides]
  rfl

theorem matchAny_ahead (divides : c.Divides before pending rest) (set : Literals) (mode : CaseMode) :
    c.matchAny set ⟨.ahead, mode⟩ = .ok (set.find? (Lookup.resolve ⟨.ahead, mode⟩) rest) :=
  matchAny_eq divides set ⟨.ahead, mode⟩

theorem stride_eq (width : Nat) (ending : Bool) (divides : c.Divides before pending rest) :
    stride width c ending = .ok (afterStride width ending rest c) := by
  cases ending
  · change (c.advance 1 >>= _) = _
    rw [divides.advance_eq]
    rfl
  · change (c.advance width >>= _) = _
    rw [divides.advance_eq]
    rfl

theorem divides_afterStride (width : Nat) (ending : Bool) (divides : c.Divides before pending rest) :
    (afterStride width ending rest c).Divides before
      (pending ++ rest.take (strideLength width ending)) (rest.drop (strideLength width ending)) := by
  obtain ⟨chars, start, pos⟩ := divides.divides_advance (strideLength width ending)
  cases ending
  · exact ⟨chars, start, pos⟩
  · exact ⟨chars, start, pos⟩

/-- Striding never fails, and what has been passed joins the token in progress. -/
theorem foldlM_stride (width : Nat) (path : List Bool) (divides : c.Divides before pending rest) :
    path.foldlM (stride width) c = .ok (afterStrides width path rest c) ∧
      (afterStrides width path rest c).Divides before
        (pending ++ rest.take (strideWidth width path)) (rest.drop (strideWidth width path)) := by
  induction path generalizing c pending rest with
  | nil =>
    refine ⟨rfl, ?_⟩
    simpa only [afterStrides, strideWidth, List.take_zero, List.append_nil, List.drop_zero]
      using divides
  | cons ending path ih =>
    obtain ⟨folded, final⟩ := ih (divides_afterStride width ending divides)
    rw [List.foldlM_cons, stride_eq width ending divides, ok_bind, folded]
    refine ⟨rfl, ?_⟩
    rw [strideWidth, List.take_add, ← List.append_assoc, ← List.drop_drop]
    exact final

theorem recognize_layout (divides : c.Divides before pending rest) (kind : Kind)
    (member : Char → Bool) (terminator : String) :
    (layout member terminator).recognize kind c =
      .ok ((layout member terminator).result kind pending rest c
        ((layout member terminator).width? before.reverse rest)) := by
  obtain ⟨folded, divided⟩ :=
    foldlM_stride terminator.length (strides member terminator.toList rest) divides
  rw [recognize, divides.rest_eq, ok_bind, width?]
  by_cases idle : strides member terminator.toList rest = []
  · simp only [idle]
    rfl
  · have passed : 0 < strideWidth terminator.length (strides member terminator.toList rest) :=
      strideWidth_strides_pos idle
    have width : positive? (strideWidth terminator.length (strides member terminator.toList rest)) =
        some (strideWidth terminator.length (strides member terminator.toList rest)) :=
      if_neg (Nat.ne_of_gt passed)
    simp only [List.isEmpty_iff, idle, if_false, width, result, after, lined]
    rw [folded, ok_bind, divided.extractAll_eq, ok_bind, divided.pos, ← List.append_assoc, divides.pos_add]
    rfl

/-- Past an opening delimiter and the text inside, that text becomes a token, and the cursor goes on
behind the closing delimiter. The token in progress is left out. -/
theorem advance_extract_commit {delimiter : Char} {interior after : List Char}
    (divides : c.Divides before pending (delimiter :: (interior ++ delimiter :: after)))
    (kind : Kind) :
    (do
      let (_, c) ← c.advance (interior.length + 1)
      let (value, c) ← c.extract (.chars (pending.length + 1)) 0
      return (some (⟨kind, value⟩ : Token), ← c.commit 1)) =
      (.ok (some ⟨kind, String.ofList interior⟩,
        c.settledAt (c.pos + Text.byteSize (delimiter :: (interior ++ [delimiter])))) :
          Except Fault (Option Token × Cursor)) := by
  have opening : (delimiter :: (interior ++ delimiter :: after)).take (interior.length + 1) =
      delimiter :: interior := by simp
  have closing : (delimiter :: (interior ++ delimiter :: after)).drop (interior.length + 1) =
      delimiter :: after := by simp
  have opened := divides.divides_advance (interior.length + 1)
  rw [opening, closing] at opened
  have inside : Cursor.Divides.extracted (pending ++ delimiter :: interior) (delimiter :: after)
      (.chars (pending.length + 1)) 0 = interior := by
    simp [Cursor.Divides.extracted, List.drop_append]
  have offset : c.pos + Text.byteSize (delimiter :: interior) + Text.byteSize [] +
      Text.byteSize [delimiter] = c.pos + Text.byteSize (delimiter :: (interior ++ [delimiter])) := by
    simp only [Text.byteSize_cons, Text.byteSize_append, Text.byteSize_nil]
    omega
  rw [divides.advance_eq, ok_bind, opening]
  dsimp only
  rw [opened.extract_eq, ok_bind, inside]
  dsimp only
  rw [(opened.divides_settled 0).commit_eq, ← offset]
  rfl

theorem recognize_quoted (divides : c.Divides before pending rest) (kind : Kind)
    (quote quotable : Char → Bool) :
    (quoted quote quotable).recognize kind c =
      .ok ((quoted quote quotable).result kind pending rest c
        ((quoted quote quotable).width? before.reverse rest)) := by
  rw [recognize, divides.rest_eq, ok_bind, width?]
  cases found : quotedSpan? quote quotable rest with
  | none => rfl
  | some interior =>
    obtain ⟨delimiter, after, rfl⟩ := quotedSpan?_eq_some found
    dsimp only
    rw [divides.consumed_eq, ok_bind, advance_extract_commit divides kind]
    simp only [Option.map_some, result, tokenOf, value, Pattern.after, take_quoted, List.tail_cons,
      List.dropLast_concat, lined]

/-- The result of a pattern at a cursor follows from its width there. -/
theorem recognize_eq (divides : c.Divides before pending rest) (shape : Pattern) (kind : Kind) :
    shape.recognize kind c =
      .ok (shape.result kind pending rest c (shape.width? before.reverse rest)) := by
  cases shape with
  | name first body =>
    rw [recognize, divides.rest_eq, ok_bind, takeSpan_eq divides, width?]
    cases positive? (nameSpan first body rest).length <;> rfl
  | run member =>
    rw [recognize, divides.rest_eq, ok_bind, takeSpan_eq divides, width?]
    cases positive? (rest.takeWhile member).length <;> rfl
  | layout member terminator => exact recognize_layout divides kind member terminator
  | quoted quote quotable => exact recognize_quoted divides kind quote quotable
  | number digit separator =>
    rw [recognize, divides.rest_eq, ok_bind, width?]
    by_cases lone : numberSpan digit separator false rest = [separator]
    · simp only [if_pos lone]
      rfl
    · simp only [if_neg lone, takeSpan_eq divides]
      cases positive? (numberSpan digit separator false rest).length <;> rfl
  | literal set mode =>
    rw [recognize, matchAny_ahead divides, ok_bind, width?]
    cases set.find? (Lookup.resolve ⟨.ahead, mode⟩) rest with
    | none => rfl
    | some entry => exact takeLiteral_eq divides kind entry.2
  | conditional set condition options =>
    rw [recognize, matchAny_ahead divides, ok_bind, width?]
    cases set.find? (Lookup.resolve ⟨.ahead, options.matchMode⟩) rest with
    | none => rfl
    | some entry =>
      simp only [matchAny_eq divides, ok_bind, Option.bind_some]
      by_cases refused : (condition.find? options.conditionLookup.resolve
          (sideOf options.conditionLookup before.reverse rest)).isSome = options.conditionNegated
      · simp only [if_pos refused]
        rfl
      · simp only [if_neg refused]
        exact takeLiteral_eq divides kind entry.2

/-! ## The cursor behind a match -/

theorem divides_after (divides : c.Divides before pending rest) (shape : Pattern) (n : Nat) :
    (shape.after rest n c).Divides (before ++ pending ++ rest.take n) [] (rest.drop n) := by
  obtain ⟨chars, start, pos⟩ := divides.divides_settled n
  refine ⟨?_, start, pos⟩
  rw [(shape.alike_after rest n c).source]
  exact chars

theorem pos_lt_after {behind : List Char} {shape : Pattern} {n : Nat}
    (matched : shape.width? behind rest = some n) : c.pos < (shape.after rest n c).pos := by
  have passed : Text.byteSize (rest.take n) ≠ 0 :=
    mt Text.byteSize_eq_zero_iff.mp (take_ne_nil_of_width? matched)
  change c.pos < c.pos + Text.byteSize (rest.take n)
  omega

end Recognizing

end Pattern

end Lexing
