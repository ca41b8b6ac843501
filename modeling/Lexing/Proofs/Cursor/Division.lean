import Lexing.Cursor.Op

/-! # The division of a text by a cursor

A cursor whose offsets are in order cuts its text into three lists: the text that has become
tokens, the text of the token in progress, and the untested text. `Divides` ties the byte offsets of
a cursor to these lists, and `valid_iff_divides` says that such lists exist exactly for the cursors
whose offsets are in order. Each operation on a cursor has one equation here, which says in terms of
the three lists what it answers and where it leaves the offsets; no later proof opens an operation.
-/

namespace Lexing

@[simp] theorem ok_bind {ε α β : Type} (value : α) (next : α → Except ε β) :
    (Except.ok value >>= next) = next value := rfl

@[simp] theorem ok_map {ε α β : Type} (f : α → β) (value : α) :
    f <$> (Except.ok value : Except ε α) = .ok (f value) := rfl

theorem bind_eq_ok {ε α β : Type} {first : Except ε α} {next : α → Except ε β} {result : β} :
    (first >>= next) = .ok result ↔ ∃ value, first = .ok value ∧ next value = .ok result := by
  constructor
  · intro success
    cases first with
    | error error => cases success
    | ok value => exact ⟨value, rfl, success⟩
  · rintro ⟨value, rfl, success⟩
    exact success

namespace Text

@[simp] theorem byteSize_eq_zero_iff {text : List Char} : byteSize text = 0 ↔ text = [] := by
  cases text with
  | nil => simp
  | cons c rest =>
    have positive := c.utf8Size_pos
    simp only [byteSize_cons, reduceCtorEq, iff_false]
    omega

/-- Of two ways to cut one text, the one at the smaller offset lies inside the other. -/
theorem exists_append_of_byteSize_le {left right left' right' : List Char}
    (same : left ++ right = left' ++ right') (le : byteSize left ≤ byteSize left') :
    ∃ middle, left' = left ++ middle ∧ right = middle ++ right' := by
  rcases List.append_eq_append_iff.mp same with ⟨middle, rfl, rfl⟩ | ⟨middle, rfl, rfl⟩
  · exact ⟨middle, rfl, rfl⟩
  · have empty : byteSize middle = 0 := by
      rw [byteSize_append] at le
      omega
    obtain rfl := byteSize_eq_zero_iff.mp empty
    exact ⟨[], by simp, by simp⟩

theorem byteSize_take_le {text : List Char} {m n : Nat} (le : m ≤ n) :
    byteSize (text.take m) ≤ byteSize (text.take n) := by
  obtain ⟨more, whole⟩ := List.take_prefix_take_left le (l := text)
  rw [← whole, byteSize_append]
  omega

theorem min_byteSize_take (text : List Char) (m n : Nat) :
    min (byteSize (text.take m)) (byteSize (text.take n)) = byteSize ((text.take n).take m) := by
  rw [List.take_take]
  rcases Nat.le_total m n with le | le
  · rw [Nat.min_eq_left le, Nat.min_eq_left (byteSize_take_le le)]
  · rw [Nat.min_eq_right le, Nat.min_eq_right (byteSize_take_le le)]

/-- A needle that occurs is found behind a whole number of characters. -/
theorem offsetOf?_eq_some {needle text : List Char} {offset : Nat}
    (found : offsetOf? needle text = some offset) :
    ∃ before after, text = before ++ after ∧ byteSize before = offset := by
  induction text generalizing offset with
  | nil =>
    rw [offsetOf?] at found
    split at found
    · cases found
      exact ⟨[], [], rfl, rfl⟩
    · contradiction
  | cons c rest ih =>
    rw [offsetOf?] at found
    split at found
    · cases found
      exact ⟨[], c :: rest, rfl, rfl⟩
    · obtain ⟨distance, later, rfl⟩ := Option.map_eq_some_iff.mp found
      obtain ⟨before, after, rfl, rfl⟩ := ih later
      exact ⟨c :: before, after, rfl, rfl⟩

end Text

namespace Source

variable {source : Source} {before piece after : List Char}

/-- A text can be cut behind each of its beginnings. -/
theorem splitAt?_byteSize (whole : source.chars = before ++ after) :
    source.splitAt? (Text.byteSize before) = some (before.reverse, after) := by
  rw [splitAt?_eq_some_iff, List.reverse_reverse]
  exact ⟨whole, rfl⟩

theorem isBoundary_iff {offset : Nat} :
    source.isBoundary offset = true ↔
      ∃ before after, source.chars = before ++ after ∧ Text.byteSize before = offset := by
  rw [isBoundary, Option.isSome_iff_exists]
  constructor
  · rintro ⟨⟨before, after⟩, cut⟩
    exact ⟨before.reverse, after, splitAt?_eq_some_iff.mp cut⟩
  · rintro ⟨before, after, whole, rfl⟩
    exact ⟨_, splitAt?_byteSize whole⟩

theorem isBoundary_byteSize (whole : source.chars = before ++ after) :
    source.isBoundary (Text.byteSize before) = true :=
  isBoundary_iff.mpr ⟨before, after, whole, rfl⟩

theorem le_size_of_isBoundary {offset : Nat} (boundary : source.isBoundary offset = true) :
    offset ≤ source.size := by
  obtain ⟨before, after, whole, rfl⟩ := isBoundary_iff.mp boundary
  rw [size_eq, whole, Text.byteSize_append]
  omega

theorem slice?_byteSize (whole : source.chars = before ++ piece ++ after) :
    source.slice? (Text.byteSize before) (Text.byteSize (before ++ piece)) = some piece := by
  rw [List.append_assoc] at whole
  rw [slice?, if_pos (by simp), splitAt?_byteSize whole, Text.byteSize_append, Nat.add_sub_cancel_left]
  exact Text.takeBytes?_append piece after

/-- Two cuts in their order cut out a piece of the text. -/
theorem exists_slice? {first last : Nat} (le : first ≤ last)
    (firstCut : source.isBoundary first = true) (lastCut : source.isBoundary last = true) :
    ∃ piece, source.slice? first last = some piece := by
  obtain ⟨before, after, whole, rfl⟩ := isBoundary_iff.mp firstCut
  obtain ⟨before', after', whole', rfl⟩ := isBoundary_iff.mp lastCut
  obtain ⟨piece, rfl, rfl⟩ := Text.exists_append_of_byteSize_le (whole.symm.trans whole') le
  exact ⟨piece, slice?_byteSize whole'⟩

end Source

namespace Cursor

/-- The offsets of a cursor lie in the text, in their order, and between characters. -/
structure Valid (c : Cursor) : Prop where
  start_le_pos : c.start ≤ c.pos
  pos_le_size : c.pos ≤ c.size
  pos_boundary : c.source.isBoundary c.pos = true
  start_boundary : c.source.isBoundary c.start = true

/-- The text is `before ++ pending ++ rest`, and `pending` is the token in progress. -/
structure Divides (c : Cursor) (before pending rest : List Char) : Prop where
  chars : c.source.chars = before ++ pending ++ rest
  start : c.start = Text.byteSize before
  pos : c.pos = Text.byteSize (before ++ pending)

theorem divides_ofString (text : String) : (ofString text).Divides [] [] text.toList :=
  ⟨rfl, rfl, rfl⟩

variable {c : Cursor} {before pending rest : List Char}

theorem Divides.valid (divides : c.Divides before pending rest) : c.Valid where
  start_le_pos := by rw [divides.start, divides.pos, Text.byteSize_append]; omega
  pos_le_size := by
    rw [size, Source.size_eq, divides.chars, divides.pos, Text.byteSize_append _ rest]
    omega
  pos_boundary := by
    rw [divides.pos]
    exact Source.isBoundary_byteSize divides.chars
  start_boundary := by
    rw [divides.start]
    exact Source.isBoundary_byteSize (divides.chars.trans (List.append_assoc ..))

/-- The offsets of a cursor are in order exactly if they divide its text. -/
theorem valid_iff_divides :
    c.Valid ↔ ∃ before pending rest, c.Divides before pending rest := by
  constructor
  · rintro ⟨ordered, -, posCut, startCut⟩
    obtain ⟨before, after, whole, start⟩ := Source.isBoundary_iff.mp startCut
    obtain ⟨tested, rest, whole', pos⟩ := Source.isBoundary_iff.mp posCut
    obtain ⟨pending, rfl, rfl⟩ := Text.exists_append_of_byteSize_le (whole.symm.trans whole')
      (by omega)
    exact ⟨before, pending, rest, whole', start.symm, pos.symm⟩
  · rintro ⟨before, pending, rest, divides⟩
    exact divides.valid

/-- The text between two cuts in their order can be read. -/
theorem exists_textBetween {first last : Nat} (le : first ≤ last)
    (firstCut : c.source.isBoundary first = true) (lastCut : c.source.isBoundary last = true) :
    ∃ piece, c.textBetween first last = .ok piece := by
  obtain ⟨piece, cut⟩ := Source.exists_slice? le firstCut lastCut
  exact ⟨piece, by rw [textBetween, cut]⟩

/-- Two cursors differ in their offsets and lines at most. -/
structure Alike (c c' : Cursor) : Prop where
  source : c'.source = c.source
  nesting : c'.nesting = c.nesting
  canceled : c'.canceled = c.canceled
  error : c'.error = c.error

theorem Alike.trans {c c' c'' : Cursor} (first : c.Alike c') (second : c'.Alike c'') :
    c.Alike c'' where
  source := second.source.trans first.source
  nesting := second.nesting.trans first.nesting
  canceled := second.canceled.trans first.canceled
  error := second.error.trans first.error

/-- The cursor at an offset, with no token in progress. -/
def settledAt (c : Cursor) (offset : Nat) : Cursor := { c with pos := offset, start := offset }

namespace Divides

/-! ## Reading -/

theorem textFrom_start (divides : c.Divides before pending rest) :
    c.textFrom c.start = .ok (pending ++ rest) := by
  rw [textFrom, divides.start,
    Source.splitAt?_byteSize (divides.chars.trans (List.append_assoc ..))]

theorem rest_eq (divides : c.Divides before pending rest) : c.rest = .ok rest := by
  rw [Cursor.rest, textFrom, divides.pos, Source.splitAt?_byteSize divides.chars]

theorem pending_eq (divides : c.Divides before pending rest) : c.pending = .ok pending := by
  rw [Cursor.pending, textBetween, divides.start, divides.pos, Source.slice?_byteSize divides.chars]

theorem behind_eq (divides : c.Divides before pending rest) : c.behind = .ok before.reverse := by
  rw [behind, textBefore, divides.start,
    Source.splitAt?_byteSize (divides.chars.trans (List.append_assoc ..))]

theorem consumed_eq (divides : c.Divides before pending rest) :
    c.consumed = .ok pending.length := by
  rw [consumed, divides.pending_eq]
  rfl

theorem peek_eq (divides : c.Divides before pending rest) (n : Nat) : c.peek n = .ok rest[n]? := by
  rw [peek, divides.rest_eq]
  rfl

theorem current_eq (divides : c.Divides before pending rest) : c.current = .ok rest.head? := by
  rw [current, divides.rest_eq]
  rfl

/-- Where no token is in progress, the next one starts at the position. -/
theorem start_eq_pos (divides : c.Divides before [] rest) : c.start = c.pos := by
  rw [divides.start, divides.pos, List.append_nil]

theorem size_eq (divides : c.Divides before pending rest) :
    c.size = Text.byteSize (before ++ pending) + Text.byteSize rest := by
  rw [size, Source.size_eq, divides.chars, Text.byteSize_append]

theorem pos_lt_size_iff (divides : c.Divides before pending rest) :
    c.pos < c.size ↔ rest ≠ [] := by
  rw [divides.pos, divides.size_eq, ne_eq, ← Text.byteSize_eq_zero_iff]
  omega

theorem hasRemaining_eq (divides : c.Divides before pending rest) :
    c.hasRemaining = !rest.isEmpty := by
  rw [Bool.eq_iff_iff, hasRemaining, decide_eq_true_iff, divides.pos_lt_size_iff]
  simp

theorem pos_eq_size_iff (divides : c.Divides before pending rest) :
    c.pos = c.size ↔ rest = [] := by
  rw [divides.pos, divides.size_eq, ← Text.byteSize_eq_zero_iff]
  omega

/-- The text on either side of the token in progress can be read. -/
theorem exists_sideText (divides : c.Divides before pending rest) (side : Side) :
    ∃ text, c.sideText side = .ok text := by
  cases side with
  | ahead => exact ⟨rest, divides.rest_eq⟩
  | behind => exact ⟨before.reverse, divides.behind_eq⟩

theorem offsetAfter_pos (divides : c.Divides before pending rest) (n : Nat) :
    c.offsetAfter c.pos n = .ok (c.pos + Text.byteSize (rest.take n)) := by
  rw [offsetAfter, show c.textFrom c.pos = .ok rest from divides.rest_eq]
  rfl

theorem offsetAfter_start (divides : c.Divides before pending rest) (n : Nat) :
    c.offsetAfter c.start n = .ok (Text.byteSize (before ++ (pending ++ rest).take n)) := by
  rw [offsetAfter, divides.textFrom_start, divides.start, Text.byteSize_append]
  rfl

/-! ## Moving -/

variable {passed : List Char}

/-- The offset behind more characters is the size of all that lies before it. -/
theorem pos_add (divides : c.Divides before pending rest) (passed : List Char) :
    c.pos + Text.byteSize passed = Text.byteSize (before ++ pending ++ passed) := by
  rw [divides.pos, Text.byteSize_append _ passed]

/-- Testing more characters makes them a part of the token in progress. -/
theorem moved (divides : c.Divides before pending (passed ++ rest)) :
    { c with pos := c.pos + Text.byteSize passed }.Divides before (pending ++ passed) rest where
  chars := by rw [divides.chars]; simp only [List.append_assoc]
  start := divides.start
  pos := by rw [divides.pos_add, List.append_assoc]

/-- Passing more characters leaves them behind, and the token in progress with them. -/
theorem settled (divides : c.Divides before pending (passed ++ rest)) :
    (c.settledAt (c.pos + Text.byteSize passed)).Divides (before ++ pending ++ passed) [] rest where
  chars := by rw [settledAt, divides.chars]; simp only [List.append_assoc, List.nil_append]
  start := divides.pos_add passed
  pos := by rw [List.append_nil]; exact divides.pos_add passed

theorem checked_eq (divides : c.Divides before pending rest) : c.checked = .ok c := by
  obtain ⟨ordered, bounded, posCut, startCut⟩ := divides.valid
  rw [checked, if_neg (Nat.not_lt.mpr ordered), if_neg (Nat.not_lt.mpr bounded), posCut, startCut]
  rfl

theorem divides_advance (divides : c.Divides before pending rest) (n : Nat) :
    { c with pos := c.pos + Text.byteSize (rest.take n) }.Divides before
      (pending ++ rest.take n) (rest.drop n) := by
  rw [← List.take_append_drop n rest] at divides
  exact divides.moved

theorem advance_eq (divides : c.Divides before pending rest) (n : Nat) :
    c.advance n = .ok (!(rest.drop n).isEmpty,
      { c with pos := c.pos + Text.byteSize (rest.take n) }) := by
  have moved := divides.divides_advance n
  rw [advance, divides.offsetAfter_pos, ok_bind, moved.checked_eq, ok_bind, moved.hasRemaining_eq]
  rfl

theorem divides_settled (divides : c.Divides before pending rest) (n : Nat) :
    (c.settledAt (c.pos + Text.byteSize (rest.take n))).Divides
      (before ++ pending ++ rest.take n) [] (rest.drop n) := by
  rw [← List.take_append_drop n rest] at divides
  exact divides.settled

theorem commit_eq (divides : c.Divides before pending rest) (n : Nat) :
    c.commit n = .ok (c.settledAt (c.pos + Text.byteSize (rest.take n))) := by
  rw [commit, divides.offsetAfter_pos]
  exact (divides.divides_settled n).checked_eq

theorem divides_rewind (divides : c.Divides before pending rest) :
    c.rewind.Divides before [] (pending ++ rest) where
  chars := by rw [rewind, divides.chars]; simp only [List.append_assoc, List.append_nil]
  start := divides.start
  pos := by rw [List.append_nil]; exact divides.start

/-- The value of an extraction: the token in progress with `suffix` more characters, less what is
left out. -/
def extracted (pending rest : List Char) (skip : Skip) (suffix : Nat) : List Char :=
  match skip with
  | .chars count => (pending ++ rest.take suffix).drop count
  | .consumed => rest.take suffix

theorem textBetween_eq (divides : c.Divides before pending rest) (left piece right : List Char)
    (whole : before ++ pending ++ rest = left ++ piece ++ right) :
    c.textBetween (Text.byteSize left) (Text.byteSize (left ++ piece)) = .ok piece := by
  rw [textBetween, Source.slice?_byteSize (divides.chars.trans whole)]

/-- The untested text from the position on. -/
theorem textBetween_pos (divides : c.Divides before pending rest) (n : Nat) :
    c.textBetween c.pos (c.pos + Text.byteSize (rest.take n)) = .ok (rest.take n) := by
  have cut := divides.textBetween_eq (before ++ pending) (rest.take n) (rest.drop n)
    (by rw [List.append_assoc _ (rest.take n), List.take_append_drop])
  rwa [← divides.pos_add, ← divides.pos] at cut

/-- Where the value of an extraction begins that leaves out so many characters. -/
theorem offsetAfter_start_min (divides : c.Divides before pending rest) (count suffix : Nat) :
    (min · (c.pos + Text.byteSize (rest.take suffix))) <$> c.offsetAfter c.start count =
      .ok (Text.byteSize (before ++ (pending ++ rest.take suffix).take count)) := by
  have piece : pending ++ rest.take suffix = (pending ++ rest).take (pending.length + suffix) := by
    rw [List.take_length_add_append]
  rw [divides.offsetAfter_start, ok_map, divides.pos_add, List.append_assoc, piece,
    Text.byteSize_append, Text.byteSize_append, Nat.add_min_add_left, Text.min_byteSize_take,
    ← Text.byteSize_append]

theorem extract_eq (divides : c.Divides before pending rest) (skip : Skip) (suffix : Nat) :
    c.extract skip suffix = .ok (String.ofList (extracted pending rest skip suffix),
      c.settledAt (c.pos + Text.byteSize (rest.take suffix))) := by
  have settled := (divides.divides_settled suffix).checked_eq
  cases skip with
  | chars count =>
    have cut := divides.textBetween_eq (before ++ (pending ++ rest.take suffix).take count)
      ((pending ++ rest.take suffix).drop count) (rest.drop suffix) (by
        rw [List.append_assoc before (List.take ..), List.take_append_drop]
        simp only [List.append_assoc, List.take_append_drop])
    rw [List.append_assoc before (List.take ..), List.take_append_drop, ← List.append_assoc,
      ← divides.pos_add] at cut
    rw [extract, divides.offsetAfter_pos, ok_bind]
    simp only [divides.offsetAfter_start_min, ok_bind]
    rw [cut, ok_bind]
    exact congrArg (· >>= _) settled
  | consumed =>
    rw [extract, divides.offsetAfter_pos, ok_bind]
    change (c.textBetween c.pos _ >>= _) = _
    rw [divides.textBetween_pos, ok_bind]
    exact congrArg (· >>= _) settled

theorem extractAll_eq (divides : c.Divides before pending rest) :
    c.extractAll = .ok (String.ofList pending, c.settledAt c.pos) := by
  have taken := divides.extract_eq (.chars 0) 0
  simpa only [extractAll, extracted, List.take_zero, List.append_nil, List.drop_zero,
    Text.byteSize_nil, Nat.add_zero] using taken

end Divides

end Cursor

end Lexing
