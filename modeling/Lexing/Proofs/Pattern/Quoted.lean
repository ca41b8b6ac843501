import Lexing.Proofs.Cursor.Zipper
import Lexing.Proofs.Recognizer.Choice

/-! # The grammar of quoted values

A quoted value is a delimiter, a text of quotable characters other than the delimiter, and the
delimiter again. `Quotes` says that a text begins so; there is one way at most in which it does.
`Unquoted` lists what keeps a text from beginning so: no delimiter comes first, the text ends before
the closing one, or a character comes before it that may not be quoted. Each text is one or the
other. The pattern takes the first kind and yields the text between the delimiters, without the
token in progress; it leaves the cursor alone at the second.
-/

namespace Lexing

namespace Pattern

variable {quote quotable : Char → Bool} {delimiter : Char} {interior after text : List Char}

/-- Characters that may stand between two delimiters. -/
def Interior (quotable : Char → Bool) (delimiter : Char) (text : List Char) : Prop :=
  ∀ char ∈ text, quotable char = true ∧ char ≠ delimiter

/-- A text begins with a quoted value, and `after` comes behind it. -/
structure Quotes (quote quotable : Char → Bool) (delimiter : Char) (interior after text : List Char) :
    Prop where
  text_eq : text = delimiter :: (interior ++ delimiter :: after)
  opens : quote delimiter = true
  inside : Interior quotable delimiter interior

/-- A text does not begin with a quoted value. -/
inductive Unquoted (quote quotable : Char → Bool) : List Char → Prop
  | empty : Unquoted quote quotable []
  | unopened {first : Char} {rest : List Char} (plain : quote first = false) :
      Unquoted quote quotable (first :: rest)
  /-- The text ends before the closing delimiter. -/
  | unclosed {delimiter : Char} {interior : List Char} (opens : quote delimiter = true)
      (inside : Interior quotable delimiter interior) :
      Unquoted quote quotable (delimiter :: interior)
  /-- Before the closing delimiter comes a character that may not be quoted. -/
  | broken {delimiter char : Char} {interior rest : List Char} (opens : quote delimiter = true)
      (inside : Interior quotable delimiter interior) (differs : char ≠ delimiter)
      (outside : quotable char = false) :
      Unquoted quote quotable (delimiter :: (interior ++ char :: rest))

/-! ## The text between the delimiters -/

theorem Interior.all (inside : Interior quotable delimiter interior) :
    ∀ char ∈ interior, (char != delimiter && quotable char) = true := by
  intro char member
  obtain ⟨quotes, differs⟩ := inside char member
  simp [quotes, differs]

/-- The text between the delimiters goes on until a character comes that is not part of it. -/
theorem Interior.takeWhile_eq (inside : Interior quotable delimiter interior) (rest : List Char)
    (stops : ∀ char, rest.head? = some char → (char != delimiter && quotable char) = false) :
    (interior ++ rest).takeWhile (fun char => char != delimiter && quotable char) = interior := by
  rw [List.takeWhile_append_of_pos inside.all]
  cases rest with
  | nil => exact List.append_nil interior
  | cons char rest =>
    rw [List.takeWhile_cons, stops char rfl]
    exact List.append_nil interior

theorem interior_takeWhile (quotable : Char → Bool) (delimiter : Char) (text : List Char) :
    Interior quotable delimiter
      (text.takeWhile fun char => char != delimiter && quotable char) := by
  intro char member
  have kept := List.all_eq_true.mp List.all_takeWhile char member
  rw [Bool.and_eq_true, bne_iff_ne] at kept
  exact kept.symm

/-! ## Texts that begin with a quoted value -/

theorem Quotes.quotedSpan?_eq (quotes : Quotes quote quotable delimiter interior after text) :
    quotedSpan? quote quotable text = some interior := by
  obtain ⟨rfl, opens, inside⟩ := quotes
  have scanned := inside.takeWhile_eq (delimiter :: after) (by simp)
  simp only [quotedSpan?, scanned, List.drop_left, List.head?_cons, opens, and_self, if_true]

theorem quotes_of_quotedSpan? (found : quotedSpan? quote quotable text = some interior) :
    ∃ delimiter after, Quotes quote quotable delimiter interior after text := by
  obtain ⟨delimiter, after, whole⟩ := quotedSpan?_eq_some found
  subst whole
  simp only [quotedSpan?] at found
  split at found
  · next closed =>
    have scanned := interior_takeWhile quotable delimiter (interior ++ delimiter :: after)
    rw [Option.some.inj found] at scanned
    exact ⟨delimiter, after, rfl, closed.1, scanned⟩
  · contradiction

/-- A text begins with a quoted value in one way only. -/
theorem Quotes.unique {delimiter' : Char} {interior' after' : List Char}
    (quotes : Quotes quote quotable delimiter interior after text)
    (quotes' : Quotes quote quotable delimiter' interior' after' text) :
    delimiter' = delimiter ∧ interior' = interior ∧ after' = after := by
  have same : interior' = interior :=
    Option.some.inj (quotes'.quotedSpan?_eq.symm.trans quotes.quotedSpan?_eq)
  have whole := quotes'.text_eq.symm.trans quotes.text_eq
  rw [same, List.cons.injEq] at whole
  obtain ⟨opening, tails⟩ := whole
  obtain ⟨-, rests⟩ := List.cons.inj (List.append_cancel_left tails)
  exact ⟨opening, same, rests⟩

/-! ## Texts that do not -/

theorem Unquoted.quotedSpan?_eq (unquoted : Unquoted quote quotable text) :
    quotedSpan? quote quotable text = none := by
  cases unquoted with
  | empty => rfl
  | unopened plain => simp [quotedSpan?, plain]
  | @unclosed delimiter interior opens inside =>
    have scanned := inside.takeWhile_eq [] (by simp)
    rw [List.append_nil] at scanned
    simp [quotedSpan?, scanned]
  | @broken delimiter char interior rest opens inside differs outside =>
    have scanned := inside.takeWhile_eq (char :: rest) (by simp [outside])
    simp only [quotedSpan?, scanned, List.drop_left, List.head?_cons, Option.some.injEq, differs,
      and_false, if_false]

/-- A text that does not begin with a quoted value has one of the four faults. -/
theorem unquoted_of_quotedSpan? (missing : quotedSpan? quote quotable text = none) :
    Unquoted quote quotable text := by
  cases text with
  | nil => exact .empty
  | cons delimiter rest =>
    cases opens : quote delimiter with
    | false => exact .unopened opens
    | true =>
      have inside := interior_takeWhile quotable delimiter rest
      have parts := List.takeWhile_append_dropWhile
        (p := fun char => char != delimiter && quotable char) (l := rest)
      generalize rest.takeWhile (fun char => char != delimiter && quotable char) = interior
        at inside parts
      cases stopped : rest.dropWhile fun char => char != delimiter && quotable char with
      | nil =>
        rw [stopped, List.append_nil] at parts
        subst parts
        exact .unclosed opens inside
      | cons char left =>
        rw [stopped] at parts
        have ends : (char != delimiter && quotable char) = false := by
          have head := List.head?_dropWhile_not (fun char => char != delimiter && quotable char) rest
          rw [stopped] at head
          simpa using head
        subst parts
        by_cases closes : char = delimiter
        · subst closes
          have quotes : Quotes quote quotable char interior left (char :: (interior ++ char :: left)) :=
            ⟨rfl, opens, inside⟩
          rw [quotes.quotedSpan?_eq] at missing
          contradiction
        · have outside : quotable char = false := by simpa [closes] using ends
          exact .broken opens inside closes outside

theorem unquoted_iff :
    Unquoted quote quotable text ↔
      ¬ ∃ delimiter interior after, Quotes quote quotable delimiter interior after text := by
  constructor
  · rintro unquoted ⟨delimiter, interior, after, quotes⟩
    have found := quotes.quotedSpan?_eq
    rw [unquoted.quotedSpan?_eq] at found
    contradiction
  · intro missing
    apply unquoted_of_quotedSpan?
    apply Option.eq_none_iff_forall_ne_some.mpr
    intro interior found
    obtain ⟨delimiter, after, quotes⟩ := quotes_of_quotedSpan? found
    exact missing ⟨delimiter, interior, after, quotes⟩

end Pattern

namespace Recognizer

variable {quote quotable : Char → Bool} {c : Cursor} {before pending rest : List Char}

/-- A quoted value becomes a token without its delimiters and without the token in progress, and the
cursor goes on behind it. -/
theorem recognize_of_quotes (divides : c.Divides before pending rest) {delimiter : Char}
    {interior after : List Char}
    (quotes : Pattern.Quotes quote quotable delimiter interior after rest) (kind : Kind) :
    ∃ c', (pattern (.quoted quote quotable)).recognize kind c =
        .ok (some ⟨kind, String.ofList interior⟩, c') ∧
      c.MovesTo c' (before ++ pending ++ delimiter :: (interior ++ [delimiter])) [] after := by
  have width : (Pattern.quoted quote quotable).width? before.reverse rest =
      some (interior.length + 2) := by
    rw [Pattern.width?, quotes.quotedSpan?_eq, Option.map_some]
  obtain rfl := quotes.text_eq
  have whole : delimiter :: (interior ++ delimiter :: after) =
      (delimiter :: (interior ++ [delimiter])) ++ after := by simp
  refine ⟨c.settledAt (c.pos + Text.byteSize (delimiter :: (interior ++ [delimiter]))), ?_, ?_, rfl⟩
  · rw [recognize_eq (r := pattern (.quoted quote quotable)) trivial divides, match?, width]
    simp only [Option.map_some, result, Pattern.result, Pattern.tokenOf, Pattern.value, Pattern.after,
      Pattern.lined, Pattern.take_quoted, List.tail_cons, List.dropLast_concat]
  · rw [whole] at divides
    exact divides.settled

/-- Where no quoted value begins, nothing is recognized and the cursor stays as it is. -/
theorem recognize_of_unquoted (divides : c.Divides before pending rest)
    (unquoted : Pattern.Unquoted quote quotable rest) (kind : Kind) :
    (pattern (.quoted quote quotable)).recognize kind c = .ok (none, c) := by
  rw [recognize_eq (r := pattern (.quoted quote quotable)) trivial divides, match?, Pattern.width?,
    unquoted.quotedSpan?_eq]
  rfl

/-- The pattern for quoted values matches exactly where one begins, which it does in one way only. The
token is the text between the delimiters, and the cursor goes on behind them. Everywhere else no
delimiter comes first, the text ends before the closing one, or a character comes before it that may
not be quoted, and the cursor stays as it is. So a text in delimiters is read back, whatever
follows. -/
theorem recognize_quoted_iff (divides : c.Divides before pending rest) (kind : Kind) :
    ((∃ token c', (pattern (.quoted quote quotable)).recognize kind c = .ok (some token, c')) ↔
      ∃ delimiter interior after, Pattern.Quotes quote quotable delimiter interior after rest) ∧
    (∀ delimiter interior after, Pattern.Quotes quote quotable delimiter interior after rest →
      (∀ delimiter' interior' after',
        Pattern.Quotes quote quotable delimiter' interior' after' rest →
          delimiter' = delimiter ∧ interior' = interior ∧ after' = after) ∧
      ∃ c', (pattern (.quoted quote quotable)).recognize kind c =
          .ok (some ⟨kind, String.ofList interior⟩, c') ∧
        c.MovesTo c' (before ++ pending ++ delimiter :: (interior ++ [delimiter])) [] after) ∧
    ((¬ ∃ delimiter interior after, Pattern.Quotes quote quotable delimiter interior after rest) →
      Pattern.Unquoted quote quotable rest ∧
      (pattern (.quoted quote quotable)).recognize kind c = .ok (none, c)) ∧
    ∀ delimiter interior, quote delimiter = true → Pattern.Interior quotable delimiter interior →
      ∀ follows, ∃ c', (pattern (.quoted quote quotable)).recognize kind
          (.ofString (String.ofList (delimiter :: (interior ++ delimiter :: follows)))) =
            .ok (some ⟨kind, String.ofList interior⟩, c') ∧ c'.rest = .ok follows := by
  refine ⟨⟨?_, ?_⟩, ?_, ?_, ?_⟩
  · rintro ⟨token, c', recognized⟩
    apply Classical.byContradiction
    intro missing
    rw [recognize_of_unquoted divides (Pattern.unquoted_iff.mpr missing)] at recognized
    cases recognized
  · rintro ⟨delimiter, interior, after, quotes⟩
    obtain ⟨c', recognized, -⟩ := recognize_of_quotes divides quotes kind
    exact ⟨_, c', recognized⟩
  · intro delimiter interior after quotes
    exact ⟨fun _ _ _ quotes' => quotes.unique quotes', recognize_of_quotes divides quotes kind⟩
  · intro missing
    have unquoted := Pattern.unquoted_iff.mpr missing
    exact ⟨unquoted, recognize_of_unquoted divides unquoted kind⟩
  · intro delimiter interior opens inside follows
    have start := Cursor.divides_ofString
      (String.ofList (delimiter :: (interior ++ delimiter :: follows)))
    rw [String.toList_ofList] at start
    obtain ⟨c', recognized, moved⟩ := recognize_of_quotes start ⟨rfl, opens, inside⟩ kind
    exact ⟨c', recognized, moved.divides.rest_eq⟩

/-- Behind a character in progress, double quotes hold a single one, although a double quote itself
may not be quoted. Where a line feed comes before the closing quote, the cursor is left alone. -/
theorem recognize_quoted_iff_apostrophe :
    ∃ (quotable : Char → Bool) (c c' d : Cursor),
      quotable '"' = false ∧ quotable '\n' = false ∧
      c.Divides ['x'] ['é'] ['"', 'i', 't', '\'', 's', '"', '€'] ∧
      (pattern (.quoted Text.isQuote quotable)).recognize ⟨1⟩ c = .ok (some ⟨⟨1⟩, "it's"⟩, c') ∧
      c'.Divides ['x', 'é', '"', 'i', 't', '\'', 's', '"'] [] ['€'] ∧
      d.Divides [] ['é'] ['"', 'i', 't', '\n', '"'] ∧
      (pattern (.quoted Text.isQuote quotable)).recognize ⟨1⟩ d = .ok (none, d) := by
  have divides : Cursor.Divides { Cursor.ofString "xé\"it's\"€" with pos := 3, start := 1 }
      ['x'] ['é'] ['"', 'i', 't', '\'', 's', '"', '€'] := ⟨by decide, by decide, by decide⟩
  have divides' : Cursor.Divides { Cursor.ofString "é\"it\n\"" with pos := 2 }
      [] ['é'] ['"', 'i', 't', '\n', '"'] := ⟨by decide, by decide, by decide⟩
  have inside : Pattern.Interior (Text.oneOf "it's") '"' ['i', 't', '\'', 's'] := by
    intro char member
    simp only [List.mem_cons, List.not_mem_nil, or_false] at member
    rcases member with rfl | rfl | rfl | rfl <;> decide
  have inside' : Pattern.Interior (Text.oneOf "it's") '"' ['i', 't'] := fun char member =>
    inside char (List.mem_append_left ['\'', 's'] member)
  have quotes : Pattern.Quotes Text.isQuote (Text.oneOf "it's") '"' ['i', 't', '\'', 's'] ['€']
      ['"', 'i', 't', '\'', 's', '"', '€'] := ⟨rfl, by decide, inside⟩
  have broken : Pattern.Unquoted Text.isQuote (Text.oneOf "it's") ['"', 'i', 't', '\n', '"'] :=
    .broken (by decide) inside' (by decide) (by decide)
  obtain ⟨-, accepted, -⟩ := recognize_quoted_iff divides ⟨1⟩
  obtain ⟨-, c', recognized, moved⟩ := accepted _ _ _ quotes
  obtain ⟨-, -, rejected, -⟩ := recognize_quoted_iff divides' ⟨1⟩
  obtain ⟨-, unchanged⟩ := rejected (Pattern.unquoted_iff.mp broken)
  exact ⟨_, _, c', _, by decide, by decide, divides, recognized, moved.divides, divides', unchanged⟩

end Recognizer

end Lexing
