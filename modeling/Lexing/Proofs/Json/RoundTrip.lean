import Lexing.Json.Token
import Lexing.Proofs.Cursor.Division

/-! # Tokens through JSON and back

What is written is read back. Each reader is shown to take exactly what the writer of its kind of
value has written and to leave what comes behind it: a character with its escape, then a string; the
digits of a number, which have no leading zero and fit, then a kind; a field of an object, then a
token in each of its forms. The text behind a string may be any, as the closing quote ends it. A
number is ended by what follows, so there the next character must not go on with it.
-/

namespace Lexing

namespace Json

variable {c : Char} {rest left chars : List Char}

/-! ## Strings -/

theorem hexValue?_digitChar : ∀ d < 16, hexValue? (Nat.digitChar d) = some d := by decide

/-- Two hexadecimal digits behind two zeros are read as the number they spell. -/
theorem readUnit_digits {high low : Nat} (highDigit : high < 16) (lowDigit : low < 16)
    (rest : List Char) :
    readUnit ('0' :: '0' :: Nat.digitChar high :: Nat.digitChar low :: rest) =
      .ok (16 * high + low, rest) := by
  have long : ¬ Text.byteSize ['0', '0', Nat.digitChar high, Nat.digitChar low] < 4 := by
    have := (Nat.digitChar high).utf8Size_pos
    have := (Nat.digitChar low).utf8Size_pos
    have : '0'.utf8Size = 1 := rfl
    simp only [Text.byteSize_cons]
    omega
  have digits : ['0', '0', Nat.digitChar high, Nat.digitChar low].mapM hexValue? =
      some [0, 0, high, low] := by
    simp [hexValue?_digitChar high highDigit, hexValue?_digitChar low lowDigit,
      show hexValue? '0' = some 0 from rfl]
  simp only [readUnit, List.take_succ_cons, List.take_zero, if_neg long, digits]
  simp

/-- A control character that is written in hexadecimal is read back. -/
theorem readEscape_control (control : c.toNat < 0x20) (rest : List Char) :
    readEscape ('u' :: '0' :: '0' :: Nat.digitChar (c.toNat / 16) ::
      Nat.digitChar (c.toNat % 16) :: rest) = .ok (c, rest) := by
  have high : c.toNat / 16 < 16 := by omega
  have low : c.toNat % 16 < 16 := by omega
  have unit := readUnit_digits high low rest
  rw [Nat.div_add_mod] at unit
  have single : isTrailing c.toNat = false ∧ isLeading c.toNat = false := by
    simp only [isTrailing, isLeading, Bool.and_eq_false_iff, decide_eq_false_iff_not]
    omega
  rw [readEscape, if_pos rfl, readCode, unit]
  simp only [ok_bind, single]
  simp [pure, Except.pure]

/-- A character is written as an escape that is read as the character, or as it is where a string
may hold it. -/
theorem writeChar_cases (c : Char) :
    (∃ escape, writeChar c = '\\' :: escape ∧
      ∀ rest, readEscape (escape ++ rest) = .ok (c, rest)) ∨
    (writeChar c = [c] ∧ c ≠ '"' ∧ c ≠ '\\' ∧ ¬ c.toNat < 0x20) := by
  fun_cases writeChar c with
  | case1 marked =>
    left
    rcases marked with rfl | rfl
    · exact ⟨_, rfl, fun rest => rfl⟩
    · exact ⟨_, rfl, fun rest => rfl⟩
  | case2 _ named => exact .inl ⟨_, rfl, fun rest => named ▸ rfl⟩
  | case3 _ _ named => exact .inl ⟨_, rfl, fun rest => named ▸ rfl⟩
  | case4 _ _ _ named => exact .inl ⟨_, rfl, fun rest => named ▸ rfl⟩
  | case5 _ _ _ _ named => exact .inl ⟨_, rfl, fun rest => named ▸ rfl⟩
  | case6 _ _ _ _ _ named => exact .inl ⟨_, rfl, fun rest => named ▸ rfl⟩
  | case7 _ _ _ _ _ _ control => exact .inl ⟨_, rfl, readEscape_control control⟩
  | case8 unmarked _ _ _ _ _ printable =>
    rw [not_or] at unmarked
    exact .inr ⟨rfl, unmarked.1, unmarked.2, printable⟩

/-- A written character is read back. -/
theorem readChars_writeChar (later : readChars rest = .ok (chars, left)) (c : Char) :
    readChars (writeChar c ++ rest) = .ok (c :: chars, left) := by
  rcases writeChar_cases c with ⟨escape, written, read⟩ | ⟨written, notQuote, notSlash, printable⟩
  · rw [written, List.cons_append, readChars, if_neg (by decide), if_pos rfl]
    split
    · next error failed => cases (read rest).symm.trans failed
    · next char after success =>
      cases (read rest).symm.trans success
      rw [later]
      rfl
  · rw [written, List.singleton_append, readChars, if_neg notQuote, if_neg notSlash,
      if_neg printable, later]
    rfl

/-- The characters of a written string are read back, up to its closing quote. -/
theorem readChars_write (chars rest : List Char) :
    readChars (chars.flatMap writeChar ++ '"' :: rest) = .ok (chars, rest) := by
  induction chars with
  | nil => rw [List.flatMap_nil, List.nil_append, readChars, if_pos rfl]
  | cons c chars ih =>
    rw [List.flatMap_cons, List.append_assoc]
    exact readChars_writeChar ih c

theorem readString_writeText (value : String) (rest : List Char) :
    readString (writeText value.toList ++ rest) = .ok (value, rest) := by
  have opened : skipBlanks (writeText value.toList ++ rest) =
      '"' :: (value.toList.flatMap writeChar ++ '"' :: rest) := by
    rw [writeText, List.cons_append, List.cons_append, List.append_assoc]
    rfl
  rw [readString, opened]
  simp only [readChars_write, ok_bind, String.ofList_toList]
  rfl

/-! ## Numbers -/

/-- Whether a number that is read ends before a text. -/
def endsNumber (text : List Char) : Bool :=
  text.head?.all fun c => !Text.isDigit c && c != '.' && c != 'e' && c != 'E'

theorem isDigit_of_mem_toDigits {n : Nat} (member : c ∈ Nat.toDigits 10 n) :
    Text.isDigit c = true := by
  have digit := Nat.isDigit_of_mem_toDigits (by decide) (by decide) member
  simpa [Char.isDigit, Text.isDigit, Char.le_def] using digit

/-- Only zero is written with a zero in front. -/
theorem eq_zero_of_head?_toDigits {n : Nat} (zero : (Nat.toDigits 10 n).head? = some '0') :
    n = 0 := by
  induction n using Nat.strongRecOn with
  | ind n ih =>
    by_cases single : n < 10
    · rw [Nat.toDigits_of_lt_base single, List.head?_cons] at zero
      exact Nat.digitChar_eq_zero.mp (Option.some.inj zero)
    · rw [Nat.toDigits_of_base_le (by decide) (Nat.le_of_not_lt single), List.head?_append,
        List.head?_eq_some_head Nat.toDigits_ne_nil, Option.some_or,
        ← List.head?_eq_some_head] at zero
      have := ih (n / 10) (by omega) zero
      omega

/-- Digits whose number fits are all kept. -/
theorem Numeral.absorb_eq {digits : List Char} {n : Nat}
    (fits : Nat.ofDigitChars 10 digits n ≤ maxSignificand) :
    absorb n digits = (Nat.ofDigitChars 10 digits n, 0) := by
  induction digits generalizing n with
  | nil => rfl
  | cons c digits ih =>
    rw [Nat.ofDigitChars_cons, Nat.mul_comm] at fits ⊢
    have grows : n * 10 + (c.toNat - '0'.toNat) ≤
        Nat.ofDigitChars 10 digits (n * 10 + (c.toNat - '0'.toNat)) := by
      rw [Nat.ofDigitChars_eq_ofDigitChars_zero]
      exact Nat.le_add_right_of_le (Nat.le_mul_of_pos_left _ (Nat.pow_pos (by decide)))
    rw [absorb]
    simp only [if_pos (Nat.le_trans grows fits)]
    exact ih fits

/-- Digits are taken up to the first character that is none. -/
theorem readDigits_append {digits : List Char} (nonempty : digits ≠ [])
    (all : ∀ c ∈ digits, Text.isDigit c = true) (ends : endsNumber rest = true) :
    readDigits (digits ++ rest) = .ok (digits, rest) := by
  have stop : rest.takeWhile Text.isDigit = [] ∧ rest.dropWhile Text.isDigit = rest := by
    cases rest with
    | nil => exact ⟨rfl, rfl⟩
    | cons c rest =>
      have other : Text.isDigit c = false := by
        simp only [endsNumber, List.head?_cons, Option.all_some, Bool.and_eq_true,
          Bool.not_eq_true'] at ends
        exact ends.1.1.1
      simp [other]
  have taken : (digits ++ rest).takeWhile Text.isDigit = digits := by
    rw [List.takeWhile_append_of_pos all, stop.1, List.append_nil]
  have dropped : (digits ++ rest).dropWhile Text.isDigit = rest := by
    rw [List.dropWhile_append_of_pos all, stop.2]
  obtain ⟨c, digits, rfl⟩ := List.exists_cons_of_ne_nil nonempty
  rw [List.cons_append] at taken dropped ⊢
  rw [readDigits, if_pos (all c (List.mem_cons_self ..)), taken, dropped]

/-- A written number is taken whole. -/
theorem readWholePart_toDigits (n : Nat) (ends : endsNumber rest = true) :
    readWholePart (Nat.toDigits 10 n ++ rest) = .ok (Nat.toDigits 10 n, rest) := by
  have plain : ¬ ((Nat.toDigits 10 n).head? = some '0' ∧ (Nat.toDigits 10 n).length ≠ 1) := by
    rintro ⟨zero, long⟩
    obtain rfl := eq_zero_of_head?_toDigits zero
    exact long rfl
  rw [readWholePart, readDigits_append Nat.toDigits_ne_nil
    (fun c member => isDigit_of_mem_toDigits member) ends, ok_bind]
  exact if_neg plain

theorem readFraction_of_ends (ends : endsNumber rest = true) :
    readFraction rest = .ok (none, rest) := by
  cases rest with
  | nil => rfl
  | cons c rest =>
    rw [readFraction]
    · rfl
    · intro digits point
      cases point
      contradiction

theorem readExponent_of_ends (ends : endsNumber rest = true) :
    readExponent rest = .ok (none, rest) := by
  cases rest with
  | nil => rfl
  | cons c rest =>
    have other : ¬ (c = 'e' ∨ c = 'E') := by
      rintro (rfl | rfl)
      · contradiction
      · contradiction
    exact if_neg other

theorem readNumeral_toDigits {n : Nat} (fits : n ≤ Numeral.maxSignificand)
    (ends : endsNumber rest = true) (negative : Bool) :
    readNumeral negative (Nat.toDigits 10 n ++ rest) = .ok (⟨negative, n, 0, true⟩, rest) := by
  have kept : Numeral.absorb 0 (Nat.toDigits 10 n) = (n, 0) := by
    have value : Nat.ofDigitChars 10 (Nat.toDigits 10 n) 0 = n := Nat.ofDigitChars_ten_toDigits
    rw [Numeral.absorb_eq (value.symm ▸ fits), value]
  rw [readNumeral, readWholePart_toDigits n ends, ok_bind]
  simp only [readFraction_of_ends ends, readExponent_of_ends ends, ok_bind, kept]
  rfl

/-- A written number starts like one. -/
theorem exists_decimalDigits (n : Int) :
    ∃ c digits, Kind.decimalDigits n = c :: digits ∧ startsNumber c = true ∧
      (0 ≤ n → Text.isDigit c = true) := by
  by_cases negative : n < 0
  · exact ⟨'-', _, if_pos negative, rfl, fun positive => by omega⟩
  · obtain ⟨c, digits, written⟩ :=
      List.exists_cons_of_ne_nil (l := Nat.toDigits 10 n.natAbs) Nat.toDigits_ne_nil
    have digit : Text.isDigit c = true :=
      isDigit_of_mem_toDigits (written ▸ List.mem_cons_self ..)
    refine ⟨c, digits, (if_neg negative).trans written, ?_, fun _ => digit⟩
    rw [startsNumber, digit, Bool.true_or]

/-- A written number with its sign is taken whole. -/
theorem readNumber_decimalDigits {n : Int} (fits : n.natAbs ≤ Numeral.maxSignificand)
    (ends : endsNumber rest = true) :
    readNumber (Kind.decimalDigits n ++ rest) = .ok (⟨n < 0, n.natAbs, 0, true⟩, rest) := by
  by_cases negative : n < 0
  · rw [Kind.decimalDigits, if_pos negative, List.cons_append, readNumber]
    simpa [negative] using readNumeral_toDigits fits ends true
  · obtain ⟨c, digits, written, -, digit⟩ := exists_decimalDigits n
    have unsigned : ∀ after, Kind.decimalDigits n ++ rest = '-' :: after → False := by
      intro after signed
      rw [written] at signed
      cases signed
      exact absurd (digit (Int.not_lt.mp negative)) (by decide)
    rw [readNumber.eq_2 _ unsigned, Kind.decimalDigits, if_neg negative]
    simpa [negative] using readNumeral_toDigits fits ends false

theorem toInt32?_toInt (raw : Int32) :
    (⟨raw.toInt < 0, raw.toInt.natAbs, 0, true⟩ : Numeral).toInt32? = some raw := by
  have value : (if raw.toInt < 0 then -(raw.toInt.natAbs : Int) else raw.toInt.natAbs) =
      raw.toInt := by
    split
    · omega
    · omega
  have least := raw.minValue_le_toInt
  have greatest := raw.toInt_le
  have plain : ¬ (raw.toInt < 0 ∧ raw.toInt.natAbs = 0) := by omega
  simp only [Numeral.toInt32?, decide_eq_true_eq, value]
  rw [if_pos ⟨trivial, plain, least, greatest⟩, Int32.ofInt_toInt]

/-- No white space is skipped before a number. -/
theorem skipBlanks_of_startsNumber (starts : startsNumber c = true) (text : List Char) :
    skipBlanks (c :: text) = c :: text := by
  have solid : Text.isSpace c = false := by
    cases blank : Text.isSpace c with
    | false => rfl
    | true =>
      simp only [Text.isSpace, Bool.or_eq_true, beq_iff_eq] at blank
      rcases blank with ((rfl | rfl) | rfl) | rfl
      · contradiction
      · contradiction
      · contradiction
      · contradiction
  exact List.dropWhile_cons_of_neg (by rw [solid]; exact Bool.false_ne_true)

/-! ## Kinds and tokens -/

theorem exists_toJson (kind : Kind) :
    ∃ c digits, kind.toJson.toList = c :: digits ∧ startsNumber c = true := by
  obtain ⟨c, digits, written, starts, -⟩ := exists_decimalDigits kind.raw.toInt
  exact ⟨c, digits, String.toList_ofList.trans written, starts⟩

/-- A written kind is read back. -/
theorem readKind_toJson (kind : Kind) (ends : endsNumber rest = true) :
    readKind (kind.toJson.toList ++ rest) = .ok (kind, rest) := by
  have fits : kind.raw.toInt.natAbs ≤ Numeral.maxSignificand := by
    have least := kind.raw.le_toInt
    have greatest := kind.raw.toInt_lt
    have large : Numeral.maxSignificand = 2 ^ 64 - 1 := rfl
    omega
  have read : readNumber (kind.toJson.toList ++ rest) =
      .ok (⟨kind.raw.toInt < 0, kind.raw.toInt.natAbs, 0, true⟩, rest) := by
    rw [Kind.toJson, Kind.decimal, String.toList_ofList]
    exact readNumber_decimalDigits fits ends
  obtain ⟨c, digits, written, starts⟩ := exists_toJson kind
  rw [written, List.cons_append] at read ⊢
  have first : (c :: (digits ++ rest)).head?.any startsNumber = true := starts
  rw [readKind, skipBlanks_of_startsNumber starts, if_pos first, read]
  simp only [ok_bind, toInt32?_toInt]
  rfl

/-- A field of an object. -/
def writeField (key : String) (value : List Char) : List Char := writeText key.toList ++ ':' :: value

/-- An object of two fields, without blanks. -/
def writeObject (first second : List Char) : String :=
  String.ofList ('\x7b' :: first ++ ',' :: second ++ ['\x7d'])

/-- An array of two elements, without blanks. -/
def writeArray (first second : List Char) : String :=
  String.ofList ('[' :: first ++ ',' :: second ++ [']'])

end Json

namespace Token

/-- The field of a token with its kind. -/
def kindField (token : Token) : List Char := Json.writeField "kind" token.kind.toJson.toList

/-- The field of a token with its value. -/
def valueField (token : Token) : List Char :=
  Json.writeField "value" (Json.writeText token.value.toList)

theorem toJson_eq_writeObject (token : Token) :
    token.toJson = Json.writeObject token.kindField token.valueField := by
  have opening : "\x7b\"kind\":".toList = '\x7b' :: (Json.writeText "kind".toList ++ [':']) := rfl
  have middle : ",\"value\":".toList = ',' :: (Json.writeText "value".toList ++ [':']) := rfl
  unfold toJson
  rw [opening, middle, Json.writeObject, kindField, valueField, Json.writeField, Json.writeField]
  generalize Json.writeText "kind".toList = kindKey
  generalize Json.writeText "value".toList = valueKey
  simp only [List.append_assoc, List.cons_append, List.nil_append]

end Token

namespace Json

variable {rest : List Char}

/-- What stands before a key: a comma, unless it is the first. -/
def separator (first : Bool) : List Char := if first then [] else [',']

theorem nextKey?_writeField (first : Bool) (key : String) (value rest : List Char) :
    nextKey? first (separator first ++ writeField key value ++ rest) =
      .ok (some (key.toList.flatMap writeChar ++ '"' :: ':' :: (value ++ rest))) := by
  have written : writeField key value ++ rest =
      '"' :: (key.toList.flatMap writeChar ++ '"' :: ':' :: (value ++ rest)) := by
    simp [writeField, writeText]
  rw [List.append_assoc, written]
  cases first with
  | true => rfl
  | false => rfl

/-- The field of the kind is taken where no kind was read before. -/
theorem readFields_kindField (token : Token) (n : Nat) (first : Bool) (value? : Option String)
    (ends : endsNumber rest = true) :
    readFields (n + 1) first none value? (separator first ++ token.kindField ++ rest) =
      readFields n false (some token.kind) value? rest := by
  have colon : readMark ':' (':' :: (token.kind.toJson.toList ++ rest)) =
      .ok (token.kind.toJson.toList ++ rest) := rfl
  rw [readFields]
  · rw [Token.kindField, nextKey?_writeField, ok_bind]
    simp only [readChars_write, ok_bind, colon, readKind_toJson token.kind ends]
    rfl
  · nofun

/-- The field of the value is taken where no value was read before. -/
theorem readFields_valueField (token : Token) (n : Nat) (first : Bool) (kind? : Option Kind)
    (rest : List Char) :
    readFields (n + 1) first kind? none (separator first ++ token.valueField ++ rest) =
      readFields n false kind? (some token.value) rest := by
  have colon : readMark ':' (':' :: (writeText token.value.toList ++ rest)) =
      .ok (writeText token.value.toList ++ rest) := rfl
  rw [readFields]
  · rw [Token.valueField, nextKey?_writeField, ok_bind]
    simp only [readChars_write, ok_bind, colon, readString_writeText]
    rfl
  · nofun

/-- An object of two fields is read field by field. -/
theorem ofJson_writeObject {token : Token} {first second : List Char}
    (read : ∀ n, readFields (n + 3) true none none (first ++ ',' :: (second ++ ['\x7d'])) =
      .ok (token, [])) :
    Token.ofJson (writeObject first second) = .ok token := by
  have chars : (writeObject first second).toList =
      '\x7b' :: (first ++ ',' :: (second ++ ['\x7d'])) := by
    simp [writeObject]
  have fuel : (first ++ ',' :: (second ++ ['\x7d'])).length + 1 =
      first.length + second.length + 3 := by
    simp only [List.length_append, List.length_cons, List.length_nil]
    omega
  have opened : readToken ('\x7b' :: (first ++ ',' :: (second ++ ['\x7d']))) = .ok (token, []) := by
    rw [← read (first.length + second.length), ← fuel]
    rfl
  rw [Token.ofJson, chars, readWhole, opened]
  rfl

theorem ofJson_kindField_valueField (token : Token) :
    Token.ofJson (writeObject token.kindField token.valueField) = .ok token := by
  refine ofJson_writeObject fun n => ?_
  calc readFields (n + 3) true none none (token.kindField ++ ',' :: (token.valueField ++ ['\x7d']))
    _ = readFields (n + 2) false (some token.kind) none (',' :: (token.valueField ++ ['\x7d'])) :=
      readFields_kindField token (n + 2) true none rfl
    _ = readFields (n + 1) false (some token.kind) (some token.value) ['\x7d'] :=
      readFields_valueField token (n + 1) false (some token.kind) ['\x7d']
    _ = .ok (token, []) := rfl

theorem ofJson_valueField_kindField (token : Token) :
    Token.ofJson (writeObject token.valueField token.kindField) = .ok token := by
  refine ofJson_writeObject fun n => ?_
  calc readFields (n + 3) true none none (token.valueField ++ ',' :: (token.kindField ++ ['\x7d']))
    _ = readFields (n + 2) false none (some token.value) (',' :: (token.kindField ++ ['\x7d'])) :=
      readFields_valueField token (n + 2) true none _
    _ = readFields (n + 1) false (some token.kind) (some token.value) ['\x7d'] :=
      readFields_kindField token (n + 1) false (some token.value) rfl
    _ = .ok (token, []) := rfl

/-- The elements of an array of kind and value are taken up to its closing bracket. -/
theorem readElements_write (token : Token) (rest : List Char) :
    readElements (token.kind.toJson.toList ++
      ',' :: (writeText token.value.toList ++ ']' :: rest)) = .ok (token, rest) := by
  have opened : (skipBlanks (token.kind.toJson.toList ++
      ',' :: (writeText token.value.toList ++ ']' :: rest))).head? ≠ some ']' := by
    obtain ⟨c, digits, written, starts⟩ := exists_toJson token.kind
    rw [written, List.cons_append, skipBlanks_of_startsNumber starts, List.head?_cons]
    intro closed
    rw [Option.some.inj closed] at starts
    exact absurd starts (by decide)
  have comma : readMark ',' (',' :: (writeText token.value.toList ++ ']' :: rest)) =
      .ok (writeText token.value.toList ++ ']' :: rest) := rfl
  rw [readElements, if_neg opened, readKind_toJson token.kind rfl]
  simp only [ok_bind, comma, readString_writeText]
  rfl

theorem ofJson_writeArray (token : Token) :
    Token.ofJson (writeArray token.kind.toJson.toList (writeText token.value.toList)) =
      .ok token := by
  have chars : (writeArray token.kind.toJson.toList (writeText token.value.toList)).toList =
      '[' :: (token.kind.toJson.toList ++ ',' :: (writeText token.value.toList ++ [']'])) := by
    simp [writeArray]
  have opened : readToken ('[' :: (token.kind.toJson.toList ++
      ',' :: (writeText token.value.toList ++ [']']))) = .ok (token, []) :=
    readElements_write token []
  rw [Token.ofJson, chars, readWhole, opened]
  rfl

end Json

/-- A token is read back from the object it is written as, from the same object with its fields in
the other order, and from the array of the texts of its kind and its value. A kind is read back from
its number. Hence no two tokens are written alike. -/
theorem Token.read_back_from_json :
    (∀ token : Token, token.toJson = Json.writeObject token.kindField token.valueField ∧
      ofJson token.toJson = .ok token ∧
      ofJson (Json.writeObject token.valueField token.kindField) = .ok token ∧
      ofJson (Json.writeArray token.kind.toJson.toList (Json.writeText token.value.toList)) =
        .ok token) ∧
    (∀ kind : Kind, Kind.ofJson kind.toJson = .ok kind) ∧ Function.Injective toJson := by
  have object : ∀ token : Token, ofJson token.toJson = .ok token := by
    intro token
    rw [toJson_eq_writeObject]
    exact Json.ofJson_kindField_valueField token
  refine ⟨fun token => ⟨toJson_eq_writeObject token, object token,
    Json.ofJson_valueField_kindField token, Json.ofJson_writeArray token⟩, ?_, ?_⟩
  · intro kind
    have read := Json.readKind_toJson kind (show Json.endsNumber [] = true from rfl)
    rw [List.append_nil] at read
    rw [Kind.ofJson, Json.readWhole, read]
    rfl
  · intro first second same
    have read := object first
    rw [same, object second] at read
    exact (Except.ok.inj read).symm

example : (⟨⟨-2147483648⟩, "\x1f\"\\é\n"⟩ : Token).toJson =
    "\x7b\"kind\":-2147483648,\"value\":\"\\u001f\\\"\\\\é\\n\"\x7d" := rfl

end Lexing
