import Lexing.Json.Basic
import Lexing.Text.Offset

/-! # Strings in JSON

Writing escapes the quote, the backslash and the control characters below the space, five of them by
a short name. Reading takes every escape of JSON; a character beyond the first plane may be written
as a pair of surrogates, and a surrogate without its partner is refused. The readers start behind
the opening quote and end behind the closing one.
-/

namespace Lexing.Json

/-! ## Writing -/

/-- One character inside a written string. -/
def writeChar (c : Char) : List Char :=
  if c = '"' ∨ c = '\\' then ['\\', c]
  else if c = '\x08' then ['\\', 'b']
  else if c = '\x0c' then ['\\', 'f']
  else if c = '\n' then ['\\', 'n']
  else if c = '\r' then ['\\', 'r']
  else if c = '\t' then ['\\', 't']
  else if c.toNat < 0x20 then
    ['\\', 'u', '0', '0', Nat.digitChar (c.toNat / 16), Nat.digitChar (c.toNat % 16)]
  else [c]

/-- A string between quotes. -/
def writeText (text : List Char) : List Char := '"' :: text.flatMap writeChar ++ ['"']

/-! ## Reading -/

/-- The value of a hexadecimal digit. -/
def hexValue? (c : Char) : Option Nat :=
  if Text.isDigit c then some (c.toNat - '0'.toNat)
  else if 'a' ≤ c ∧ c ≤ 'f' then some (c.toNat - 'a'.toNat + 10)
  else if 'A' ≤ c ∧ c ≤ 'F' then some (c.toNat - 'A'.toNat + 10)
  else none

/-- The code unit that the next four bytes spell in hexadecimal. -/
def readUnit (text : List Char) : Except Error (Nat × List Char) :=
  if Text.byteSize (text.take 4) < 4 then .error .truncated
  else
    match (text.take 4).mapM hexValue? with
    | none => .error .malformed
    | some digits => .ok (digits.foldl (16 * · + ·) 0, text.drop 4)

/-- Units that start a pair of surrogates. -/
def isLeading (unit : Nat) : Bool := 0xD800 ≤ unit && unit ≤ 0xDBFF

/-- Units that end a pair of surrogates. -/
def isTrailing (unit : Nat) : Bool := 0xDC00 ≤ unit && unit ≤ 0xDFFF

/-- The character with a code that is written in units. -/
def readCode (text : List Char) : Except Error (Char × List Char) := do
  let (unit, text) ← readUnit text
  if isTrailing unit then .error .malformed
  else if isLeading unit then
    let text ← readWord ['\\', 'u'] text
    let (second, text) ← readUnit text
    if isTrailing second then
      return (Char.ofNat (0x10000 + (unit - 0xD800) * 0x400 + (second - 0xDC00)), text)
    else .error .malformed
  else return (Char.ofNat unit, text)

/-- The character that a letter after a backslash stands for. -/
def shortEscape? : Char → Option Char
  | '"' => some '"'
  | '\\' => some '\\'
  | '/' => some '/'
  | 'b' => some '\x08'
  | 'f' => some '\x0c'
  | 'n' => some '\n'
  | 'r' => some '\r'
  | 't' => some '\t'
  | _ => none

/-- The character of an escape, behind its backslash. -/
def readEscape : List Char → Except Error (Char × List Char)
  | [] => .error .truncated
  | c :: rest =>
    if c = 'u' then readCode rest
    else
      match shortEscape? c with
      | some char => .ok (char, rest)
      | none => .error .malformed

/-- The text after an escape, behind its backslash. A surrogate need not have a partner here. -/
def skipEscape : List Char → Except Error (List Char)
  | [] => .error .truncated
  | c :: rest =>
    if c = 'u' then (readUnit rest).map (·.2)
    else if (shortEscape? c).isSome then .ok rest
    else .error .malformed

theorem readUnit_length_le {text rest : List Char} {unit : Nat}
    (success : readUnit text = .ok (unit, rest)) : rest.length ≤ text.length := by
  simp only [readUnit] at success
  split at success
  · contradiction
  · split at success
    · contradiction
    · cases success
      simp

theorem readCode_length_le {text rest : List Char} {char : Char}
    (success : readCode text = .ok (char, rest)) : rest.length ≤ text.length := by
  simp only [readCode, bind, Except.bind] at success
  split at success
  · contradiction
  next unit first =>
    have bound := readUnit_length_le first
    split at success
    · contradiction
    · split at success
      · split at success
        · contradiction
        next middle word =>
          have := readWord_length_le word
          split at success
          · contradiction
          next second last =>
            have := readUnit_length_le last
            split at success
            · simp only [pure, Except.pure, Except.ok.injEq, Prod.mk.injEq] at success
              rw [← success.2]
              omega
            · contradiction
      · simp only [pure, Except.pure, Except.ok.injEq, Prod.mk.injEq] at success
        rw [← success.2]
        exact bound

theorem readEscape_length_lt {text rest : List Char} {char : Char}
    (success : readEscape text = .ok (char, rest)) : rest.length < text.length := by
  cases text with
  | nil => simp [readEscape] at success
  | cons c tail =>
    simp only [readEscape] at success
    simp only [List.length_cons]
    split at success
    · have := readCode_length_le success
      omega
    · split at success
      · cases success
        omega
      · contradiction

theorem skipEscape_length_lt {text rest : List Char} (success : skipEscape text = .ok rest) :
    rest.length < text.length := by
  cases text with
  | nil => simp [skipEscape] at success
  | cons c tail =>
    simp only [skipEscape] at success
    simp only [List.length_cons]
    split at success
    · cases unit : readUnit tail with
      | error error => simp [unit, Except.map] at success
      | ok pair =>
        have := readUnit_length_le unit
        simp only [unit, Except.map, Except.ok.injEq] at success
        subst success
        omega
    · split at success
      · cases success
        omega
      · contradiction

/-- The characters of a string up to its closing quote. -/
def readChars (text : List Char) : Except Error (List Char × List Char) :=
  match text with
  | [] => .error .truncated
  | c :: rest =>
    if c = '"' then .ok ([], rest)
    else if c = '\\' then
      match _success : readEscape rest with
      | .error error => .error error
      | .ok (char, rest) => do
        let (chars, rest) ← readChars rest
        return (char :: chars, rest)
    else if c.toNat < 0x20 then .error .malformed
    else do
      let (chars, rest) ← readChars rest
      return (c :: chars, rest)
termination_by text.length
decreasing_by
  · have := readEscape_length_lt _success
    simp only [List.length_cons]
    omega
  · simp

/-- The text after a string whose characters do not matter. -/
def skipChars (text : List Char) : Except Error (List Char) :=
  match text with
  | [] => .error .truncated
  | c :: rest =>
    if c = '"' then .ok rest
    else if c = '\\' then
      match _success : skipEscape rest with
      | .error error => .error error
      | .ok rest => skipChars rest
    else if c.toNat < 0x20 then .error .malformed
    else skipChars rest
termination_by text.length
decreasing_by
  · have := skipEscape_length_lt _success
    simp only [List.length_cons]
    omega
  · simp

end Lexing.Json
