import Lexing.Text.CaseTable

/-! # Letter case of characters

The lower- and upper-case forms of a character, as lists because a form may hold several
characters, and the comparison that ignores case.
-/

namespace Lexing.Text

/-- The form of a character given by a table of expansions and a table of shifts. -/
def caseForm (expansions : List (Nat × List Nat)) (shifts : List CaseShift) (c : Char) :
    List Char :=
  match expansions.lookup c.toNat with
  | some codes => codes.map Char.ofNat
  | none =>
    match shifts.find? (·.covers c.toNat) with
    | some shift => [Char.ofNat (shift.apply c.toNat)]
    | none => [c]

/-- The lower-case form of a character. -/
def lower (c : Char) : List Char := caseForm lowerExpansions lowerShifts c

/-- The upper-case form of a character. -/
def upper (c : Char) : List Char := caseForm upperExpansions upperShifts c

/-- Characters agree up to case when they are equal or their lower-case forms are. -/
def sameFolded (a b : Char) : Bool := a == b || lower a == lower b

theorem sameFolded_iff {a b : Char} : sameFolded a b = true ↔ lower a = lower b := by
  by_cases same : a = b <;> simp [sameFolded, same]

end Lexing.Text
