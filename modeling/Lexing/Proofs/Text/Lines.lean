import Mathlib
import Lexing.Text.Case

/-! # Lines of a text

A line feed ends a line. The lines of a text that have ended and the one still open are its two
parts around the last line feed, and the open line of a beginning of a text, continued up to the
next line feed, is the line of the text whose number is the number of line feeds before it. As far
as case goes, a line feed is like no other character.
-/

namespace Lexing.Text

/-- The text up to and with its last line feed. -/
def endedLines (text : List Char) : List Char := text.rdropWhile (· != '\n')

/-- The text behind its last line feed. -/
def openLine (text : List Char) : List Char := text.rtakeWhile (· != '\n')

theorem endedLines_append_openLine (text : List Char) : endedLines text ++ openLine text = text :=
  List.rdropWhile_append_rtakeWhile

theorem endedLines_lineFeed (text : List Char) : endedLines (text ++ ['\n']) = text ++ ['\n'] :=
  List.rdropWhile_concat_neg _ _ _ (by decide)

/-- Text without a line feed stays on the open line. -/
theorem endedLines_append {segment : List Char} (free : '\n' ∉ segment) (text : List Char) :
    endedLines (text ++ segment) = endedLines text := by
  have plain : ∀ char ∈ segment.reverse, (char != '\n') = true := by
    intro char member
    have other : char ≠ '\n' := fun same => free (same ▸ List.mem_reverse.mp member)
    simpa using other
  rw [endedLines, List.rdropWhile, List.reverse_append, List.dropWhile_append_of_pos plain]
  rfl

/-! ## Numbering lines -/

theorem length_splitOn (text : List Char) :
    (text.splitOn '\n').length = text.count '\n' + 1 := by
  induction text with
  | nil => rfl
  | cons char text ih =>
    rw [List.splitOn_cons_eq_if_modifyHead]
    by_cases feed : char = '\n'
    · simp [feed, ih]
    · simp [feed, ih]

theorem head?_splitOn (text : List Char) :
    (text.splitOn '\n').head? = some (text.takeWhile (· != '\n')) := by
  induction text with
  | nil => rfl
  | cons char text ih =>
    rw [List.splitOn_cons_eq_if_modifyHead]
    by_cases feed : char = '\n'
    · simp [feed]
    · simp [feed, ih]

/-- The line that a beginning of a text leaves open has the number of line feeds in the beginning,
and goes on to the next line feed. -/
theorem getElem?_splitOn (before rest : List Char) :
    ((before ++ rest).splitOn '\n')[before.count '\n']? =
      some (openLine before ++ rest.takeWhile (· != '\n')) := by
  -- From the right, each character either continues the open line or ends it.
  induction before using List.reverseRecOn generalizing rest with
  | nil =>
    change (rest.splitOn '\n')[0]? = some (rest.takeWhile (· != '\n'))
    rw [← List.head?_eq_getElem?, head?_splitOn]
  | append_singleton before char ih =>
    by_cases feed : char = '\n'
    · subst feed
      have ended : openLine (before ++ ['\n']) = [] := List.rtakeWhile_concat_neg _ _ _ (by decide)
      rw [List.append_assoc, List.singleton_append, List.splitOn_append_cons_self, List.count_append,
        List.count_singleton_self, List.getElem?_append_right (Nat.le_of_eq (length_splitOn before)),
        length_splitOn, Nat.sub_self, ← List.head?_eq_getElem?, head?_splitOn, ended, List.nil_append]
    · have continued : openLine (before ++ [char]) = openLine before ++ [char] :=
        List.rtakeWhile_concat_pos _ _ _ (by simpa using feed)
      have same : (before ++ [char]).count '\n' = before.count '\n' := by
        rw [List.count_append, List.count_singleton, if_neg (by simpa using feed), Nat.add_zero]
      rw [same, continued, List.append_assoc, List.append_assoc, List.singleton_append,
        List.singleton_append, ih, List.takeWhile_cons_of_pos (by simpa using feed)]

/-! ## Line feeds and case -/

theorem eq_of_ofNat_eq_lineFeed {code : Nat} (same : Char.ofNat code = '\n') : code = 10 := by
  rw [Char.ofNat] at same
  split at same
  · exact congrArg Char.toNat same
  · contradiction

/-- No letter shifts to a line feed: all of them stay above it. -/
theorem lowerShifts_above : ∀ shift ∈ lowerShifts, 10 < (shift.first : Int) + shift.delta := by
  have checked : (lowerShifts.all fun shift => 10 < (shift.first : Int) + shift.delta) = true := by
    decide
  simpa only [List.all_eq_true, decide_eq_true_eq] using checked

/-- A line feed is the lower-case form of nothing but itself. -/
theorem eq_lineFeed_of_lower {char : Char} (same : lower char = lower '\n') : char = '\n' := by
  have form : lower char = ['\n'] := same.trans (by decide)
  rw [lower, caseForm] at form
  split at form
  · next codes listed =>
    -- The one expansion has two characters.
    simp only [lowerExpansions, List.lookup] at listed
    split at listed
    · cases listed
      contradiction
    · contradiction
  · split at form
    · next shift found =>
      have covers := List.find?_some found
      have above := lowerShifts_above shift (List.mem_of_find?_eq_some found)
      have code := eq_of_ofNat_eq_lineFeed (List.head_eq_of_cons_eq form)
      simp only [CaseShift.covers, Bool.and_eq_true, decide_eq_true_eq] at covers
      rw [CaseShift.apply] at code
      omega
    · exact List.head_eq_of_cons_eq form

end Lexing.Text
