import Mathlib.Data.List.Infix
import Lexing.Text.Offset

/-! # Searching the bytes of a text

A needle may be looked for among the characters of a text or among the bytes of its UTF-8 form. The
second search knows nothing of characters, yet it never stops inside one: the first byte of a
character is told from all its other bytes, and a needle begins with a first byte. So both searches
answer the same offset (`offsetOf?_eq_findBytes?`).
-/

namespace Lexing.Text

/-- The bytes of a text in UTF-8. -/
def bytes (text : List Char) : List UInt8 := text.flatMap String.utf8EncodeChar

/-- The offset of the first occurrence of some bytes among others. -/
def findBytes? (needle haystack : List UInt8) : Option Nat :=
  haystack.tails.findIdx? needle.isPrefixOf

theorem bytes_cons (char : Char) (text : List Char) :
    bytes (char :: text) = String.utf8EncodeChar char ++ bytes text := rfl

/-- The bytes of a text begin with those of a needle exactly if its characters do. -/
theorem bytes_prefix_iff {needle text : List Char} :
    bytes needle <+: bytes text ↔ needle <+: text := by
  constructor
  · rintro ⟨more, whole⟩
    apply List.isPrefix_of_utf8Encode_append_eq_utf8Encode more.toByteArray
    rw [List.utf8Encode, List.utf8Encode, ← List.toByteArray_append]
    exact congrArg List.toByteArray whole
  · rintro ⟨more, rfl⟩
    exact ⟨bytes more, List.flatMap_append.symm⟩

/-- Of the bytes of a character, the first and no other is one that characters begin with. -/
theorem exists_firstByte (char : Char) :
    ∃ first inner, String.utf8EncodeChar char = first :: inner ∧ first.IsUTF8FirstByte ∧
      (∀ byte ∈ inner, ¬ byte.IsUTF8FirstByte) ∧ inner.length + 1 = char.utf8Size := by
  have length := String.length_utf8EncodeChar char
  have firstOnly (i : Nat) (inside : i < (String.utf8EncodeChar char).length) :=
    @UInt8.isUTF8FirstByte_getElem_utf8EncodeChar char i inside
  cases encoded : String.utf8EncodeChar char with
  | nil => exact absurd encoded String.utf8EncodeChar_ne_nil
  | cons first inner =>
    simp only [encoded] at length firstOnly
    refine ⟨first, inner, rfl, (firstOnly 0 (Nat.zero_lt_succ _)).mpr rfl, ?_, length⟩
    intro byte member isFirst
    obtain ⟨i, inside, rfl⟩ := List.getElem_of_mem member
    have zero := (firstOnly (i + 1) (Nat.succ_lt_succ inside)).mp isFirst
    contradiction

/-! ## The two searches -/

theorem findBytes?_nil (haystack : List UInt8) : findBytes? [] haystack = some 0 := by
  cases haystack <;> rfl

theorem findBytes?_cons (needle : List UInt8) (byte : UInt8) (haystack : List UInt8) :
    findBytes? needle (byte :: haystack) =
      if needle.isPrefixOf (byte :: haystack) then some 0
      else (findBytes? needle haystack).map (· + 1) := by
  rw [findBytes?, List.tails_cons, List.findIdx?_cons]
  rfl

/-- Bytes that no character begins with are passed over. -/
theorem findBytes?_append {first : UInt8} {needle inner : List UInt8}
    (isFirst : first.IsUTF8FirstByte) (inside : ∀ byte ∈ inner, ¬ byte.IsUTF8FirstByte)
    (haystack : List UInt8) :
    findBytes? (first :: needle) (inner ++ haystack) =
      (findBytes? (first :: needle) haystack).map (· + inner.length) := by
  induction inner with
  | nil => exact (Option.map_id' ..).symm
  | cons byte inner ih =>
    obtain ⟨notFirst, later⟩ := List.forall_mem_cons.mp inside
    have differs : first ≠ byte := by
      rintro rfl
      exact notFirst isFirst
    have missed : (first :: needle).isPrefixOf (byte :: (inner ++ haystack)) = false := by
      simp [List.isPrefixOf, differs]
    rw [List.cons_append, findBytes?_cons, missed, if_neg Bool.false_ne_true, ih later,
      Option.map_map]
    rfl

/-- The search over characters and the search over bytes find the same offset. -/
theorem offsetOf?_eq_findBytes? (needle text : List Char) :
    offsetOf? needle text = findBytes? (bytes needle) (bytes text) := by
  cases needle with
  | nil =>
    rw [show bytes [] = [] from rfl, findBytes?_nil]
    cases text <;> rfl
  | cons head needle =>
    obtain ⟨first, others, encoded, isFirst, -, -⟩ := exists_firstByte head
    have starts : bytes (head :: needle) = first :: (others ++ bytes needle) := by
      rw [bytes_cons, encoded, List.cons_append]
    induction text with
    | nil => rw [starts]; rfl
    | cons char text ih =>
      obtain ⟨byte, inner, encoded, -, inside, length⟩ := exists_firstByte char
      have same : (head :: needle).isPrefixOf (char :: text) =
          (bytes (head :: needle)).isPrefixOf (bytes (char :: text)) := by
        rw [Bool.eq_iff_iff, List.isPrefixOf_iff_prefix, List.isPrefixOf_iff_prefix,
          bytes_prefix_iff]
      have passed : (fun offset => offset + inner.length + 1) = (char.utf8Size + ·) := by
        funext offset
        omega
      -- The needle may stand at the character, or else behind all of its bytes.
      rw [offsetOf?, same, ih, starts, bytes_cons, encoded, List.cons_append, findBytes?_cons,
        findBytes?_append isFirst inside, Option.map_map, ← passed]
      rfl

end Lexing.Text
