/-! # Byte offsets into a text

A position in a text is counted in the bytes of its UTF-8 form. Not every number is a position: a
text can be cut only between two characters, and what cuts it answers `none` inside a character and
past the end.
-/

namespace Lexing.Text

/-- The number of bytes of a text in UTF-8. -/
def byteSize : List Char → Nat
  | [] => 0
  | c :: rest => c.utf8Size + byteSize rest

@[simp] theorem byteSize_nil : byteSize [] = 0 := rfl

@[simp] theorem byteSize_cons (c : Char) (rest : List Char) :
    byteSize (c :: rest) = c.utf8Size + byteSize rest := rfl

@[simp] theorem byteSize_append (left right : List Char) :
    byteSize (left ++ right) = byteSize left + byteSize right := by
  induction left with
  | nil => simp
  | cons c rest ih => simp [ih, Nat.add_assoc]

/-- The text up to a byte offset. -/
def takeBytes? : List Char → Nat → Option (List Char)
  | _, 0 => some []
  | [], _ + 1 => none
  | c :: rest, n + 1 =>
    if c.utf8Size ≤ n + 1 then (takeBytes? rest (n + 1 - c.utf8Size)).map (c :: ·) else none

theorem takeBytes?_append (left right : List Char) :
    takeBytes? (left ++ right) (byteSize left) = some left := by
  induction left with
  | nil => simp [takeBytes?]
  | cons c left ih =>
    have positive := c.utf8Size_pos
    obtain ⟨n, size⟩ : ∃ n, byteSize (c :: left) = n + 1 :=
      ⟨byteSize (c :: left) - 1, by simp only [byteSize_cons]; omega⟩
    have fits : c.utf8Size ≤ n + 1 := by simp only [byteSize_cons] at size; omega
    have rest : n + 1 - c.utf8Size = byteSize left := by simp only [byteSize_cons] at size; omega
    rw [size, List.cons_append, takeBytes?, if_pos fits, rest, ih]
    rfl

/-- The byte offset of the first occurrence of a needle; an empty needle occurs at once. -/
def offsetOf? (needle : List Char) : List Char → Option Nat
  | [] => if needle.isEmpty then some 0 else none
  | c :: rest =>
    if needle.isPrefixOf (c :: rest) then some 0
    else (offsetOf? needle rest).map (c.utf8Size + ·)

end Lexing.Text
