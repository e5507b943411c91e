import FormulaMap.Text.CharacterRange

/-!
# Cutting by bytes

Cutting a text where so many bytes of its UTF-8 form end.  A character through which the cut goes
belongs to neither side.
-/

namespace FormulaMap
namespace Text

/-- The characters that a text starts with and that take up no more than so many bytes. -/
def takeBytes : Nat → List Char → List Char
  | _, [] => []
  | size, c :: rest =>
    if c.utf8Size ≤ size then c :: takeBytes (size - c.utf8Size) rest else []

/-- What follows the first so many bytes of a text. -/
def dropBytes : Nat → List Char → List Char
  | 0, cs => cs
  | _ + 1, [] => []
  | size + 1, c :: rest => dropBytes (size + 1 - c.utf8Size) rest

/-- The part that is taken is no longer than asked for. -/
theorem byteLength_takeBytes_le (size : Nat) (cs : List Char) :
    byteLength (takeBytes size cs) ≤ size := by
  induction cs generalizing size with
  | nil => simp [takeBytes, byteLength]
  | cons c rest ih =>
    simp only [takeBytes]
    split
    · rename_i h
      have := ih (size - c.utf8Size)
      simp only [byteLength, List.foldr_cons] at this ⊢
      omega
    · simp [byteLength]

/-- Nothing fits into no bytes. -/
@[simp]
theorem takeBytes_zero (cs : List Char) : takeBytes 0 cs = [] := by
  cases cs with
  | nil => rfl
  | cons c rest => simp [takeBytes, Nat.pos_iff_ne_zero.mp c.utf8Size_pos]

/-- A cut at the length of the first of two texts gives the first. -/
theorem takeBytes_append (front back : List Char) :
    takeBytes (byteLength front) (front ++ back) = front := by
  induction front with
  | nil => simp [byteLength]
  | cons c rest ih =>
    have h : byteLength (c :: rest) = c.utf8Size + byteLength rest := rfl
    simp [takeBytes, h, ih]

/-- What follows a cut at the length of the first of two texts is the second. -/
theorem dropBytes_append (front back : List Char) :
    dropBytes (byteLength front) (front ++ back) = back := by
  induction front with
  | nil => simp [byteLength, dropBytes]
  | cons c rest ih =>
    have h : byteLength (c :: rest) = c.utf8Size + byteLength rest := rfl
    obtain ⟨n, hn⟩ : ∃ n, byteLength (c :: rest) = n + 1 :=
      ⟨byteLength (c :: rest) - 1, by have := c.utf8Size_pos; omega⟩
    have hrest : n + 1 - c.utf8Size = byteLength rest := by omega
    rw [hn, List.cons_append, dropBytes, hrest, ih]

end Text
end FormulaMap
