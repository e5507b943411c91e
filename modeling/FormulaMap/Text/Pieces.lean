/-!
# Pieces of a text

Cutting a text at a separator, its lines, and looking for one text inside another.  Cutting
always gives at least one piece, and joining the pieces with the separator gives the text back.
-/

namespace FormulaMap
namespace Text

/-- The pieces between the occurrences of a separator; a text without one is its only piece. -/
def splitAt (sep : Char) : List Char → List (List Char)
  | [] => [[]]
  | c :: rest =>
    if c == sep then
      [] :: splitAt sep rest
    else
      match splitAt sep rest with
      | [] => [[c]]
      | piece :: pieces => (c :: piece) :: pieces

/-- Puts a separator between the pieces. -/
def joinWith (sep : List Char) : List (List Char) → List Char
  | [] => []
  | [piece] => piece
  | piece :: pieces => piece ++ sep ++ joinWith sep pieces

/-- The text after an opening, if it opens that way. -/
def after? : List Char → List Char → Option (List Char)
  | [], cs => some cs
  | _ :: _, [] => none
  | x :: xs, c :: cs => if x == c then after? xs cs else none

/-- The text before an ending, if it ends that way. -/
def before? (ending cs : List Char) : Option (List Char) :=
  (after? ending.reverse cs.reverse).map List.reverse

/-- Whether a text opens with another. -/
def opensWith (opening cs : List Char) : Bool :=
  (after? opening cs).isSome

/-- Whether a text ends with another. -/
def endsWith (ending cs : List Char) : Bool :=
  (before? ending cs).isSome

/-- Whether a text occurs somewhere inside another. -/
def occursIn (part : List Char) : List Char → Bool
  | [] => part.isEmpty
  | c :: cs => opensWith part (c :: cs) || occursIn part cs

/-- Drops the carriage return that a line may end with. -/
def dropReturn (line : List Char) : List Char :=
  (before? ['\r'] line).getD line

/-- The lines of a text.  A line ends at a newline, which is not part of it and neither is a
carriage return just before it; a final newline opens no further line. -/
def lines (cs : List Char) : List (List Char) :=
  let pieces := splitAt '\n' cs
  let last := pieces.getLast?.getD []
  pieces.dropLast.map dropReturn ++ (if last.isEmpty then [] else [last])

/-- Cutting gives at least one piece. -/
theorem splitAt_ne_nil (sep : Char) (cs : List Char) : splitAt sep cs ≠ [] := by
  cases cs with
  | nil => simp [splitAt]
  | cons c rest =>
    simp only [splitAt]
    split
    · simp
    · split <;> simp

@[simp]
theorem splitAt_nil (sep : Char) : splitAt sep [] = [[]] := rfl

/-- A separator opens a new piece. -/
theorem splitAt_cons_sep (sep : Char) (cs : List Char) :
    splitAt sep (sep :: cs) = [] :: splitAt sep cs := by
  simp [splitAt]

/-- Joining the pieces with the separator undoes the cutting. -/
theorem joinWith_splitAt (sep : Char) (cs : List Char) :
    joinWith [sep] (splitAt sep cs) = cs := by
  induction cs with
  | nil => rfl
  | cons c rest ih =>
    simp only [splitAt]
    split
    · rename_i h
      have hc : c = sep := by simpa using h
      cases hs : splitAt sep rest with
      | nil => exact absurd hs (splitAt_ne_nil sep rest)
      | cons piece pieces =>
        rw [hs] at ih
        simp [joinWith, hc, ih]
    · cases hs : splitAt sep rest with
      | nil => exact absurd hs (splitAt_ne_nil sep rest)
      | cons piece pieces =>
        rw [hs] at ih
        cases pieces with
        | nil => simp_all [joinWith]
        | cons next more => simp_all [joinWith]

@[simp]
theorem after?_nil (cs : List Char) : after? [] cs = some cs := by
  cases cs <;> rfl

/-- What follows an opening is what was written after it. -/
theorem after?_append (opening cs : List Char) : after? opening (opening ++ cs) = some cs := by
  induction opening with
  | nil => simp
  | cons x xs ih => simp [after?, ih]

/-- A text that opens with another is that other followed by the rest. -/
theorem eq_append_of_after? {opening cs rest : List Char} (h : after? opening cs = some rest) :
    cs = opening ++ rest := by
  induction opening generalizing cs with
  | nil => simpa using h
  | cons x xs ih =>
    cases cs with
    | nil => simp [after?] at h
    | cons c cs =>
      simp only [after?] at h
      split at h
      · rename_i hx
        have hxc : x = c := by simpa using hx
        simp [hxc, ih h]
      · simp at h

end Text
end FormulaMap
