import FormulaMap.Text.Pieces
import Mathlib.Data.List.Basic

/-!
# Cutting and joining

Cutting a text at a separator and putting pieces together with it undo each other: no piece of a cut
text has the separator in it, and pieces that have none are what their joined text is cut into.
-/

namespace FormulaMap
namespace Text

/-- A text without the separator is its only piece. -/
theorem splitAt_of_notMem {sep : Char} {piece : List Char} (h : sep ∉ piece) :
    splitAt sep piece = [piece] := by
  induction piece with
  | nil => rfl
  | cons c piece ih =>
      rw [List.mem_cons, not_or] at h
      rw [splitAt, if_neg (by simpa using Ne.symm h.1), ih h.2]

theorem splitAt_append_cons {sep : Char} {piece : List Char} (h : sep ∉ piece)
    (rest : List Char) : splitAt sep (piece ++ sep :: rest) = piece :: splitAt sep rest := by
  induction piece with
  | nil => exact splitAt_cons_sep sep rest
  | cons c piece ih =>
      rw [List.mem_cons, not_or] at h
      rw [List.cons_append, splitAt, if_neg (by simpa using Ne.symm h.1), ih h.2]

/-- What pieces that each end with the separator are cut into, and what stands behind the last. -/
theorem splitAt_flatMap_append {sep : Char} {pieces : List (List Char)} {last : List Char}
    (hpieces : ∀ piece ∈ pieces, sep ∉ piece) (hlast : sep ∉ last) :
    splitAt sep (pieces.flatMap (fun piece => piece ++ [sep]) ++ last) = pieces ++ [last] := by
  induction pieces with
  | nil => exact splitAt_of_notMem hlast
  | cons piece pieces ih =>
      have hfirst : sep ∉ piece := hpieces piece List.mem_cons_self
      have hrest := ih fun other hother => hpieces other (List.mem_cons_of_mem _ hother)
      rw [List.flatMap_cons, List.append_assoc, List.append_assoc, List.singleton_append,
        splitAt_append_cons hfirst, hrest, List.cons_append]

/-- Cutting undoes the joining. -/
theorem splitAt_joinWith {sep : Char} {pieces : List (List Char)} (hne : pieces ≠ [])
    (h : ∀ piece ∈ pieces, sep ∉ piece) : splitAt sep (joinWith [sep] pieces) = pieces := by
  induction pieces with
  | nil => exact absurd rfl hne
  | cons piece pieces ih =>
      have hfirst : sep ∉ piece := h piece List.mem_cons_self
      cases pieces with
      | nil => exact splitAt_of_notMem hfirst
      | cons next more =>
          have hrest := ih (List.cons_ne_nil _ _) fun other hother =>
            h other (List.mem_cons_of_mem _ hother)
          rw [joinWith, List.append_assoc, List.singleton_append, splitAt_append_cons hfirst, hrest]
          exact List.cons_ne_nil _ _

theorem joinWith_append (sep : List Char) {ws others : List (List Char)} (hws : ws ≠ [])
    (hothers : others ≠ []) :
    joinWith sep (ws ++ others) = joinWith sep ws ++ (sep ++ joinWith sep others) := by
  induction ws with
  | nil => exact absurd rfl hws
  | cons w ws ih =>
      cases ws with
      | nil =>
          obtain ⟨other, more, rfl⟩ := List.exists_cons_of_ne_nil hothers
          simp [joinWith]
      | cons next more =>
          have hrest := ih (List.cons_ne_nil _ _)
          simp only [List.cons_append, joinWith, List.append_assoc] at hrest ⊢
          rw [hrest]

theorem notMem_of_mem_splitAt {sep : Char} {cs piece : List Char} (h : piece ∈ splitAt sep cs) :
    sep ∉ piece := by
  induction cs generalizing piece with
  | nil =>
      rw [splitAt_nil, List.mem_singleton] at h
      simp [h]
  | cons c rest ih =>
      by_cases hc : c = sep
      · rw [hc, splitAt_cons_sep, List.mem_cons] at h
        rcases h with rfl | hmem
        · exact List.not_mem_nil
        · exact ih hmem
      · cases hpieces : splitAt sep rest with
        | nil => exact absurd hpieces (splitAt_ne_nil sep rest)
        | cons first more =>
            rw [splitAt, if_neg (by simpa using hc), hpieces, List.mem_cons] at h
            rw [hpieces] at ih
            rcases h with rfl | hmem
            · rw [List.mem_cons, not_or]
              exact ⟨Ne.symm hc, ih List.mem_cons_self⟩
            · exact ih (List.mem_cons_of_mem _ hmem)

/-- A text has one piece more than separators. -/
theorem length_splitAt (sep : Char) (cs : List Char) :
    (splitAt sep cs).length = cs.count sep + 1 := by
  induction cs with
  | nil => rfl
  | cons c rest ih =>
      by_cases hc : c = sep
      · rw [hc, splitAt_cons_sep, List.length_cons, ih, List.count_cons_self]
      · cases hpieces : splitAt sep rest with
        | nil => exact absurd hpieces (splitAt_ne_nil sep rest)
        | cons first more =>
            rw [hpieces, List.length_cons] at ih
            rw [splitAt, if_neg (by simpa using hc), hpieces, List.length_cons,
              List.count_cons_of_ne hc, ih]

/-! ## The last piece -/

/-- A piece is what stands behind the last separator, or the whole text if it has none. -/
def IsLastPiece (sep : Char) (cs piece : List Char) : Prop :=
  sep ∉ piece ∧ (cs = piece ∨ ∃ front, cs = front ++ sep :: piece)

theorem exists_isLastPiece (sep : Char) (cs : List Char) : ∃ piece, IsLastPiece sep cs piece := by
  induction cs with
  | nil => exact ⟨[], List.not_mem_nil, .inl rfl⟩
  | cons c rest ih =>
      obtain ⟨piece, hpiece, rfl | ⟨front, rfl⟩⟩ := ih
      · by_cases hc : sep = c
        · exact ⟨rest, hpiece, .inr ⟨[], by rw [hc, List.nil_append]⟩⟩
        · exact ⟨c :: rest, by simp [hc, hpiece], .inl rfl⟩
      · exact ⟨piece, hpiece, .inr ⟨c :: front, rfl⟩⟩

/-- A text is cut at a separator into what the texts on both sides of it are cut into. -/
theorem splitAt_append_sep_cons (sep : Char) (front rest : List Char) :
    splitAt sep (front ++ sep :: rest) = splitAt sep front ++ splitAt sep rest := by
  induction front with
  | nil => exact splitAt_cons_sep sep rest
  | cons c front ih =>
      rw [List.cons_append, splitAt, splitAt, ih]
      split
      · rfl
      · cases hfront : splitAt sep front with
        | nil => exact absurd hfront (splitAt_ne_nil sep front)
        | cons piece pieces => rfl

theorem getLast?_splitAt {sep : Char} {cs piece : List Char} (h : IsLastPiece sep cs piece) :
    (splitAt sep cs).getLast? = some piece := by
  obtain ⟨hpiece, rfl | ⟨front, rfl⟩⟩ := h
  · rw [splitAt_of_notMem hpiece, List.getLast?_singleton]
  · rw [splitAt_append_sep_cons, splitAt_of_notMem hpiece, List.getLast?_concat]

theorem IsLastPiece.unique {sep : Char} {cs piece other : List Char}
    (h : IsLastPiece sep cs piece) (h' : IsLastPiece sep cs other) : piece = other := by
  have hlast := getLast?_splitAt h
  rw [getLast?_splitAt h', Option.some.injEq] at hlast
  exact hlast.symm

end Text
end FormulaMap
