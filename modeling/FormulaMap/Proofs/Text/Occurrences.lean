import FormulaMap.Text.Pieces
import Mathlib.Data.List.Infix

/-!
# One text inside another

The tests for a text at the start of another, or anywhere inside it, say what they are named for.
-/

namespace FormulaMap
namespace Text

theorem opensWith_iff {part cs : List Char} : opensWith part cs = true ↔ part <+: cs := by
  rw [opensWith, Option.isSome_iff_exists]
  constructor
  · rintro ⟨rest, h⟩
    exact ⟨rest, (eq_append_of_after? h).symm⟩
  · rintro ⟨rest, rfl⟩
    exact ⟨rest, after?_append part rest⟩

/-- One text occurs in another exactly if it is a stretch of it. -/
theorem occursIn_iff {part cs : List Char} : occursIn part cs = true ↔ part <:+: cs := by
  induction cs with
  | nil => rw [occursIn, List.isEmpty_iff, List.infix_nil]
  | cons c cs ih => rw [occursIn, Bool.or_eq_true, opensWith_iff, ih, List.infix_cons_iff]

/-- A text that ends with another is what stands before it and that other. -/
theorem eq_append_of_before? {ending cs rest : List Char} (h : before? ending cs = some rest) :
    cs = rest ++ ending := by
  rw [before?, Option.map_eq_some_iff] at h
  obtain ⟨tser, hafter, rfl⟩ := h
  have hcs := congrArg List.reverse (eq_append_of_after? hafter)
  rw [List.reverse_reverse, List.reverse_append, List.reverse_reverse] at hcs
  exact hcs

theorem before?_append (ending cs : List Char) : before? ending (cs ++ ending) = some cs := by
  rw [before?, List.reverse_append, after?_append, Option.map_some, List.reverse_reverse]

end Text
end FormulaMap
