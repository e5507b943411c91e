import FormulaMap.Text.Blank
import Mathlib.Data.List.DropRight

/-!
# Trimming twice

A trimmed text has no blank at either end, so that trimming it again changes nothing.  Nothing is
left of a text of blanks; of any other, what is left starts and ends with other characters.  In the
same way the copies of one character that a text ends with are taken off, and nothing else.
-/

namespace FormulaMap
namespace Text

theorem trimEnd_eq_rdropWhile (cs : List Char) : trimEnd cs = cs.rdropWhile isBlank :=
  rfl

/-- A text that ends in no blank loses nothing at its end. -/
theorem trimEnd_of_not_blank {c : Char} {cs : List Char} (h : isBlank c = false) :
    trimEnd (cs ++ [c]) = cs ++ [c] := by
  rw [trimEnd_eq_rdropWhile, List.rdropWhile_concat_neg _ _ _ (by simp [h])]

/-- Trimming the end does not bring a blank to the start. -/
theorem trimStart_trimEnd_trimStart (cs : List Char) :
    trimStart (trimEnd (trimStart cs)) = trimEnd (trimStart cs) := by
  have hstart : trimStart (trimStart cs) = trimStart cs := List.dropWhile_idempotent isBlank cs
  have hbegins : trimEnd (trimStart cs) <+: trimStart cs := List.rdropWhile_prefix _ _
  cases htext : trimEnd (trimStart cs) with
  | nil => rfl
  | cons c more =>
      rw [htext] at hbegins
      obtain ⟨behind, hbehind⟩ := hbegins
      apply trimStart_of_not_blank
      by_contra hblank
      rw [Bool.not_eq_false] at hblank
      have hshorter : (trimStart (c :: more ++ behind)).length ≤ (more ++ behind).length := by
        rw [List.cons_append, trimStart_of_blank hblank]
        exact List.length_dropWhile_le _ _
      rw [hbehind, hstart, ← hbehind, List.cons_append, List.length_cons] at hshorter
      omega

@[simp]
theorem trim_trim (cs : List Char) : trim (trim cs) = trim cs := by
  rw [trim, trim, trimStart_trimEnd_trimStart]
  exact List.rdropWhile_idempotent isBlank (trimStart cs)

/-- What starts and ends with no blank is its own trimmed form. -/
theorem trim_of_not_blank {c d : Char} {cs : List Char} (hc : isBlank c = false)
    (hd : isBlank d = false) : trim (c :: (cs ++ [d])) = c :: (cs ++ [d]) := by
  rw [trim, trimStart_of_not_blank hc, ← List.cons_append, trimEnd_of_not_blank hd]

theorem mem_of_mem_trim {c : Char} {cs : List Char} (h : c ∈ trim cs) : c ∈ cs := by
  have hstart : trimEnd (trimStart cs) <+: trimStart cs := List.rdropWhile_prefix _ _
  have hcs : trimStart cs <:+ cs := List.dropWhile_suffix _
  exact hcs.subset (hstart.subset h)

/-! ## Blanks around a text -/

theorem trimStart_append_of_blank {blanks : List Char} (h : ∀ c ∈ blanks, isBlank c = true)
    (cs : List Char) : trimStart (blanks ++ cs) = trimStart cs :=
  List.dropWhile_append_of_pos h

theorem trimEnd_append_of_blank {blanks : List Char} (h : ∀ c ∈ blanks, isBlank c = true)
    (cs : List Char) : trimEnd (cs ++ blanks) = trimEnd cs := by
  have hreverse : ∀ c ∈ blanks.reverse, isBlank c = true := fun c hc =>
    h c (List.mem_reverse.mp hc)
  rw [trimEnd, List.reverse_append, List.dropWhile_append_of_pos hreverse]
  rfl

/-- Blanks at either end make no difference to what trimming leaves. -/
theorem trim_append_of_blank {before behind : List Char} (hbefore : ∀ c ∈ before, isBlank c = true)
    (hbehind : ∀ c ∈ behind, isBlank c = true) (cs : List Char) :
    trim (before ++ (cs ++ behind)) = trim cs := by
  rw [trim, trimStart_append_of_blank hbefore, trimStart, List.dropWhile_append]
  split
  · next hempty =>
      have hnone : trimStart cs = [] := List.isEmpty_iff.mp hempty
      rw [List.dropWhile_eq_nil_iff.mpr hbehind, trim, hnone]
  · exact trimEnd_append_of_blank hbehind _

theorem exists_blanks_around_trim (cs : List Char) :
    ∃ before behind, (∀ c ∈ before, isBlank c = true) ∧ (∀ c ∈ behind, isBlank c = true) ∧
      cs = before ++ (trim cs ++ behind) := by
  refine ⟨cs.takeWhile isBlank, (trimStart cs).rtakeWhile isBlank, ?_, ?_, ?_⟩
  · intro c hc
    exact List.mem_takeWhile_imp hc
  · intro c hc
    exact List.mem_rtakeWhile_imp hc
  · rw [trim, trimEnd_eq_rdropWhile, List.rdropWhile_append_rtakeWhile]
    exact List.takeWhile_append_dropWhile.symm

/-- Trimming takes off nothing but blanks. -/
theorem mem_trim_iff {c : Char} {cs : List Char} (hc : isBlank c = false) :
    c ∈ trim cs ↔ c ∈ cs := by
  refine ⟨mem_of_mem_trim, ?_⟩
  intro hmem
  obtain ⟨before, behind, hbefore, hbehind, hcs⟩ := exists_blanks_around_trim cs
  rw [hcs, List.mem_append, List.mem_append] at hmem
  rcases hmem with h | h | h
  · rw [hbefore c h] at hc
    cases hc
  · exact h
  · rw [hbehind c h] at hc
    cases hc

/-- A text with a character that is not blank is not trimmed away. -/
theorem trim_ne_nil {c : Char} {cs : List Char} (hmem : c ∈ cs) (hc : isBlank c = false) :
    trim cs ≠ [] :=
  List.ne_nil_of_mem ((mem_trim_iff hc).mpr hmem)

/-! ## Texts that trimming leaves as they are -/

/-- Whether a text starts and ends with characters that are not blank, so that it is not empty. -/
structure Solid (cs : List Char) : Prop where
  starts : ∃ c ∈ cs.head?, isBlank c = false
  ends : ∃ c ∈ cs.getLast?, isBlank c = false

theorem Solid.ne_nil {cs : List Char} (h : Solid cs) : cs ≠ [] := by
  rintro rfl
  obtain ⟨c, hc, -⟩ := h.starts
  cases hc

theorem Solid.trimStart_eq {cs : List Char} (h : Solid cs) : trimStart cs = cs := by
  obtain ⟨c, hhead, hc⟩ := h.starts
  obtain ⟨more, rfl⟩ := List.head?_eq_some_iff.mp hhead
  exact trimStart_of_not_blank hc

theorem Solid.trimEnd_append_eq {cs : List Char} (h : Solid cs) (front : List Char) :
    trimEnd (front ++ cs) = front ++ cs := by
  obtain ⟨c, hlast, hc⟩ := h.ends
  obtain ⟨inside, rfl⟩ := List.getLast?_eq_some_iff.mp hlast
  rw [← List.append_assoc, trimEnd_of_not_blank hc]

theorem Solid.trim_eq {cs : List Char} (h : Solid cs) : trim cs = cs := by
  rw [trim, h.trimStart_eq]
  exact h.trimEnd_append_eq []

/-- What trimming leaves is nothing or starts and ends with characters that are not blank. -/
theorem solid_trim {cs : List Char} (h : trim cs ≠ []) : Solid (trim cs) := by
  constructor
  · obtain ⟨c, more, htext⟩ := List.exists_cons_of_ne_nil h
    have hstart : trimStart (trim cs) = trim cs := trimStart_trimEnd_trimStart cs
    have hfirst := List.head?_dropWhile_not isBlank (trim cs)
    rw [← trimStart, hstart, htext] at hfirst
    exact ⟨c, by simp [htext], by simpa using hfirst⟩
  · have hlast := List.rdropWhile_last_not isBlank (trimStart cs) h
    refine ⟨_, List.getLast?_eq_getLast_of_ne_nil h, ?_⟩
    rw [← Bool.not_eq_true]
    exact hlast

/-! ## Copies of one character at the end -/

theorem trimEndOf_eq_rdropWhile (x : Char) (cs : List Char) :
    trimEndOf x cs = cs.rdropWhile (· == x) :=
  rfl

/-- A text loses nothing exactly if it does not end in the character. -/
theorem trimEndOf_eq_self_iff {x : Char} {cs : List Char} :
    trimEndOf x cs = cs ↔ cs.getLast? ≠ some x := by
  rw [trimEndOf_eq_rdropWhile, List.rdropWhile_eq_self_iff]
  constructor
  · intro h hlast
    obtain ⟨front, rfl⟩ := List.getLast?_eq_some_iff.mp hlast
    apply h (by simp)
    simp
  · intro h hne hlast
    apply h
    rw [List.getLast?_eq_getLast_of_ne_nil hne, eq_of_beq hlast]

theorem getLast?_trimEndOf_ne (x : Char) (cs : List Char) : (trimEndOf x cs).getLast? ≠ some x :=
  trimEndOf_eq_self_iff.mp (List.rdropWhile_idempotent _ cs)

/-- Copies of the character behind a text make no difference to what is left of it. -/
theorem trimEndOf_append_replicate (x : Char) (cs : List Char) (n : Nat) :
    trimEndOf x (cs ++ List.replicate n x) = trimEndOf x cs := by
  have hcopies : ∀ c ∈ List.replicate n x, (c == x) = true := by
    intro c hc
    rw [List.eq_of_mem_replicate hc, beq_self_eq_true]
  rw [trimEndOf, List.reverse_append, List.reverse_replicate, List.dropWhile_append_of_pos hcopies]
  rfl

theorem exists_trimEndOf_append_replicate (x : Char) (cs : List Char) :
    ∃ n, cs = trimEndOf x cs ++ List.replicate n x := by
  have hcopies : ∀ c ∈ cs.rtakeWhile (· == x), c = x := fun c hc =>
    eq_of_beq (List.mem_rtakeWhile_imp (p := (· == x)) hc)
  refine ⟨(cs.rtakeWhile (· == x)).length, ?_⟩
  rw [← List.eq_replicate_of_mem hcopies, trimEndOf_eq_rdropWhile,
    List.rdropWhile_append_rtakeWhile]

/-! ## Texts without blanks -/

theorem withoutBlanks_append (cs ds : List Char) :
    withoutBlanks (cs ++ ds) = withoutBlanks cs ++ withoutBlanks ds :=
  List.filter_append _ _

theorem withoutBlanks_of_blank {cs : List Char} (h : ∀ c ∈ cs, isBlank c = true) :
    withoutBlanks cs = [] := by
  rw [withoutBlanks, List.filter_eq_nil_iff]
  intro c hc
  simp [h c hc]

end Text
end FormulaMap
