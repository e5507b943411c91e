import FormulaMap.Code.Span
import Mathlib.Data.List.Basic

/-!
# How far a span reaches

The span of a declaration is cut at the first line end at which the braces since its first line
are balanced.  Read character by character, it is a beginning of the text that goes over every
line end but such a one.  So it holds a text that stands in its first line exactly when no such
line end lies inside that text.
-/

namespace FormulaMap
namespace Code

/-- Whether a text closes all the braces it opens, and opens some, given how many were opened and
closed before it. -/
def Closes (opened closed : Nat) (cs : List Char) : Prop :=
  0 < opened + cs.count '\x7b' ∧ opened + cs.count '\x7b' = closed + cs.count '\x7d'

instance (opened closed : Nat) (cs : List Char) : Decidable (Closes opened closed cs) :=
  inferInstanceAs (Decidable (_ ∧ _))

/-- The span at the start of a text, given how many braces came before. -/
def spanFrom (opened closed : Nat) : List Char → List Char
  | [] => []
  | c :: rest =>
    if c = '\n' then
      if 0 < opened ∧ opened = closed then [] else '\n' :: spanFrom opened closed rest
    else
      c :: spanFrom (opened + if c = '\x7b' then 1 else 0) (closed + if c = '\x7d' then 1 else 0) rest

theorem closes_nil {opened closed : Nat} :
    Closes opened closed [] ↔ 0 < opened ∧ opened = closed := by
  simp [Closes]

theorem closes_cons {opened closed : Nat} {c : Char} {cs : List Char} :
    Closes opened closed (c :: cs) ↔
      Closes (opened + if c = '\x7b' then 1 else 0) (closed + if c = '\x7d' then 1 else 0) cs := by
  simp only [Closes, List.count_cons, beq_iff_eq]
  constructor
  · rintro ⟨hpos, heq⟩
    exact ⟨by omega, by omega⟩
  · rintro ⟨hpos, heq⟩
    exact ⟨by omega, by omega⟩

/-! ## Line by line and character by character -/

theorem splitAt_cons_of_ne {sep c : Char} {cs piece : List Char} {pieces : List (List Char)}
    (hc : c ≠ sep) (h : Text.splitAt sep cs = piece :: pieces) :
    Text.splitAt sep (c :: cs) = (c :: piece) :: pieces := by
  rw [Text.splitAt, if_neg (by simpa using hc), h]

theorem joinWith_cons_cons (sep : List Char) (c : Char) (piece : List Char)
    (pieces : List (List Char)) :
    Text.joinWith sep ((c :: piece) :: pieces) = c :: Text.joinWith sep (piece :: pieces) := by
  cases pieces with
  | nil => rfl
  | cons next more => rfl

/-- A character that ends no line only adds to the first of the lines that are taken. -/
theorem joinWith_takeBalanced_cons {opened closed : Nat} {c : Char} {line : List Char}
    {rest : List (List Char)} :
    Text.joinWith ['\n'] (takeBalanced opened closed ((c :: line) :: rest)) =
      c :: Text.joinWith ['\n'] (takeBalanced (opened + if c = '\x7b' then 1 else 0)
        (closed + if c = '\x7d' then 1 else 0) (line :: rest)) := by
  have hopened : opened + (c :: line).count '\x7b' =
      (opened + if c = '\x7b' then 1 else 0) + line.count '\x7b' := by
    simp only [List.count_cons, beq_iff_eq]
    omega
  have hclosed : closed + (c :: line).count '\x7d' =
      (closed + if c = '\x7d' then 1 else 0) + line.count '\x7d' := by
    simp only [List.count_cons, beq_iff_eq]
    omega
  simp only [takeBalanced, hopened, hclosed]
  generalize (opened + if c = '\x7b' then 1 else 0) = opened'
  generalize (closed + if c = '\x7d' then 1 else 0) = closed'
  split
  · rfl
  · exact joinWith_cons_cons ['\n'] c line _

theorem joinWith_takeBalanced_splitAt (opened closed : Nat) (cs : List Char) :
    Text.joinWith ['\n'] (takeBalanced opened closed (Text.splitAt '\n' cs)) =
      spanFrom opened closed cs := by
  induction cs generalizing opened closed with
  | nil =>
      simp only [Text.splitAt_nil, takeBalanced]
      split
      · rfl
      · rfl
  | cons c rest ih =>
      by_cases hc : c = '\n'
      · subst hc
        have hnext := ih opened closed
        rw [Text.splitAt_cons_sep, takeBalanced, spanFrom, if_pos rfl, ← hnext]
        simp only [List.count_nil, Nat.add_zero, gt_iff_lt, Bool.and_eq_true, decide_eq_true_eq,
          beq_iff_eq]
        split
        · rfl
        · cases hpieces : Text.splitAt '\n' rest with
          | nil => exact absurd hpieces (Text.splitAt_ne_nil '\n' rest)
          | cons piece pieces =>
              have hsome : takeBalanced opened closed (piece :: pieces) ≠ [] := by
                simp only [takeBalanced]
                split
                · simp
                · simp
              obtain ⟨first, more, htaken⟩ := List.exists_cons_of_ne_nil hsome
              rw [htaken]
              rfl
      · cases hpieces : Text.splitAt '\n' rest with
        | nil => exact absurd hpieces (Text.splitAt_ne_nil '\n' rest)
        | cons piece pieces =>
            rw [splitAt_cons_of_ne hc hpieces, joinWith_takeBalanced_cons, ← hpieces, ih, spanFrom,
              if_neg hc]

/-- The lines below a place are those of the text behind the start of its line. -/
theorem drop_splitAt (front behind : List Char) :
    (Text.splitAt '\n' (front ++ '\n' :: behind)).drop (front.count '\n' + 1) =
      Text.splitAt '\n' behind := by
  induction front with
  | nil => rw [List.nil_append, Text.splitAt_cons_sep, List.count_nil]; rfl
  | cons c front ih =>
      by_cases hc : c = '\n'
      · subst hc
        rw [List.cons_append, Text.splitAt_cons_sep, List.count_cons_self, List.drop_succ_cons, ih]
      · cases hpieces : Text.splitAt '\n' (front ++ '\n' :: behind) with
        | nil => exact absurd hpieces (Text.splitAt_ne_nil '\n' _)
        | cons piece pieces =>
            rw [hpieces, List.drop_succ_cons] at ih
            rw [List.cons_append, splitAt_cons_of_ne hc hpieces, List.count_cons_of_ne hc,
              List.drop_succ_cons, ih]

/-! ## What a span holds -/

/-- A span goes over a text in which it may end at no line end. -/
theorem spanFrom_append {opened closed : Nat} {cs : List Char} (behind : List Char)
    (h : ∀ p q, cs = p ++ '\n' :: q → ¬Closes opened closed p) :
    spanFrom opened closed (cs ++ behind) =
      cs ++ spanFrom (opened + cs.count '\x7b') (closed + cs.count '\x7d') behind := by
  induction cs generalizing opened closed with
  | nil => rfl
  | cons c cs ih =>
      have hmore : ∀ p q, cs = p ++ '\n' :: q →
          ¬Closes (opened + if c = '\x7b' then 1 else 0) (closed + if c = '\x7d' then 1 else 0) p := by
        intro p q hcs hcloses
        rw [← closes_cons] at hcloses
        exact h (c :: p) q (by rw [hcs]; rfl) hcloses
      have hnext := ih hmore
      have hopened : opened + (c :: cs).count '\x7b' =
          (opened + if c = '\x7b' then 1 else 0) + cs.count '\x7b' := by
        simp only [List.count_cons, beq_iff_eq]
        omega
      have hclosed : closed + (c :: cs).count '\x7d' =
          (closed + if c = '\x7d' then 1 else 0) + cs.count '\x7d' := by
        simp only [List.count_cons, beq_iff_eq]
        omega
      rw [hopened, hclosed, List.cons_append, spanFrom]
      by_cases hc : c = '\n'
      · subst hc
        have hgoes := h [] cs rfl
        rw [closes_nil] at hgoes
        rw [if_pos rfl, if_neg hgoes]
        exact congrArg ('\n' :: ·) hnext
      · rw [if_neg hc, hnext, List.cons_append]

/-- A span does not go over a line end at which the braces are balanced. -/
theorem spanFrom_isPrefix {opened closed : Nat} {p : List Char} (behind : List Char)
    (h : Closes opened closed p) : spanFrom opened closed (p ++ '\n' :: behind) <+: p := by
  induction p generalizing opened closed with
  | nil =>
      rw [closes_nil] at h
      have hnone : spanFrom opened closed ('\n' :: behind) = [] := by
        rw [spanFrom, if_pos rfl, if_pos h]
      exact List.prefix_nil.mpr hnone
  | cons c p ih =>
      rw [closes_cons] at h
      rw [List.cons_append, spanFrom]
      by_cases hc : c = '\n'
      · subst hc
        rw [if_pos rfl]
        by_cases hstop : 0 < opened ∧ opened = closed
        · rw [if_pos hstop]
          exact List.nil_prefix
        · rw [if_neg hstop]
          exact List.cons_prefix_cons.mpr ⟨rfl, ih h⟩
      · rw [if_neg hc]
        exact List.cons_prefix_cons.mpr ⟨rfl, ih h⟩

/-- A text that stands behind some others in the first line of a span is inside the span exactly
when no line end inside it balances the braces of the line so far. -/
theorem infix_spanFrom_iff {lead cs behind : List Char} (hlead : '\n' ∉ lead) :
    cs <:+: spanFrom 0 0 (lead ++ cs ++ behind) ↔
      ∀ p q, cs = p ++ '\n' :: q → ¬Closes 0 0 (lead ++ p) := by
  constructor
  · rintro hheld p q rfl hcloses
    have hbegins : spanFrom 0 0 (lead ++ (p ++ '\n' :: q) ++ behind) <+: lead ++ p := by
      have hsame : lead ++ (p ++ '\n' :: q) ++ behind = lead ++ p ++ '\n' :: (q ++ behind) := by
        simp
      rw [hsame]
      exact spanFrom_isPrefix (q ++ behind) hcloses
    have hrows : (p ++ '\n' :: q).count '\n' ≤ (lead ++ p).count '\n' :=
      ((hheld.trans hbegins.isInfix).sublist).count_le '\n'
    rw [List.count_append, List.count_append, List.count_cons_self,
      List.count_eq_zero_of_not_mem hlead] at hrows
    omega
  · intro h
    have hwhole : ∀ p q, lead ++ cs = p ++ '\n' :: q → ¬Closes 0 0 p := by
      intro p q hsplit
      rcases List.append_eq_append_iff.mp hsplit with ⟨inner, hp, hcs⟩ | ⟨inner, hlead', hbehind⟩
      · rw [hp]
        exact h inner q hcs
      · cases inner with
        | nil =>
            rw [List.nil_append] at hbehind
            rw [List.append_nil] at hlead'
            rw [← hlead']
            have hnone := h [] q hbehind.symm
            rw [List.append_nil] at hnone
            exact hnone
        | cons c inner =>
            cases hbehind
            rw [hlead'] at hlead
            exact absurd (by simp) hlead
    rw [spanFrom_append behind hwhole]
    exact ⟨lead, _, rfl⟩

end Code
end FormulaMap
