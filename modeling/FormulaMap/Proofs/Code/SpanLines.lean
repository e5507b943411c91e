import FormulaMap.Proofs.Code.Span
import Mathlib.Order.Bounds.Basic

/-!
# The lines of a span

A span is read off a text in two ways.  Line by line, it runs up to the least index at which the
lines since its first one hold an opening brace and as many closing ones, or to the last line if
there is no such index.  Character by character, it is the piece of the text that starts with its
first line and ends before a line end or with the text.
-/

namespace FormulaMap
namespace Code

/-- Whether a line with some number, counted from one, begins behind a text. -/
def BeginsLine (front : List Char) (line : Nat) : Prop :=
  front.count '\n' + 1 = line ∧ (front = [] ∨ front.getLast? = some '\n')

instance (front : List Char) (line : Nat) : Decidable (BeginsLine front line) :=
  inferInstanceAs (Decidable (_ ∧ _))

/-! ## Where lines begin -/

theorem drop_splitAt_of_beginsLine {front : List Char} {line : Nat} (h : BeginsLine front line)
    (behind : List Char) :
    (Text.splitAt '\n' (front ++ behind)).drop (line - 1) = Text.splitAt '\n' behind := by
  obtain ⟨hcount, hstart⟩ := h
  rcases hstart with rfl | hlast
  · have hline : line - 1 = 0 := by
      rw [List.count_nil] at hcount
      omega
    rw [hline, List.nil_append, List.drop_zero]
  · obtain ⟨front, rfl⟩ := List.getLast?_eq_some_iff.mp hlast
    have hline : line - 1 = front.count '\n' + 1 := by
      rw [List.count_append, List.count_singleton_self] at hcount
      omega
    rw [hline, List.append_assoc, List.singleton_append, drop_splitAt]

/-- Every line of a text begins somewhere. -/
theorem exists_beginsLine {cs : List Char} {line : Nat} (hline : 1 ≤ line)
    (h : line ≤ (Text.splitAt '\n' cs).length) :
    ∃ front behind, cs = front ++ behind ∧ BeginsLine front line := by
  induction cs generalizing line with
  | nil =>
      have hfirst : line = 1 := by
        rw [Text.splitAt_nil, List.length_singleton] at h
        omega
      exact ⟨[], [], rfl, by simp [hfirst], .inl rfl⟩
  | cons c rest ih =>
      by_cases hfirst : line = 1
      · exact ⟨[], c :: rest, rfl, by simp [hfirst], .inl rfl⟩
      · by_cases hc : c = '\n'
        · subst hc
          rw [Text.splitAt_cons_sep, List.length_cons] at h
          have hone : 1 ≤ line - 1 := by omega
          have hrows : line - 1 ≤ (Text.splitAt '\n' rest).length := by omega
          obtain ⟨front, behind, rfl, hcount, hstart⟩ := ih hone hrows
          refine ⟨'\n' :: front, behind, rfl, ?_, .inr ?_⟩
          · rw [List.count_cons_self]
            omega
          · rcases hstart with rfl | hlast
            · rfl
            · rw [List.getLast?_cons, hlast, Option.getD_some]
        · have hlength : (Text.splitAt '\n' (c :: rest)).length = (Text.splitAt '\n' rest).length := by
            cases hpieces : Text.splitAt '\n' rest with
            | nil => exact absurd hpieces (Text.splitAt_ne_nil '\n' rest)
            | cons piece pieces => rw [splitAt_cons_of_ne hc hpieces]; rfl
          rw [hlength] at h
          obtain ⟨front, behind, rfl, hcount, hstart⟩ := ih hline h
          refine ⟨c :: front, behind, rfl, ?_, .inr ?_⟩
          · rw [List.count_cons_of_ne hc, hcount]
          · rcases hstart with rfl | hlast
            · exact absurd hcount.symm hfirst
            · rw [List.getLast?_cons, hlast, Option.getD_some]

/-- From the start of a line on, the text of a declaration is a span. -/
theorem extractBody_of_beginsLine {text : String} {front behind : List Char} {line : Nat}
    (htext : text.toList = front ++ behind) (h : BeginsLine front line) :
    extractBody text line = String.ofList (spanFrom 0 0 behind) := by
  have hline : line ≠ 0 := by
    have hcount := h.1
    omega
  simp only [extractBody, bodyAmong]
  rw [if_neg hline, htext, drop_splitAt_of_beginsLine h, joinWith_takeBalanced_splitAt]

/-! ## Where a span ends -/

/-- A span stops before a line end at which it is balanced, or runs to the end of the text. -/
theorem exists_spanFrom_append (opened closed : Nat) (cs : List Char) :
    ∃ behind, cs = spanFrom opened closed cs ++ behind ∧
      (behind = [] ∨ behind.head? = some '\n' ∧ Closes opened closed (spanFrom opened closed cs)) := by
  induction cs generalizing opened closed with
  | nil => exact ⟨[], rfl, .inl rfl⟩
  | cons c rest ih =>
      by_cases hc : c = '\n'
      · subst hc
        by_cases hstop : 0 < opened ∧ opened = closed
        · rw [spanFrom, if_pos rfl, if_pos hstop]
          exact ⟨'\n' :: rest, rfl, .inr ⟨rfl, closes_nil.mpr hstop⟩⟩
        · rw [spanFrom, if_pos rfl, if_neg hstop]
          obtain ⟨behind, hrest, hend⟩ := ih opened closed
          refine ⟨behind, ?_, ?_⟩
          · rw [List.cons_append, ← hrest]
          · rw [closes_cons]
            exact hend
      · rw [spanFrom, if_neg hc]
        obtain ⟨behind, hrest, hend⟩ := ih (opened + if c = '\x7b' then 1 else 0)
          (closed + if c = '\x7d' then 1 else 0)
        refine ⟨behind, ?_, ?_⟩
        · rw [List.cons_append, ← hrest]
        · rw [closes_cons]
          exact hend

/-- No line end inside a span balances its braces. -/
theorem not_closes_of_spanFrom_eq {opened closed : Nat} {cs p q : List Char}
    (h : spanFrom opened closed cs = p ++ '\n' :: q) : ¬Closes opened closed p := by
  intro hcloses
  obtain ⟨behind, hcs, -⟩ := exists_spanFrom_append opened closed cs
  rw [h, List.append_assoc, List.cons_append] at hcs
  have hprefix := spanFrom_isPrefix (q ++ behind) hcloses
  rw [← hcs, h] at hprefix
  have hlength := hprefix.length_le
  rw [List.length_append, List.length_cons] at hlength
  omega

theorem closes_iff_mem {cs : List Char} :
    Closes 0 0 cs ↔ '\x7b' ∈ cs ∧ cs.count '\x7b' = cs.count '\x7d' := by
  rw [Closes, Nat.zero_add, Nat.zero_add, List.count_pos_iff]

theorem closes_append {opened closed : Nat} {line cs : List Char} :
    Closes opened closed (line ++ cs) ↔
      Closes (opened + line.count '\x7b') (closed + line.count '\x7d') cs := by
  simp only [Closes, List.count_append, Nat.add_assoc]

/-- The lines that are taken end at the least index at which they are balanced. -/
theorem takeBalanced_eq_take {opened closed : Nat} {lines : List (List Char)}
    (hopen : ¬Closes opened closed []) :
    (∃ k, IsLeast {j | Closes opened closed (lines.take j).flatten} k ∧
        takeBalanced opened closed lines = lines.take k) ∨
      (∀ j, ¬Closes opened closed (lines.take j).flatten) ∧
        takeBalanced opened closed lines = lines := by
  induction lines generalizing opened closed with
  | nil =>
      refine .inr ⟨?_, rfl⟩
      intro j
      rw [List.take_nil]
      exact hopen
  | cons line rest ih =>
      -- an index other than zero is one more than an index into the remaining lines
      have hsucc : ∀ j, Closes opened closed ((line :: rest).take (j + 1)).flatten ↔
          Closes (opened + line.count '\x7b') (closed + line.count '\x7d') (rest.take j).flatten := by
        intro j
        rw [List.take_succ_cons, List.flatten_cons, closes_append]
      have hstop : (opened + line.count '\x7b' > 0 && opened + line.count '\x7b' ==
          closed + line.count '\x7d') = true ↔
            Closes (opened + line.count '\x7b') (closed + line.count '\x7d') [] := by
        rw [closes_nil]
        simp
      rw [takeBalanced]
      by_cases hclosed : Closes (opened + line.count '\x7b') (closed + line.count '\x7d') []
      · refine .inl ⟨1, ⟨(hsucc 0).mpr hclosed, ?_⟩, ?_⟩
        · intro j hj
          cases j with
          | zero => exact absurd hj hopen
          | succ j => exact Nat.succ_le_succ (Nat.zero_le j)
        · rw [if_pos (hstop.mpr hclosed)]
          rfl
      · rw [if_neg (hstop.not.mpr hclosed)]
        rcases ih hclosed with ⟨k, ⟨hk, hleast⟩, htake⟩ | ⟨hnone, hall⟩
        · refine .inl ⟨k + 1, ⟨(hsucc k).mpr hk, ?_⟩, ?_⟩
          · intro j hj
            cases j with
            | zero => exact absurd hj hopen
            | succ j => exact Nat.succ_le_succ (hleast ((hsucc j).mp hj))
          · rw [htake, List.take_succ_cons]
        · refine .inr ⟨?_, ?_⟩
          · intro j
            cases j with
            | zero => exact hopen
            | succ j => exact (hsucc j).not.mpr (hnone j)
          · rw [hall]

/-! ## The two readings together -/

/-- The lines from one with some number, counted from one, to the one before an index. -/
def linesBetween (lines : List (List Char)) (line k : Nat) : List (List Char) :=
  (lines.take k).drop (line - 1)

/-- Whether lines hold an opening brace and as many closing ones in all. -/
def LinesBalanced (lines : List (List Char)) : Prop :=
  '\x7b' ∈ lines.flatten ∧ lines.flatten.count '\x7b' = lines.flatten.count '\x7d'

/-- Whether the lines since one end at an index: the least one at which they are balanced, or the
end of the text if there is none. -/
def EndsAt (lines : List (List Char)) (line k : Nat) : Prop :=
  IsLeast {j | LinesBalanced (linesBetween lines line j)} k ∨
    (∀ j, ¬LinesBalanced (linesBetween lines line j)) ∧ k = lines.length

/-- Whether a text is the span that begins with a line: a piece of the whole text that goes to the
end or stops, balanced, before a line end, and whose shorter beginnings of whole lines are not
balanced. -/
structure IsSpan (text : String) (line : Nat) (body : String) : Prop where
  piece : ∃ front behind, text.toList = front ++ body.toList ++ behind ∧ BeginsLine front line ∧
    (behind = [] ∨ behind.head? = some '\n' ∧ '\x7b' ∈ body.toList ∧ isBalanced body = true)
  shortest : ∀ p q, body.toList = p ++ '\n' :: q → '\x7b' ∈ p → p.count '\x7b' ≠ p.count '\x7d'

theorem isSpan_extractBody {text : String} {line : Nat} (hline : 1 ≤ line)
    (h : line ≤ (Text.splitAt '\n' text.toList).length) :
    IsSpan text line (extractBody text line) := by
  obtain ⟨front, behind, htext, hbegins⟩ := exists_beginsLine hline h
  rw [extractBody_of_beginsLine htext hbegins]
  constructor
  · obtain ⟨rest, hbehind, hend⟩ := exists_spanFrom_append 0 0 behind
    refine ⟨front, rest, ?_, hbegins, ?_⟩
    · rw [String.toList_ofList, List.append_assoc, ← hbehind, htext]
    · rcases hend with hnil | ⟨hnewline, hcloses⟩
      · exact .inl hnil
      · obtain ⟨hbrace, hcount⟩ := closes_iff_mem.mp hcloses
        rw [isBalanced, String.toList_ofList, beq_iff_eq]
        exact .inr ⟨hnewline, hbrace, hcount⟩
  · intro p q hsplit hbrace hcount
    rw [String.toList_ofList] at hsplit
    exact not_closes_of_spanFrom_eq hsplit (closes_iff_mem.mpr ⟨hbrace, hcount⟩)

theorem linesBalanced_iff {lines : List (List Char)} :
    LinesBalanced lines ↔ Closes 0 0 lines.flatten :=
  closes_iff_mem.symm

theorem exists_endsAt (lines : List (List Char)) (line : Nat) :
    ∃ k, EndsAt lines line k ∧
      takeBalanced 0 0 (lines.drop (line - 1)) = linesBetween lines line k := by
  have hslice : ∀ j, LinesBalanced (linesBetween lines line j) ↔
      Closes 0 0 ((lines.drop (line - 1)).take (j - (line - 1))).flatten := by
    intro j
    rw [linesBetween, List.drop_take, linesBalanced_iff]
  have hopen : ¬Closes 0 0 [] := by
    rw [closes_nil]
    omega
  rcases takeBalanced_eq_take hopen with ⟨k, ⟨hk, hleast⟩, htake⟩ | ⟨hnone, hall⟩
  · have hk' : line - 1 + k - (line - 1) = k := Nat.add_sub_cancel_left _ _
    refine ⟨line - 1 + k, .inl ⟨?_, ?_⟩, ?_⟩
    · rw [Set.mem_ofPred_eq, hslice, hk']
      exact hk
    · intro j hj
      rw [Set.mem_ofPred_eq, hslice] at hj
      have hle : k ≤ j - (line - 1) := hleast hj
      have hpos : k ≠ 0 := by
        rintro rfl
        exact hopen hk
      omega
    · rw [htake, linesBetween, List.drop_take, hk']
  · refine ⟨lines.length, .inr ⟨?_, rfl⟩, ?_⟩
    · intro j
      rw [hslice]
      exact hnone _
    · rw [hall, linesBetween, List.take_length]

/-- Line by line and as a piece of the text, for every text and line. -/
theorem extractBody_lines (text : String) (line : Nat) :
    ¬(1 ≤ line ∧ line ≤ (Text.splitAt '\n' text.toList).length) ∧ extractBody text line = "" ∨
      (1 ≤ line ∧ line ≤ (Text.splitAt '\n' text.toList).length) ∧
        IsSpan text line (extractBody text line) ∧
        ∃ k, EndsAt (Text.splitAt '\n' text.toList) line k ∧
          extractBody text line = String.ofList
            (Text.joinWith ['\n'] (linesBetween (Text.splitAt '\n' text.toList) line k)) := by
  by_cases hrange : 1 ≤ line ∧ line ≤ (Text.splitAt '\n' text.toList).length
  · obtain ⟨k, hk, htake⟩ := exists_endsAt (Text.splitAt '\n' text.toList) line
    refine .inr ⟨hrange, isSpan_extractBody hrange.1 hrange.2, k, hk, ?_⟩
    have hline : line ≠ 0 := by omega
    simp only [extractBody, bodyAmong]
    rw [if_neg hline, htake]
  · refine .inl ⟨hrange, ?_⟩
    simp only [extractBody, bodyAmong]
    by_cases hline : line = 0
    · rw [if_pos hline]
    · have hdrop : (Text.splitAt '\n' text.toList).drop (line - 1) = [] :=
        List.drop_eq_nil_of_le (by omega)
      rw [if_neg hline, hdrop]
      rfl

/-- The order of braces inside a line does not count, so that such a line is a span of its own. -/
example : extractBody "class A \x7b\n\x7d void f() \x7b\n\x7d" 2 = "\x7d void f() \x7b" := by
  decide +kernel

end Code
end FormulaMap
