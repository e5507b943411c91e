import FormulaMap.Proofs.Code.SpanLines

/-!
# Matching braces

A span is found by counting braces line by line, whatever their order within a line.  If the first
opening brace since the start of its first line has a matching closing brace, with no closing brace
before and none of either kind behind it on its line, then the count comes out even for the first
time at the end of that line: before the matching brace more braces are open than closed.
-/

namespace FormulaMap
namespace Code

/-- How many of the braces that a text opens it leaves open. -/
def depth (cs : List Char) : Int :=
  cs.count '\x7b' - cs.count '\x7d'

/-- Whether a text goes from an opening brace to the matching one: where the depth is zero again
for the first time. -/
structure Matched (cs : List Char) : Prop where
  opens : cs.head? = some '\x7b'
  closes : depth cs = 0
  first : ∀ i < cs.length, 0 < i → 0 < depth (cs.take i)

/-- Whether a text has no braces. -/
def Braceless (cs : List Char) : Prop :=
  '\x7b' ∉ cs ∧ '\x7d' ∉ cs

instance (cs : List Char) : Decidable (Braceless cs) :=
  inferInstanceAs (Decidable (_ ∧ _))

theorem Braceless.count {cs : List Char} (h : Braceless cs) :
    cs.count '\x7b' = 0 ∧ cs.count '\x7d' = 0 :=
  ⟨List.count_eq_zero_of_not_mem h.1, List.count_eq_zero_of_not_mem h.2⟩

/-- Behind text without braces, the braces are balanced where the depth is zero and some are
open. -/
theorem closes_append_iff {lead cs : List Char} (hlead : Braceless lead) :
    Closes 0 0 (lead ++ cs) ↔ '\x7b' ∈ cs ∧ depth cs = 0 := by
  obtain ⟨hopened, hclosed⟩ := hlead.count
  rw [closes_append, hopened, hclosed, closes_iff_mem, depth]
  constructor
  · rintro ⟨hbrace, hcount⟩
    exact ⟨hbrace, by omega⟩
  · rintro ⟨hbrace, hcount⟩
    exact ⟨hbrace, by omega⟩

theorem Matched.depth_pos {body p q : List Char} (hbody : Matched body) (hsplit : body = p ++ q)
    (hp : p ≠ []) (hq : q ≠ []) : 0 < depth p := by
  have hpos : 0 < p.length := List.length_pos_iff.mpr hp
  have hlt : p.length < body.length := by
    have hrest : 0 < q.length := List.length_pos_iff.mpr hq
    rw [hsplit, List.length_append]
    omega
  have hdepth := hbody.first p.length hlt hpos
  rwa [hsplit, List.take_left] at hdepth

/-- No line end before the end of the line of the matching brace balances the lines so far. -/
theorem Matched.not_closes {lead body tail p q : List Char} (hlead : Braceless lead)
    (hbody : Matched body) (htail : '\n' ∉ tail) (h : lead ++ (body ++ tail) = p ++ '\n' :: q) :
    ¬Closes 0 0 p := by
  rcases List.append_eq_append_iff.mp h with ⟨inner, rfl, hinner⟩ | ⟨inner, hsplit, -⟩
  · -- the line end stands behind the first brace, where more braces are open than closed
    rw [closes_append_iff hlead]
    rintro ⟨hbrace, hdepth⟩
    have hnonempty : inner ≠ [] := List.ne_nil_of_mem hbrace
    rcases List.append_eq_append_iff.mp hinner with ⟨more, -, hmore⟩ | ⟨more, hsplit, hmore⟩
    · rw [hmore] at htail
      exact htail (by simp)
    · have hinside : more ≠ [] := by
        rintro rfl
        rw [List.nil_append] at hmore
        rw [← hmore] at htail
        exact htail List.mem_cons_self
      have hpos := hbody.depth_pos hsplit hnonempty hinside
      omega
  · intro hcloses
    obtain ⟨hbrace, -⟩ := closes_iff_mem.mp hcloses
    rw [hsplit] at hlead
    exact hlead.1 (List.mem_append_left inner hbrace)

theorem Matched.closes_line {lead body tail : List Char} (hlead : Braceless lead)
    (hbody : Matched body) (htail : Braceless tail) : Closes 0 0 (lead ++ (body ++ tail)) := by
  rw [closes_append_iff hlead]
  constructor
  · exact List.mem_append_left tail (List.mem_of_head? hbody.opens)
  · obtain ⟨hopened, hclosed⟩ := htail.count
    have hdepth := hbody.closes
    rw [depth] at hdepth ⊢
    rw [List.count_append, List.count_append, hopened, hclosed]
    exact hdepth

/-- A span that is balanced at the end of a line, and at no line end before, is all up to there. -/
theorem spanFrom_append_of_closes {cs behind : List Char} (hcloses : Closes 0 0 cs)
    (hbefore : ∀ p q, cs = p ++ '\n' :: q → ¬Closes 0 0 p)
    (hbehind : behind = [] ∨ behind.head? = some '\n') :
    spanFrom 0 0 (cs ++ behind) = cs := by
  rw [spanFrom_append behind hbefore]
  cases behind with
  | nil => simp [spanFrom]
  | cons c rest =>
      have hc : c = '\n' := by simpa using hbehind
      rw [Closes] at hcloses
      rw [spanFrom, if_pos hc, if_pos hcloses, List.append_nil]

/-- The span from a line on is the text up to the end of the line with the matching brace. -/
theorem extractBody_matched {text : String} {line : Nat} {front lead body tail behind : List Char}
    (htext : text.toList = front ++ (lead ++ (body ++ tail) ++ behind))
    (hline : BeginsLine front line) (hlead : Braceless lead) (hbody : Matched body)
    (htail : Braceless tail) (hrow : '\n' ∉ tail)
    (hbehind : behind = [] ∨ behind.head? = some '\n') :
    extractBody text line = String.ofList (lead ++ (body ++ tail)) := by
  have hbefore : ∀ p q, lead ++ (body ++ tail) = p ++ '\n' :: q → ¬Closes 0 0 p := by
    intro p q hsplit
    exact hbody.not_closes hlead hrow hsplit
  rw [extractBody_of_beginsLine htext hline,
    spanFrom_append_of_closes (hbody.closes_line hlead htail) hbefore hbehind]

/-- A block that is closed and opened again on one line does not end the span. -/
theorem extractBody_matched_branches :
    extractBody
        "class A \x7b\nint f() \x7b\n if (a) \x7b\n \x7d else \x7b \x7d\n\x7d // f\n\x7d" 2 =
      "int f() \x7b\n if (a) \x7b\n \x7d else \x7b \x7d\n\x7d // f" := by
  have hline : BeginsLine "class A \x7b\n".toList 2 := by decide
  have hlead : Braceless "int f() ".toList := by decide
  have hbody : Matched "\x7b\n if (a) \x7b\n \x7d else \x7b \x7d\n\x7d".toList :=
    ⟨by decide, by decide, by decide⟩
  have htail : Braceless " // f".toList := by decide
  have hrow : '\n' ∉ " // f".toList := by decide
  have hbehind : "\n\x7d".toList = [] ∨ "\n\x7d".toList.head? = some '\n' := by decide
  exact extractBody_matched rfl hline hlead hbody htail hrow hbehind

end Code
end FormulaMap
