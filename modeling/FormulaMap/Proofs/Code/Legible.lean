import FormulaMap.Proofs.Code.Declarations
import FormulaMap.Proofs.Text.Splitting

/-!
# Records that can be read

A record names the line its declaration starts on, and its code is recovered from that line on.  The
rows before a declaration and the lines of the source text are counted apart from each other, but
both by newlines alone, so the line is there whatever else ends lines in the text.  A span keeps its
first line, and that line holds the start of the declaration.  So code is never blank if every
declaration starts with a character that is not, and the words for no code are never used.
-/

namespace FormulaMap
namespace Code

/-! ## The first line of a span -/

theorem takeBalanced_isPrefix (opened closed : Nat) (lines : List (List Char)) :
    takeBalanced opened closed lines <+: lines := by
  induction lines generalizing opened closed with
  | nil => exact List.prefix_rfl
  | cons line rest ih =>
      simp only [takeBalanced]
      split
      · exact List.cons_prefix_cons.mpr ⟨rfl, List.nil_prefix⟩
      · exact List.cons_prefix_cons.mpr ⟨rfl, ih _ _⟩

theorem head?_takeBalanced (opened closed : Nat) (lines : List (List Char)) :
    (takeBalanced opened closed lines).head? = lines.head? := by
  cases lines with
  | nil => rfl
  | cons line rest =>
      simp only [takeBalanced]
      split
      · rfl
      · rfl

/-- The lines of a span are the lines it was recovered from. -/
theorem splitAt_extractBody {text : String} {line : Nat} (hline : 1 ≤ line)
    (h : line ≤ (Text.splitAt '\n' text.toList).length) :
    Text.splitAt '\n' (extractBody text line).toList =
      takeBalanced 0 0 ((Text.splitAt '\n' text.toList).drop (line - 1)) := by
  have hbelow : (Text.splitAt '\n' text.toList).drop (line - 1) ≠ [] := by
    rw [ne_eq, List.drop_eq_nil_iff]
    omega
  have hbegins := takeBalanced_isPrefix 0 0 ((Text.splitAt '\n' text.toList).drop (line - 1))
  simp only [extractBody, bodyAmong]
  rw [if_neg (Nat.ne_of_gt hline), String.toList_ofList]
  apply Text.splitAt_joinWith
  · rw [ne_eq, ← List.head?_eq_none_iff, head?_takeBalanced, List.head?_eq_none_iff]
    exact hbelow
  · intro piece hpiece
    exact Text.notMem_of_mem_splitAt (List.mem_of_mem_drop (hbegins.subset hpiece))

theorem head?_splitAt_extractBody {text : String} {line : Nat} (hline : 1 ≤ line)
    (h : line ≤ (Text.splitAt '\n' text.toList).length) :
    (Text.splitAt '\n' (extractBody text line).toList).head? =
      (Text.splitAt '\n' text.toList)[line - 1]? := by
  rw [splitAt_extractBody hline h, head?_takeBalanced, List.head?_drop]

/-! ## Where a declaration starts -/

/-- Whether the text of a declaration is not empty and starts with no blank. -/
def Declaration.StartsShown (d : Declaration) : Prop :=
  ∃ c rest, d.node.spelling = c :: rest ∧ Text.isBlank c = false

/-- The line behind the rows before a declaration is a line of the text. -/
theorem line_le_length_splitAt (before behind : List Char) :
    before.count '\n' + 1 ≤ (Text.splitAt '\n' (before ++ behind)).length := by
  rw [Text.length_splitAt, List.count_append]
  omega

/-- What is recovered from the line a declaration starts on holds the first character of the
declaration. -/
theorem mem_extractBody {source : String} {before rest : List Char} {c : Char}
    (hsource : source.toList = before ++ c :: rest) (hc : c ≠ '\n') :
    c ∈ (extractBody source (before.count '\n' + 1)).toList := by
  have hline : '\n' ∉ lineSoFar before ++ [c] := by
    rw [List.mem_append, List.mem_singleton, not_or]
    exact ⟨notMem_lineSoFar before, Ne.symm hc⟩
  have hgoes : ∀ p q, lineSoFar before ++ [c] = p ++ '\n' :: q → ¬Closes 0 0 p := by
    intro p q hsplit
    rw [hsplit] at hline
    exact absurd (by simp) hline
  rw [extractBody, hsource, bodyAmong_splitAt, String.toList_ofList, List.append_cons,
    spanFrom_append rest hgoes]
  simp

/-! ## What every record offers -/

/-- Whether a record can be read next to its source text: there is documentation, and the code is
what is recovered from a line of the text, begins with that line, and is not blank.  The words for
no code stand for blank code only, so they are not used. -/
structure Legible (source : String) (r : MethodRecord) : Prop where
  documented : r.documentation ≠ ""
  line_pos : 1 ≤ r.startLine
  line_le : r.startLine ≤ (Text.splitAt '\n' source.toList).length
  recovered : r.code = extractBody source r.startLine
  shown : Text.trim (extractBody source r.startLine).toList ≠ []
  first_line : (Text.splitAt '\n' r.code.toList).head? =
    (Text.splitAt '\n' source.toList)[r.startLine - 1]?

theorem Method.record_documentation (lines : List (List Char)) (s : Selection) (m : Method) :
    (m.record lines s).documentation = m.documentation := by
  rw [Method.record]

theorem Method.record_startLine (lines : List (List Char)) (s : Selection) (m : Method) :
    (m.record lines s).startLine = m.startLine := by
  rw [Method.record]

theorem Method.documentation_ne_empty (m : Method) : m.documentation ≠ "" := by
  simp only [Method.documentation]
  split
  · decide
  · next hdoc => simpa using hdoc

theorem Method.code_of_shown {source : String} {m : Method}
    (h : Text.trim (extractBody source m.startLine).toList ≠ []) :
    m.code (Text.splitAt '\n' source.toList) = extractBody source m.startLine := by
  rw [extractBody] at h
  rw [Method.code, extractBody]
  exact if_neg (by simpa using h)

/-- The record of a method whose declaration stands in the source text and starts with a character
that is not blank. -/
theorem legible_record {source : String} {behind : List Char} {d : Declaration} {m : Method}
    (s : Selection) (hsource : source.toList = d.before ++ d.node.spelling ++ behind)
    (hrows : m.rowsBefore = d.before.count '\n') (hd : d.StartsShown) :
    Legible source (m.record (Text.splitAt '\n' source.toList) s) := by
  obtain ⟨c, rest, hspelling, hc⟩ := hd
  have hstart : m.startLine = d.before.count '\n' + 1 := by rw [Method.startLine, hrows]
  have hplace : source.toList = d.before ++ c :: (rest ++ behind) := by
    rw [hsource, hspelling]
    simp
  have hne : c ≠ '\n' := by
    rintro rfl
    revert hc
    decide
  have hpos : 1 ≤ m.startLine := by omega
  have hle : m.startLine ≤ (Text.splitAt '\n' source.toList).length := by
    rw [hstart, hplace]
    exact line_le_length_splitAt _ _
  have hshown : Text.trim (extractBody source m.startLine).toList ≠ [] := by
    rw [hstart]
    exact Text.trim_ne_nil (mem_extractBody hplace hne) hc
  have hcode := Method.code_of_shown hshown
  constructor
  case documented =>
    rw [Method.record_documentation]
    exact m.documentation_ne_empty
  all_goals simp only [Method.record_code, Method.record_startLine, hcode]
  case line_pos => exact hpos
  case line_le => exact hle
  case shown => exact hshown
  case first_line => exact head?_splitAt_extractBody hpos hle

/-- Records show that the syntax tree spells the source text. -/
theorem spelling_syntaxTree_of_records {source : String} {s : Selection} {rs : List MethodRecord}
    (h : records source s = .ok rs) : (syntaxTree source.toList).spelling = source.toList := by
  rcases spelling_syntaxTree_or source.toList with hspelling | hnone
  · exact hspelling
  · rw [records, recordsOfTree, hnone] at h
    split at h
    · cases h
    · cases h

theorem recordsOfTree_legible {source : String} {s : Selection} {tree : Forest}
    {rs : List MethodRecord} (htree : tree.spelling = source.toList)
    (hshown : ∀ d ∈ tree.declarations [], d.StartsShown)
    (h : recordsOfTree source s tree = .ok rs) : ∀ r ∈ rs, Legible source r := by
  intro r hr
  obtain ⟨hlength, hpairs⟩ := List.forall₂_iff_get.mp (forall₂_records htree h)
  obtain ⟨i, rfl⟩ := List.mem_iff_get.mp hr
  have hi : i.val < (tree.declarations []).length := by
    rw [hlength]
    exact i.isLt
  obtain ⟨m, hrecord, hrows, behind, hbehind⟩ := hpairs i.val hi i.isLt
  rw [hrecord]
  exact legible_record s hbehind hrows (hshown _ (List.get_mem _ _))

/-- Whatever tree a source text has, the one that is found for it or another that spells it, every
record can be read next to the text if every declaration starts with a character that is not
blank. -/
theorem records_legible (source : String) (s : Selection) :
    (∀ tree : Forest, tree.spelling = source.toList →
        (∀ d ∈ tree.declarations [], d.StartsShown) →
        ∀ rs, recordsOfTree source s tree = .ok rs → ∀ r ∈ rs, Legible source r) ∧
      ((∀ d ∈ (syntaxTree source.toList).declarations [], d.StartsShown) →
        ∀ rs, records source s = .ok rs → ∀ r ∈ rs, Legible source r) := by
  constructor
  · intro tree htree hshown rs hrs
    exact recordsOfTree_legible htree hshown hrs
  · intro hshown rs hrs
    exact recordsOfTree_legible (spelling_syntaxTree_of_records hrs) hshown hrs

/-- A tree with one method, in a text whose lines end with carriage returns as well. -/
def returnsTree : Forest :=
  .node [] none (.phrase .program)
    (.node "class A \x7b\r\n  ".toList none (.phrase .methodDeclaration)
      (.node "int ".toList (some .name) (.token .identifier) (.text "f".toList)
        (.text "() \x7b return 1; \x7d".toList))
      (.text "\r\n\x7d\r\n".toList))
    (.text [])

theorem records_legible_returns :
    Legible "class A \x7b\r\n  int f() \x7b return 1; \x7d\r\n\x7d\r\n"
      ⟨"f", "No comment", NameSet.empty, NameSet.empty, "  int f() \x7b return 1; \x7d\r", 2⟩ := by
  refine (records_legible _ ⟨.numericTyped, false⟩).1 returnsTree (by decide) ?_ [_] ?_ _
    (List.mem_singleton_self _)
  · intro d hd
    obtain rfl := List.mem_singleton.mp hd
    exact ⟨'i', "nt f() \x7b return 1; \x7d".toList, rfl, by decide⟩
  · rfl

end Code
end FormulaMap
