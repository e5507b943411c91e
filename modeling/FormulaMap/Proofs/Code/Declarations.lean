import FormulaMap.Code.Methods
import FormulaMap.Proofs.Code.Reader.Run
import FormulaMap.Proofs.Code.Span
import FormulaMap.Proofs.Text.Trimming
import Mathlib.Data.List.DropRight
import Mathlib.Data.List.Forall2

/-!
# Where declarations stand and what is kept of them

The method declarations of a tree are found together with the text before them, which gives the
line a span starts on.  That line may hold braces of something else, and a declaration may balance
its own braces before its end, so the span of a declaration need not hold all of it.  Exactly when
it does not is said by `CutShort`.
-/

namespace FormulaMap
namespace Code

/-- A method declaration and the text before it. -/
structure Declaration where
  before : List Char
  node : Node

/-- The method declarations of a forest with the text before each, given the text before the
forest. -/
def Forest.declarations (before : List Char) : Forest → List Declaration
  | .text _ => []
  | .node lead _ kind inner after =>
    let here := before ++ lead
    let inside := inner.declarations here
    let behind := after.declarations (here ++ inner.spelling)
    if kind = .phrase .methodDeclaration then ⟨here, ⟨kind, inner⟩⟩ :: (inside ++ behind)
    else inside ++ behind

/-- The methods of a forest are its declarations in their order, each behind as many rows as the
text before it has. -/
theorem forall₂_declarations_methods (f : Forest) (before : List Char) (earlier : List Node) :
    List.Forall₂ (fun d m => m.node = d.node ∧ m.rowsBefore = d.before.count '\n')
      (f.declarations before) (f.methods (before.count '\n') earlier) := by
  induction f generalizing before earlier with
  | text cs => exact .nil
  | node lead field kind inner after ihInner ihAfter =>
      have hhere : before.count '\n' + lead.count '\n' = (before ++ lead).count '\n' :=
        List.count_append.symm
      have hbehind : (before ++ lead).count '\n' + inner.spelling.count '\n' =
          (before ++ lead ++ inner.spelling).count '\n' := List.count_append.symm
      simp only [Forest.declarations, Forest.methods]
      rw [hhere, hbehind]
      have hparts := List.rel_append (ihInner (before ++ lead) [])
        (ihAfter (before ++ lead ++ inner.spelling) (⟨kind, inner⟩ :: earlier))
      split
      · exact .cons ⟨rfl, rfl⟩ hparts
      · exact hparts

/-- A declaration stands behind the text before it. -/
theorem exists_eq_append_of_mem_declarations {f : Forest} {before : List Char} {d : Declaration}
    (h : d ∈ f.declarations before) :
    ∃ behind, before ++ f.spelling = d.before ++ d.node.spelling ++ behind := by
  induction f generalizing before with
  | text cs => cases h
  | node lead field kind inner after ihInner ihAfter =>
      have hparts : d ∈ inner.declarations (before ++ lead) ++
          after.declarations (before ++ lead ++ inner.spelling) →
          ∃ behind, before ++ (lead ++ (inner.spelling ++ after.spelling)) =
            d.before ++ d.node.spelling ++ behind := by
        intro hmem
        rcases List.mem_append.mp hmem with hinner | hafter
        · obtain ⟨behind, hbehind⟩ := ihInner hinner
          refine ⟨behind ++ after.spelling, ?_⟩
          rw [← List.append_assoc (d.before ++ d.node.spelling), ← hbehind]
          simp
        · obtain ⟨behind, hbehind⟩ := ihAfter hafter
          refine ⟨behind, ?_⟩
          rw [← hbehind]
          simp
      rw [Forest.spelling_node]
      simp only [Forest.declarations] at h
      split at h
      · rcases List.mem_cons.mp h with rfl | hmem
        · exact ⟨after.spelling, by simp [Node.spelling]⟩
        · exact hparts hmem
      · exact hparts h

/-! ## The line a declaration starts on -/

/-- The part of the last line that a text holds. -/
def lineSoFar (before : List Char) : List Char :=
  before.rtakeWhile (· != '\n')

theorem notMem_lineSoFar (before : List Char) : '\n' ∉ lineSoFar before := by
  intro hmem
  have hkept := List.mem_rtakeWhile_imp hmem
  simp at hkept

theorem lineSoFar_eq_or (before : List Char) :
    lineSoFar before = before ∨ ∃ front, before = front ++ '\n' :: lineSoFar before := by
  have hparts : before.rdropWhile (· != '\n') ++ lineSoFar before = before :=
    List.rdropWhile_append_rtakeWhile
  by_cases hfront : before.rdropWhile (· != '\n') = []
  · left
    rw [hfront] at hparts
    exact hparts
  · right
    have hlast := List.rdropWhile_last_not (· != '\n') before hfront
    have hnewline : (before.rdropWhile (· != '\n')).getLast hfront = '\n' := by
      simpa using hlast
    refine ⟨(before.rdropWhile (· != '\n')).dropLast, ?_⟩
    have hwhole := List.dropLast_append_getLast hfront
    rw [hnewline] at hwhole
    rw [← List.singleton_append, ← List.append_assoc, hwhole, hparts]

/-- The lines from that of a place on. -/
theorem drop_splitAt_append (before behind : List Char) :
    (Text.splitAt '\n' (before ++ behind)).drop (before.count '\n') =
      Text.splitAt '\n' (lineSoFar before ++ behind) := by
  rcases lineSoFar_eq_or before with hline | ⟨front, hfront⟩
  · have hnone : before.count '\n' = 0 := by
      rw [← hline]
      exact List.count_eq_zero_of_not_mem (notMem_lineSoFar before)
    rw [hnone, hline, List.drop_zero]
  · have hrows : before.count '\n' = front.count '\n' + 1 := by
      rw [hfront, List.count_append, List.count_cons_self,
        List.count_eq_zero_of_not_mem (notMem_lineSoFar before)]
    have hsplit : before ++ behind = front ++ '\n' :: (lineSoFar before ++ behind) := by
      conv_lhs => rw [hfront]
      simp
    rw [hrows, hsplit, drop_splitAt]

theorem bodyAmong_splitAt (before behind : List Char) :
    bodyAmong (Text.splitAt '\n' (before ++ behind)) (before.count '\n' + 1) =
      String.ofList (spanFrom 0 0 (lineSoFar before ++ behind)) := by
  simp only [bodyAmong]
  rw [if_neg (Nat.succ_ne_zero _), Nat.add_sub_cancel, drop_splitAt_append,
    joinWith_takeBalanced_splitAt]

/-! ## What the code of a record holds -/

/-- Whether the braces from the start of a declaration's first line on are balanced at a line end
inside the declaration. -/
def Declaration.CutShort (d : Declaration) : Prop :=
  ∃ p q, d.node.spelling = p ++ '\n' :: q ∧ Closes 0 0 (lineSoFar d.before ++ p)

/-- An annotation that lists values on a line of its own cuts its declaration short. -/
example : Declaration.CutShort ⟨"class A \x7b\n  ".toList, ⟨.phrase .methodDeclaration,
    .text "@Rates(\x7b1, 2\x7d)\n  double f() \x7b return 1; \x7d".toList⟩⟩ :=
  ⟨"@Rates(\x7b1, 2\x7d)".toList, "  double f() \x7b return 1; \x7d".toList, by decide, by decide⟩

/-- The code of a method holds the whole declaration unless that is cut short. -/
theorem infix_code_iff {source behind : List Char} {d : Declaration} {m : Method}
    (hsource : source = d.before ++ d.node.spelling ++ behind)
    (hrows : m.rowsBefore = d.before.count '\n')
    (hshown : ∃ c ∈ d.node.spelling, Text.isBlank c = false) :
    d.node.spelling <:+: (m.code (Text.splitAt '\n' source)).toList ↔ ¬d.CutShort := by
  have hbody : bodyAmong (Text.splitAt '\n' source) m.startLine =
      String.ofList (spanFrom 0 0 (lineSoFar d.before ++ d.node.spelling ++ behind)) := by
    rw [Method.startLine, hrows, hsource, List.append_assoc, bodyAmong_splitAt,
      ← List.append_assoc]
  have hcut : d.CutShort ↔
      ¬d.node.spelling <:+: spanFrom 0 0 (lineSoFar d.before ++ d.node.spelling ++ behind) := by
    rw [infix_spanFrom_iff (notMem_lineSoFar d.before), Declaration.CutShort]
    simp
  rw [hcut, not_not, Method.code, hbody]
  simp only [String.toList_ofList]
  split
  · next hempty =>
      rw [List.isEmpty_iff] at hempty
      constructor
      · -- the words for no code have no line end, so that nothing cut short is inside them
        intro hwords
        by_contra hmissing
        obtain ⟨p, q, hspelling, -⟩ := hcut.mpr hmissing
        have hnewline : '\n' ∈ MethodRecord.extractionFailed.toList := by
          apply hwords.subset
          rw [hspelling]
          simp
        revert hnewline
        decide
      · intro hheld
        obtain ⟨c, hmem, hc⟩ := hshown
        exact absurd hempty (Text.trim_ne_nil (hheld.subset hmem) hc)
  · rw [String.toList_ofList]

/-- Records are those of all methods of the tree. -/
theorem eq_map_record_of_recordsOfTree {source : String} {s : Selection} {tree : Forest}
    {rs : List MethodRecord} (h : recordsOfTree source s tree = .ok rs) :
    rs = (tree.methods 0 []).map (Method.record (Text.splitAt '\n' source.toList) s) := by
  unfold recordsOfTree at h
  split at h
  · cases h
  · split at h
    · cases h
    · cases h
      rfl

/-- The records of a tree are those of its declarations one by one, each standing in the source text
behind as many rows as the text before it has. -/
theorem forall₂_records {source : String} {s : Selection} {tree : Forest}
    {rs : List MethodRecord} (htree : tree.spelling = source.toList)
    (h : recordsOfTree source s tree = .ok rs) :
    List.Forall₂ (fun d r => ∃ m : Method, r = m.record (Text.splitAt '\n' source.toList) s ∧
        m.rowsBefore = d.before.count '\n' ∧
        ∃ behind, source.toList = d.before ++ d.node.spelling ++ behind)
      (tree.declarations []) rs := by
  rw [eq_map_record_of_recordsOfTree h, List.forall₂_map_right_iff]
  have hplaces := forall₂_declarations_methods tree [] []
  rw [List.count_nil] at hplaces
  have hinside : List.Forall₂ (fun d m => d ∈ tree.declarations [] ∧
      m.node = d.node ∧ m.rowsBefore = d.before.count '\n')
      (tree.declarations []) (tree.methods 0 []) :=
    (List.forall₂_and_left _ _).mpr ⟨fun d hd => hd, hplaces⟩
  refine hinside.imp ?_
  rintro d m ⟨hmem, -, hrows⟩
  obtain ⟨behind, hbehind⟩ := exists_eq_append_of_mem_declarations hmem
  rw [List.nil_append, htree] at hbehind
  exact ⟨m, rfl, hrows, behind, hbehind⟩

theorem Method.record_code (lines : List (List Char)) (s : Selection) (m : Method) :
    (m.record lines s).code = m.code lines := by
  rw [Method.record]

/-- The code of a record holds all of a declaration that is not blank exactly if that is not cut
short. -/
def Declaration.KeptUnlessCut (d : Declaration) (r : MethodRecord) : Prop :=
  (∃ c ∈ d.node.spelling, Text.isBlank c = false) →
    (d.node.spelling <:+: r.code.toList ↔ ¬d.CutShort)

/-- Either there are no records or there is one for every declaration of a tree in turn, which holds
it unless it is cut short. -/
def Forest.CodeKept (tree : Forest) (found : Except ReadFailure (List MethodRecord)) : Prop :=
  (∃ failure, found = .error failure) ∨
    ∃ rs, found = .ok rs ∧ List.Forall₂ Declaration.KeptUnlessCut (tree.declarations []) rs

theorem codeKept_recordsOfTree {source : String} {tree : Forest} (s : Selection)
    (htree : tree.spelling = source.toList) : tree.CodeKept (recordsOfTree source s tree) := by
  cases hrecords : recordsOfTree source s tree with
  | error failure => exact .inl ⟨failure, rfl⟩
  | ok rs =>
      refine .inr ⟨rs, rfl, (forall₂_records htree hrecords).imp ?_⟩
      rintro d r ⟨m, rfl, hrows, behind, hbehind⟩ hshown
      rw [Method.record_code]
      exact infix_code_iff hbehind hrows hshown

/-! ## The records of a source text -/

theorem kindOf_ne_phrase {label : Reader.Label} (h : ∀ head, label ≠ .phrase head) (p : Phrase) :
    kindOf label ≠ .phrase p := by
  cases label with
  | token n =>
      rw [kindOf]
      split
      · simp
      · simp
  | phrase head => exact absurd rfl (h head)
  | fault => simp [kindOf]
  | faultRun => simp [kindOf]

/-- A single token declares nothing. -/
theorem methods_plant_leaf {facts : Reader.Facts} (h : ∀ head, facts.label ≠ .phrase head)
    (blank cs : List Char) (rows : Nat) (earlier : List Node) :
    (plant (some (kindOf facts.label)) (.leaf facts blank cs)).methods rows earlier = [] := by
  have hkind := kindOf_ne_phrase h .methodDeclaration
  rw [plant, enclose, if_pos (by simp)]
  simp only [Option.getD_some, Forest.dropBefore, Forest.methods, if_neg hkind, List.append_nil]

/-- The syntax tree of a text spells the text, or declares nothing. -/
theorem spelling_syntaxTree_or (source : List Char) :
    (syntaxTree source).spelling = source ∨ (syntaxTree source).methods 0 [] = [] := by
  unfold syntaxTree
  generalize hread : Reader.read source = found
  cases found with
  | none =>
      left
      rw [Forest.spelling_node, Forest.spelling_text, Forest.spelling_text]
      simp
  | some g =>
      rcases Reader.whole_of_read hread with hspelling | ⟨facts, blank, cs, rfl, hlabel⟩
      · left
        exact (Reader.Growth.spelling_plant _ g).trans hspelling
      · right
        exact methods_plant_leaf hlabel blank cs 0 []

/-- Whatever the source text and its tree, either there are no records or there is one for every
declaration in turn, and its code holds all of a declaration that is not blank exactly if it is not
cut short.  So it is for the tree that is found for the text. -/
theorem records_code (source : String) (s : Selection) :
    (∀ tree : Forest, tree.spelling = source.toList →
      tree.CodeKept (recordsOfTree source s tree)) ∧
    (syntaxTree source.toList).CodeKept (records source s) := by
  refine ⟨fun tree htree => codeKept_recordsOfTree s htree, ?_⟩
  rcases spelling_syntaxTree_or source.toList with hspelling | hnone
  · exact codeKept_recordsOfTree s hspelling
  · left
    rw [records, recordsOfTree, hnone]
    split
    · exact ⟨_, rfl⟩
    · exact ⟨_, rfl⟩

/-- A tree with a method behind an annotation that lists values on a line of its own. -/
def annotatedTree : Forest :=
  .node [] none (.phrase .program)
    (.node "class A \x7b\n".toList none (.phrase .methodDeclaration)
      (.node "@Rates(\x7b1, 2\x7d)\ndouble ".toList (some .name) (.token .identifier) (.text ['f'])
        (.text "() \x7b return 1; \x7d".toList))
      (.text "\n\x7d\n".toList))
    (.text [])

/-- The code of the method is that line alone. -/
theorem records_code_annotated :
    let source := String.ofList annotatedTree.spelling
    let found := recordsOfTree source ⟨.numericTyped, false⟩ annotatedTree
    annotatedTree.CodeKept found ∧
      ∃ rs, found = .ok rs ∧ rs.map (·.code) = ["@Rates(\x7b1, 2\x7d)"] := by
  intro source found
  have hkept := (records_code source ⟨.numericTyped, false⟩).1 annotatedTree (by decide)
  exact ⟨hkept, [_], rfl, by decide⟩

end Code
end FormulaMap
