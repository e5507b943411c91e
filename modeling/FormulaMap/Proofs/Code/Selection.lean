import FormulaMap.Code.Methods
import Mathlib.Data.List.Forall2

/-!
# What a selection decides

A selection says which declared names become candidate variables, and decides nothing else: not
whether a source text gives records, not how many, and of a record nothing but its candidates.
Admitting more declarations never takes a candidate away.
-/

namespace FormulaMap
namespace Code

/-- Two records differ in their candidate variables at most. -/
structure AlikeButForCandidates (a b : MethodRecord) : Prop where
  name : a.name = b.name
  documentation : a.documentation = b.documentation
  calls : a.calls = b.calls
  code : a.code = b.code
  startLine : a.startLine = b.startLine

namespace Selection

/-- Whatever the first selection admits, the second does. -/
def Within (s t : Selection) : Prop :=
  ∀ d, s.admits d = true → t.admits d = true

/-- Declarations of any type are admitted where numeric ones are. -/
theorem within_allDeclared (counters : Bool) :
    Within ⟨.numericTyped, counters⟩ ⟨.allDeclared, counters⟩ := by
  intro d h
  rw [admits, Bool.and_eq_true] at h ⊢
  exact ⟨h.1, VariablePolicy.admits_allDeclared _⟩

/-- With counters of loops, all other declarations are still admitted. -/
theorem within_counters (policy : VariablePolicy) : Within ⟨policy, false⟩ ⟨policy, true⟩ := by
  intro d h
  rw [admits, Bool.and_eq_true] at h ⊢
  exact ⟨rfl, h.2⟩

theorem mem_candidates_iff {s : Selection} {ds : List Declared} {name : String} :
    name ∈ (s.candidates ds).toList ↔ ∃ d ∈ ds, s.admits d = true ∧ d.name = name := by
  rw [candidates, NameSet.mem_ofList, List.mem_map]
  constructor
  · rintro ⟨d, hd, hname⟩
    rw [List.mem_filter] at hd
    exact ⟨d, hd.1, hd.2, hname⟩
  · rintro ⟨d, hd, hadmits, hname⟩
    exact ⟨d, List.mem_filter.mpr ⟨hd, hadmits⟩, hname⟩

/-- Admitting more gives more candidates, whatever is declared. -/
theorem Within.candidates_subset {s t : Selection} (h : s.Within t) (ds : List Declared) :
    (s.candidates ds).toList ⊆ (t.candidates ds).toList := by
  intro name hname
  obtain ⟨d, hd, hadmits, heq⟩ := mem_candidates_iff.mp hname
  exact mem_candidates_iff.mpr ⟨d, hd, h d hadmits, heq⟩

end Selection

/-- A tree fails in one way for all selections, or gives the records of the same methods for all of
them. -/
theorem recordsOfTree_cases (source : String) (tree : Forest) :
    (∃ failure, ∀ s, recordsOfTree source s tree = .error failure) ∨
      ∃ ms : List Method, ∀ s, recordsOfTree source s tree =
        .ok (ms.map (Method.record (Text.splitAt '\n' source.toList) s)) := by
  unfold recordsOfTree
  cases tree.rootFault? with
  | some fault => exact .inl ⟨.faulty fault, fun _ => rfl⟩
  | none =>
      cases tree.methods 0 [] with
      | nil => exact .inl ⟨.noMethods, fun _ => rfl⟩
      | cons m ms => exact .inr ⟨m :: ms, fun _ => rfl⟩

/-- The records of the same methods under two selections, compared one by one. -/
theorem forall₂_record {lines : List (List Char)} {s t : Selection} {ms : List Method}
    {R : MethodRecord → MethodRecord → Prop}
    (h : ∀ m : Method, R (m.record lines s) (m.record lines t)) :
    List.Forall₂ R (ms.map (Method.record lines s)) (ms.map (Method.record lines t)) := by
  rw [List.forall₂_map_left_iff, List.forall₂_map_right_iff, List.forall₂_same]
  exact fun m _ => h m

/-- What is found fails in one and the same way under all selections, or it is records under all of
them, and these agree one by one in all but their candidates.  Admitting types that are not numeric,
or counters of loops, never takes a candidate away from a record. -/
def AlikeUnderSelections (found : Selection → Except ReadFailure (List MethodRecord)) : Prop :=
  (∃ failure, ∀ s, found s = .error failure) ∨
    ∃ rs : Selection → List MethodRecord,
      (∀ s, found s = .ok (rs s)) ∧
      (∀ s t, List.Forall₂ AlikeButForCandidates (rs s) (rs t)) ∧
      (∀ counters, List.Forall₂ (fun r r' => r.candidates.toList ⊆ r'.candidates.toList)
        (rs ⟨.numericTyped, counters⟩) (rs ⟨.allDeclared, counters⟩)) ∧
      (∀ policy, List.Forall₂ (fun r r' => r.candidates.toList ⊆ r'.candidates.toList)
        (rs ⟨policy, false⟩) (rs ⟨policy, true⟩))

theorem alikeUnderSelections_recordsOfTree (source : String) (tree : Forest) :
    AlikeUnderSelections fun s => recordsOfTree source s tree := by
  rcases recordsOfTree_cases source tree with hfailure | ⟨ms, hms⟩
  · exact .inl hfailure
  · refine .inr ⟨_, hms, ?_, ?_, ?_⟩
    · intro s t
      exact forall₂_record fun m => ⟨rfl, rfl, rfl, rfl, rfl⟩
    · intro counters
      exact forall₂_record fun m =>
        (Selection.within_allDeclared counters).candidates_subset m.node.declaredByMethod
    · intro policy
      exact forall₂_record fun m =>
        (Selection.within_counters policy).candidates_subset m.node.declaredByMethod

/-- A selection decides about the candidates of records and about nothing else, whatever tree a
source text has and for the one that is found for it. -/
theorem records_under_selections (source : String) :
    (∀ tree : Forest, AlikeUnderSelections fun s => recordsOfTree source s tree) ∧
      AlikeUnderSelections (records source) :=
  ⟨alikeUnderSelections_recordsOfTree source,
    alikeUnderSelections_recordsOfTree source (syntaxTree source.toList)⟩

end Code
end FormulaMap
