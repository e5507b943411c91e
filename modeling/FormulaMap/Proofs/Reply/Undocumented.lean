import FormulaMap.Proofs.Code.Declarations
import FormulaMap.Proofs.Reply.Contract
import FormulaMap.Proofs.Text.Occurrences

/-!
# Methods without documentation

The record of a method without a doc comment has a placeholder where the formula text would be, and
the symbols of a reply are looked up in the placeholder as in any other text.  Those that are pieces
of it pass for symbols of a formula; which replies that lets through is settled here.
-/

namespace FormulaMap

namespace Symbol

/-- A symbol whose first character a text does not have stands nowhere in it. -/
theorem standsAloneIn_of_notMem {first : Char} {more cs : List Char} (h : first ∉ cs)
    (before : Option Char) : standsAloneIn (first :: more) before 0 cs = false := by
  induction cs generalizing before with
  | nil => rfl
  | cons c cs ih =>
      obtain ⟨hc, hcs⟩ := not_or.mp (List.mem_cons.not.mp h)
      have hafter : Text.after? (first :: more) (c :: cs) = none := by
        rw [Text.after?, if_neg (by simpa using hc)]
      rw [standsAloneIn, hafter]
      exact ih hcs (some c)

/-- In a text without numbers every symbol but the empty one may be part of a longer run. -/
theorem containedIn_iff_of_not_numeric {text : String}
    (h : ∀ c ∈ text.toList, Text.isNumeric c = false) (key : String) :
    containedIn text key = true ↔ key ≠ "" ∧ key.toList <:+: text.toList := by
  rw [containedIn, Ne, ← String.toList_eq_nil_iff]
  cases key.toList with
  | nil => simp
  | cons first more =>
      by_cases hnumeric : Text.isNumeric first = true
      · have hfirst : first ∉ text.toList := by
          intro hmem
          rw [h first hmem] at hnumeric
          cases hnumeric
        have hpiece : ¬first :: more <:+: text.toList := by
          intro hpart
          exact hfirst (hpart.subset List.mem_cons_self)
        simp only [if_pos hnumeric, standsAloneIn_of_notMem hfirst]
        simp [hpiece]
      · simp only [if_neg hnumeric, Text.occursIn_iff]
        simp

/-- A symbol that is a piece of the words that stand for no documentation. -/
def InPlaceholder (key : String) : Prop :=
  key ≠ "" ∧ key.toList <:+: MethodRecord.noComment.toList

instance : DecidablePred InPlaceholder :=
  fun _ => inferInstanceAs (Decidable (_ ∧ _))

theorem containedIn_noComment (key : String) :
    containedIn MethodRecord.noComment key = decide (InPlaceholder key) := by
  have hall : MethodRecord.noComment.toList.all (fun c => !Text.isNumeric c) = true := by decide
  have hletters : ∀ c ∈ MethodRecord.noComment.toList, Text.isNumeric c = false := by
    simpa using hall
  rw [Bool.eq_iff_iff, decide_eq_true_iff]
  exact containedIn_iff_of_not_numeric hletters key

end Symbol

namespace Reply

open FormulaMap.Symbol (InPlaceholder)

/-- Without documentation the symbols in the placeholder are the ones that are not foreign. -/
theorem foreignKeys_noComment (m : SymbolMapping) :
    foreignKeys m MethodRecord.noComment = m.keys.filter fun key => ¬InPlaceholder key := by
  rw [foreignKeys]
  simp only [Symbol.containedIn_noComment, decide_not]

theorem admitted_noComment (m : SymbolMapping) :
    admitted m MethodRecord.noComment = ⟨m.entries.filter fun e => InPlaceholder e.1⟩ := by
  rw [admitted]
  simp only [Symbol.containedIn_noComment]

/-- A method without a doc comment has the placeholder for its documentation. -/
theorem documentation_record {lines : List (List Char)} {s : Code.Selection} {m : Code.Method}
    (h : Code.documentation m.earlier = []) :
    (m.record lines s).documentation = MethodRecord.noComment := by
  rw [Code.Method.record, Code.Method.documentation, h]
  rfl

/-- How the replies to a request without documentation are read: their symbols are looked up in the
placeholder. -/
structure ReadsPlaceholder (record : MethodRecord) : Prop where
  documentation : record.documentation = MethodRecord.noComment
  /-- Stripping keeps the symbols that are pieces of the placeholder. -/
  strip : ∀ raw object decoded, parse raw record.candidates = .ok (object, decoded) →
    interpret .strip record raw =
      ⟨record.name, .mapped ⟨decoded.entries.filter fun e => InPlaceholder e.1⟩
        (decoded.keys.filter fun key => ¬InPlaceholder key)⟩
  /-- Stripping sets all symbols aside only if none is a piece of the placeholder. -/
  strip_none : ∀ raw object decoded, parse raw record.candidates = .ok (object, decoded) →
    ((interpret .strip record raw).outcome = .mapped .empty decoded.keys ↔
      ∀ key ∈ decoded.keys, ¬InPlaceholder key)
  /-- Rejecting passes a mapping all of whose symbols are pieces of the placeholder. -/
  reject : ∀ raw object decoded, parse raw record.candidates = .ok (object, decoded) →
    interpret .reject record raw =
      if ∀ key ∈ decoded.keys, InPlaceholder key then .mapped record.name decoded
      else .failed record.name .contractViolation
        ("keys not in formula: " ++
          ", ".intercalate (decoded.keys.filter fun key => ¬InPlaceholder key))
        (some object)

theorem readsPlaceholder {record : MethodRecord}
    (h : record.documentation = MethodRecord.noComment) : ReadsPlaceholder record := by
  have hstrip : ∀ raw object decoded, parse raw record.candidates = .ok (object, decoded) →
      interpret .strip record raw =
        ⟨record.name, .mapped ⟨decoded.entries.filter fun e => InPlaceholder e.1⟩
          (decoded.keys.filter fun key => ¬InPlaceholder key)⟩ := by
    intro raw object decoded hparse
    rw [interpret_strip_of_ok hparse, h, admitted_noComment, foreignKeys_noComment]
  refine ⟨h, hstrip, ?_, ?_⟩
  · intro raw object decoded hparse
    have hkeys : (decoded.keys.filter fun key => ¬InPlaceholder key) = decoded.keys ↔
        ∀ key ∈ decoded.keys, ¬InPlaceholder key := by
      simp [List.filter_eq_self]
    rw [hstrip raw object decoded hparse, ← hkeys]
    constructor
    · intro houtcome
      injection houtcome
    · intro hall
      have hentries : (decoded.entries.filter fun e => InPlaceholder e.1) = [] := by
        rw [List.filter_eq_nil_iff]
        intro e he
        have hkey := hkeys.mp hall e.1 (List.mem_map.mpr ⟨e, he, rfl⟩)
        simpa using hkey
      rw [hall, hentries]
      rfl
  · intro raw object decoded hparse
    rw [interpret_reject_of_ok hparse, h, foreignKeys_noComment]
    simp only [List.filter_eq_nil_iff, decide_not, Bool.not_eq_true', decide_eq_false_iff_not,
      not_not]

/-- A variable that is called by a letter of the placeholder is taken for a symbol of a formula. -/
example : interpret .strip ⟨"f", MethodRecord.noComment, NameSet.ofList ["m"], NameSet.empty, "", 1⟩
    "\x7b\"m\": \"m\", \"v\": \"m\"\x7d" =
      ⟨"f", .mapped ⟨[("m", .named "m")]⟩ ["v"]⟩ := by
  decide +kernel

/-- Whatever the source text, either there are no records or there is one for every method, and the
replies to a method without a doc comment are checked against the placeholder. -/
theorem interpret_undocumented (source : String) (s : Code.Selection) :
    (∃ failure, Code.records source s = .error failure) ∨
      ∃ rs, Code.records source s = .ok rs ∧
        List.Forall₂ (fun m r => Code.documentation m.earlier = [] → ReadsPlaceholder r)
          ((Code.syntaxTree source.toList).methods 0 []) rs := by
  cases hrecords : Code.records source s with
  | error failure => exact .inl ⟨failure, rfl⟩
  | ok rs =>
      refine .inr ⟨rs, rfl, ?_⟩
      rw [Code.eq_map_record_of_recordsOfTree hrecords, List.forall₂_map_right_iff,
        List.forall₂_same]
      intro m _ hdocumentation
      exact readsPlaceholder (documentation_record hdocumentation)

end Reply
end FormulaMap
