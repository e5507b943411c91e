import FormulaMap.Report
import Mathlib.Algebra.Ring.Nat

/-!
# Reports are sums

The report of a list of outcomes adds up the reports of the single outcomes, field by field.  So it
does not depend on their order, the report of two lists one behind the other is the sum of theirs,
and each field counts the outcomes it is named for: an outcome is either a mapping or a failure of
one of the three kinds, and is counted as that once.
-/

namespace FormulaMap
namespace Report

theorem zero_add (a : Report) : zero.add a = a := by
  simp [zero, add]

theorem add_zero (a : Report) : a.add zero = a := rfl

theorem add_assoc (a b c : Report) : (a.add b).add c = a.add (b.add c) := by
  simp [add, Nat.add_assoc]

theorem add_comm (a b : Report) : a.add b = b.add a := by
  simp [add, Nat.add_comm]

/-- Counting on from a report adds to it what is counted. -/
theorem foldl_add_single (base : Report) (rs : List MethodOutcome) :
    rs.foldl (fun report r => report.add (single r)) base = base.add (ofOutcomes rs) := by
  induction rs generalizing base with
  | nil => exact (add_zero base).symm
  | cons r rest ih =>
      rw [ofOutcomes, List.foldl_cons, List.foldl_cons, ih, ih (zero.add (single r)), zero_add,
        add_assoc]

theorem ofOutcomes_cons (r : MethodOutcome) (rs : List MethodOutcome) :
    ofOutcomes (r :: rs) = (single r).add (ofOutcomes rs) := by
  rw [ofOutcomes, List.foldl_cons, foldl_add_single, zero_add]

/-- The report of two lists one behind the other is the sum of their reports. -/
theorem ofOutcomes_append_eq_add (rs others : List MethodOutcome) :
    ofOutcomes (rs ++ others) = (ofOutcomes rs).add (ofOutcomes others) := by
  rw [ofOutcomes, List.foldl_append, foldl_add_single]
  rfl

/-- The order of the outcomes does not matter. -/
theorem ofOutcomes_eq_of_perm {rs others : List MethodOutcome} (h : rs.Perm others) :
    ofOutcomes rs = ofOutcomes others := by
  induction h with
  | nil => rfl
  | cons r _ ih => rw [ofOutcomes_cons, ofOutcomes_cons, ih]
  | swap r r' rest =>
      rw [ofOutcomes_cons, ofOutcomes_cons, ofOutcomes_cons, ofOutcomes_cons, ← add_assoc,
        add_comm (single r'), add_assoc]
  | trans _ _ ih ih' => exact ih.trans ih'

/-! ## What is counted -/

/-- A report says of a list of outcomes how many there are, how many of them are mappings, with
something set aside or not, how many symbols the mappings leave without a construct, and how many
failures there are of each kind. -/
structure Tallies (report : Report) (rs : List MethodOutcome) : Prop where
  methods : report.methods = rs.length
  mapped : report.mapped = rs.countP (·.isSuccess)
  withRejectedKeys : report.withRejectedKeys = rs.countP fun r => r.rejected ≠ []
  unmappedSymbols : report.unmappedSymbols =
    ((rs.filterMap (·.mapping?)).map fun m => m.entries.countP fun e => e.2 = .unmapped).sum
  transportErrors : report.transportErrors = rs.countP (·.failure? = some .transport)
  formatErrors : report.formatErrors = rs.countP (·.failure? = some .format)
  contractViolations :
    report.contractViolations = rs.countP (·.failure? = some .contractViolation)

theorem tallies_zero : zero.Tallies [] :=
  ⟨rfl, rfl, rfl, rfl, rfl, rfl, rfl⟩

theorem Tallies.append {a b : Report} {rs others : List MethodOutcome} (h : a.Tallies rs)
    (h' : b.Tallies others) : (a.add b).Tallies (rs ++ others) := by
  obtain ⟨h1, h2, h3, h4, h5, h6, h7⟩ := h
  obtain ⟨h1', h2', h3', h4', h5', h6', h7'⟩ := h'
  constructor
  · rw [add, h1, h1', List.length_append]
  · rw [add, h2, h2', List.countP_append]
  · rw [add, h3, h3', List.countP_append]
  · rw [add, h4, h4', List.filterMap_append, List.map_append, List.sum_append]
  · rw [add, h5, h5', List.countP_append]
  · rw [add, h6, h6', List.countP_append]
  · rw [add, h7, h7', List.countP_append]

/-- The symbols without a construct are those whose entry has none. -/
theorem unmappedCount_eq_countP (m : SymbolMapping) :
    m.unmappedCount = m.entries.countP fun e => e.2 = .unmapped := by
  rw [SymbolMapping.unmappedCount, ← List.countP_eq_length_filter]
  congr 1
  funext e
  cases e.2 with
  | unmapped => rfl
  | _ => rfl

theorem tallies_single (r : MethodOutcome) : (single r).Tallies [r] := by
  obtain ⟨name, outcome⟩ := r
  cases outcome with
  | mapped m keys =>
      refine ⟨rfl, rfl, ?_, ?_, rfl, rfl, rfl⟩
      · cases keys with
        | nil => rfl
        | cons key rest => rfl
      · exact unmappedCount_eq_countP m
  | failed kind error raw =>
      cases kind with
      | transport => exact ⟨rfl, rfl, rfl, rfl, rfl, rfl, rfl⟩
      | format => exact ⟨rfl, rfl, rfl, rfl, rfl, rfl, rfl⟩
      | contractViolation => exact ⟨rfl, rfl, rfl, rfl, rfl, rfl, rfl⟩

theorem tallies_ofOutcomes (rs : List MethodOutcome) : (ofOutcomes rs).Tallies rs := by
  induction rs with
  | nil => exact tallies_zero
  | cons r rest ih =>
      rw [ofOutcomes_cons]
      exact (tallies_single r).append ih

/-- Every outcome is a mapping or a failure of one kind, and only a mapping has symbols set
aside. -/
structure Balanced (report : Report) : Prop where
  methods : report.methods = report.mapped + report.failed
  withRejectedKeys : report.withRejectedKeys ≤ report.mapped

theorem Balanced.add {a b : Report} (h : a.Balanced) (h' : b.Balanced) : (a.add b).Balanced := by
  obtain ⟨hmethods, hrejected⟩ := h
  obtain ⟨hmethods', hrejected'⟩ := h'
  rw [failed] at hmethods hmethods'
  constructor
  · simp only [Report.add, failed]
    omega
  · simp only [Report.add]
    omega

theorem balanced_single (r : MethodOutcome) : (single r).Balanced := by
  obtain ⟨name, outcome⟩ := r
  cases outcome with
  | mapped m keys =>
      refine ⟨rfl, ?_⟩
      cases keys with
      | nil => exact Nat.zero_le 1
      | cons key rest => exact Nat.le_refl 1
  | failed kind error raw =>
      cases kind with
      | transport => exact ⟨rfl, Nat.le_refl 0⟩
      | format => exact ⟨rfl, Nat.le_refl 0⟩
      | contractViolation => exact ⟨rfl, Nat.le_refl 0⟩

theorem balanced_ofOutcomes (rs : List MethodOutcome) : (ofOutcomes rs).Balanced := by
  induction rs with
  | nil => exact ⟨rfl, Nat.le_refl 0⟩
  | cons r rest ih =>
      rw [ofOutcomes_cons]
      exact (balanced_single r).add ih

/-- The report of any outcomes counts each of them once, as a mapping or as a failure, and tells
the symbols that the mappings leave without a construct.  It is the sum of the reports of any two
parts, and the same for the outcomes in any other order. -/
theorem ofOutcomes_counts_once (rs : List MethodOutcome) :
    (ofOutcomes rs).Tallies rs ∧
      (ofOutcomes rs).methods = (ofOutcomes rs).mapped + (ofOutcomes rs).failed ∧
      (ofOutcomes rs).withRejectedKeys ≤ (ofOutcomes rs).mapped ∧
      (∀ others, ofOutcomes (rs ++ others) = (ofOutcomes rs).add (ofOutcomes others)) ∧
      ∀ others, rs.Perm others → ofOutcomes others = ofOutcomes rs := by
  obtain ⟨hmethods, hrejected⟩ := balanced_ofOutcomes rs
  refine ⟨tallies_ofOutcomes rs, hmethods, hrejected, ofOutcomes_append_eq_add rs, ?_⟩
  intro others hperm
  exact (ofOutcomes_eq_of_perm hperm).symm

/-- A mapping with one symbol set aside and one without a construct, and a failure, in both
orders. -/
theorem ofOutcomes_counts_once_of_two :
    let first : MethodOutcome :=
      ⟨"a", .mapped ⟨[("F", .named "force"), ("G", .unmapped)]⟩ ["x"]⟩
    let second : MethodOutcome := .failed "b" .format "No JSON found" (some "?")
    [first, second].Perm [second, first] ∧
      ofOutcomes [second, first] = ofOutcomes [first, second] ∧
      ofOutcomes [first, second] = ⟨2, 1, 1, 1, 0, 1, 0⟩ := by
  intro first second
  have hswap : [first, second].Perm [second, first] := List.Perm.swap second first []
  exact ⟨hswap, (ofOutcomes_counts_once [first, second]).2.2.2.2 _ hswap, by decide⟩

end Report
end FormulaMap
