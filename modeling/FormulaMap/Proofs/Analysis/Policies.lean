import FormulaMap.Proofs.Analysis.Order
import FormulaMap.Proofs.Reply.Contract
import FormulaMap.Proofs.Report.Sum

/-!
# Setting symbols aside and refusing them

The same answers are taken twice, once setting foreign symbols aside and once refusing replies that
have some.  Refusing changes an outcome only where symbols were set aside, and then into a failure
that names just these symbols; so the counts of one report follow from those of the other.
-/

namespace FormulaMap

/-- The report when foreign symbols are refused follows from the one when they are set aside. -/
structure Report.Hardens (lenient strict : Report) : Prop where
  methods : lenient.methods = strict.methods
  mapped : lenient.mapped = strict.mapped + strict.contractViolations
  withRejectedKeys : lenient.withRejectedKeys = strict.contractViolations
  noViolations : lenient.contractViolations = 0
  noRejectedKeys : strict.withRejectedKeys = 0
  transportErrors : lenient.transportErrors = strict.transportErrors
  formatErrors : lenient.formatErrors = strict.formatErrors
  unmappedSymbols : strict.unmappedSymbols ≤ lenient.unmappedSymbols

namespace Report

theorem hardens_zero : zero.Hardens zero :=
  ⟨rfl, rfl, rfl, rfl, rfl, rfl, rfl, Nat.le_refl _⟩

theorem Hardens.add {a b c d : Report} (h : a.Hardens b) (h' : c.Hardens d) :
    (a.add c).Hardens (b.add d) := by
  obtain ⟨h1, h2, h3, h4, h5, h6, h7, h8⟩ := h
  obtain ⟨h1', h2', h3', h4', h5', h6', h7', h8'⟩ := h'
  constructor <;> simp only [Report.add] <;> omega

/-- What holds of the outcomes one by one holds of their reports. -/
theorem hardens_ofOutcomes {rs rs' : List MethodOutcome}
    (h : List.Forall₂ (fun r r' => (single r).Hardens (single r')) rs rs') :
    (ofOutcomes rs).Hardens (ofOutcomes rs') := by
  induction h with
  | nil => exact hardens_zero
  | cons hfirst _ ih =>
      rw [ofOutcomes_cons, ofOutcomes_cons]
      exact hfirst.add ih

end Report

namespace Analysis

/-- The analyzer with another contract policy. -/
def Analyzer.under (a : Analyzer) (policy : ContractPolicy) : Analyzer :=
  { a with client := { a.client with contract := policy } }

/-- How the outcome for a record when foreign symbols are refused follows from the one when they
are set aside, given the answer that both are about. -/
structure Hardens (record : MethodRecord) (answer : Except Payload Oracle.Answer)
    (lenient strict : MethodOutcome) : Prop where
  noViolation : lenient.failure? ≠ some .contractViolation
  failure : lenient.isSuccess = false → AlikeButForNumbers lenient strict
  whole : lenient.isSuccess = true → lenient.rejected = [] → strict = lenient
  refused : lenient.rejected ≠ [] → ∃ reply object decoded,
    answer = .ok (.ok reply) ∧ Reply.parse reply record.candidates = .ok (object, decoded) ∧
    strict = .failed lenient.methodName .contractViolation
      ("keys not in formula: " ++ ", ".intercalate lenient.rejected) (some object)

/-- A failure that is no matter of the contract stays as it is. -/
theorem hardens_of_alike {record : MethodRecord} {answer : Except Payload Oracle.Answer}
    {lenient strict : MethodOutcome} (hkind : lenient.failure? ≠ some .contractViolation)
    (hfailure : lenient.isSuccess = false) (halike : AlikeButForNumbers lenient strict) :
    Hardens record answer lenient strict where
  noViolation := hkind
  failure _ := halike
  whole hsuccess := by
    rw [hfailure] at hsuccess
    cases hsuccess
  refused hrejected := by
    obtain ⟨name, outcome⟩ := lenient
    cases outcome with
    | mapped m keys => cases hfailure
    | failed kind error raw => exact absurd rfl hrejected

/-- A reply that is refused is one of which symbols would be set aside. -/
theorem interpret_hardens (record : MethodRecord) (reply : String) :
    Hardens record (.ok (.ok reply)) (Reply.interpret .strip record reply)
      (Reply.interpret .reject record reply) := by
  cases hparse : Reply.parse reply record.candidates with
  | error fault =>
      rw [Reply.interpret_of_error hparse, Reply.interpret_of_error hparse]
      exact hardens_of_alike (by simp [MethodOutcome.failed, MethodOutcome.failure?]) rfl (.inl rfl)
  | ok found =>
      obtain ⟨object, decoded⟩ := found
      rw [Reply.interpret_strip_of_ok hparse, Reply.interpret_reject_of_ok hparse]
      refine ⟨by simp [MethodOutcome.failure?], nofun, ?_, ?_⟩
      · intro _ hnone
        change Reply.foreignKeys decoded record.documentation = [] at hnone
        rw [if_pos hnone, hnone, Reply.admitted_eq_self hnone]
        rfl
      · intro hsome
        change Reply.foreignKeys decoded record.documentation ≠ [] at hsome
        rw [if_neg hsome]
        exact ⟨reply, object, decoded, rfl, hparse, rfl⟩

/-- So is what a record comes to, with any numbers of the two tasks. -/
theorem settled_hardens (a : Analyzer)
    (answers : Nat → Http.Posting (Except Payload Oracle.Answer)) (place id id' : Nat)
    (record : MethodRecord) :
    Hardens record (answers place).result
      (settled id record ((a.under .strip).askAt answers place record).result)
      (settled id' record ((a.under .reject).askAt answers place record).result) := by
  cases hanswer : (answers place).result with
  | error payload =>
      rw [settled_askAt_of_error hanswer, settled_askAt_of_error hanswer]
      refine hardens_of_alike ?_ rfl (settled_alike id id' record (.error payload))
      simp [taskFailure, MethodOutcome.failed, MethodOutcome.failure?]
  | ok answer =>
      rw [settled_askAt_of_ok hanswer, settled_askAt_of_ok hanswer]
      cases answer with
      | error fault =>
          refine hardens_of_alike ?_ rfl (.inl rfl)
          simp [Oracle.outcomeOf, MethodOutcome.failed, MethodOutcome.failure?]
      | ok reply => exact interpret_hardens record reply

/-- The reports of two single outcomes. -/
theorem Hardens.single {record : MethodRecord} {answer : Except Payload Oracle.Answer}
    {lenient strict : MethodOutcome} (h : Hardens record answer lenient strict) :
    (Report.single lenient).Hardens (Report.single strict) := by
  obtain ⟨name, outcome⟩ := lenient
  cases outcome with
  | mapped m keys =>
      by_cases hkeys : keys = []
      · rw [h.whole rfl hkeys, hkeys]
        constructor <;> simp [Report.single, Report.zero]
      · obtain ⟨reply, object, decoded, -, -, hstrict⟩ := h.refused hkeys
        rw [hstrict]
        constructor <;> simp [Report.single, Report.zero, MethodOutcome.failed, hkeys]
  | failed kind error raw =>
      have hkind : kind ≠ .contractViolation := by
        rintro rfl
        exact h.noViolation rfl
      rcases h.failure rfl with rfl | ⟨task, payload, n, n', heq, rfl⟩
      · cases kind with
        | transport => constructor <;> simp [Report.single, Report.zero]
        | format => constructor <;> simp [Report.single, Report.zero]
        | contractViolation => exact absurd rfl hkind
      · rw [heq]
        constructor <;> simp [Report.single, Report.zero, taskFailure, MethodOutcome.failed]

/-- The same answers to the calls about all records, taken once setting foreign symbols aside and
once refusing them, in any two complete runs: the outcomes follow from each other place by place,
and so do the reports. -/
theorem outcomes_under_policies (a : Analyzer)
    (answers : Nat → Http.Posting (Except Payload Oracle.Answer)) (records : List MethodRecord)
    (permits permits' : Nat) (ids ids' : Nat → Nat) (s r : State)
    (hids : DistinctBelow records.length ids) (hids' : DistinctBelow records.length ids')
    (hstrip : Relation.ReflTransGen (StepAt ((a.under .strip).askAt answers))
      (State.initial ids permits records) s)
    (hreject : Relation.ReflTransGen (StepAt ((a.under .reject).askAt answers))
      (State.initial ids' permits' records) r)
    (hcomplete : s.isComplete = true) (hcomplete' : r.isComplete = true) :
    s.outcomes.length = records.length ∧ r.outcomes.length = records.length ∧
    (∀ place record, records[place]? = some record → ∃ lenient strict,
      s.outcomes[place]? = some lenient ∧ r.outcomes[place]? = some strict ∧
      Hardens record (answers place).result lenient strict) ∧
    (Report.ofOutcomes s.outcomes).Hardens (Report.ofOutcomes r.outcomes) := by
  have houtcomes :=
    ((followed_initial _ ids permits records).run hids hstrip).outcomes_eq_mapIdx hcomplete
  have houtcomes' :=
    ((followed_initial _ ids' permits' records).run hids' hreject).outcomes_eq_mapIdx hcomplete'
  rw [houtcomes, houtcomes']
  refine ⟨List.length_mapIdx, List.length_mapIdx, ?_, ?_⟩
  · intro place record hrecord
    refine ⟨_, _, ?_, ?_, settled_hardens a answers place (ids place) (ids' place) record⟩
    · rw [List.getElem?_mapIdx, hrecord]
      rfl
    · rw [List.getElem?_mapIdx, hrecord]
      rfl
  · apply Report.hardens_ofOutcomes
    rw [List.forall₂_iff_get]
    refine ⟨by simp, ?_⟩
    intro place hplace hplace'
    simpa using (settled_hardens a answers place (ids place) (ids' place) _).single

/-- A reply with a foreign symbol for one method, and a breakdown for another of the same name. -/
theorem outcomes_under_policies_foreign_symbol :
    let record : MethodRecord :=
      ⟨"area", "A = 2 * r", NameSet.empty, NameSet.empty, "double area() \x7b\x7d", 1⟩
    let a : Analyzer := ⟨⟨.numericTyped, false⟩, ⟨"model", .nan, .strip⟩, 1⟩
    let answers : Nat → Http.Posting (Except Payload Oracle.Answer) := fun place =>
      pure (if place = 0 then .ok (.ok "\x7b\"A\": null, \"x\": null\x7d")
        else .error (.words "index out of range"))
    let s := (State.initial (· + 1) 1 [record, record]).runAt ((a.under .strip).askAt answers)
      [.acquire 0, .finish 0, .join 0, .acquire 1, .finish 1, .join 1]
    let r := (State.initial (· + 7) 2 [record, record]).runAt ((a.under .reject).askAt answers)
      [.acquire 1, .acquire 0, .finish 1, .join 1, .finish 0, .join 0]
    DistinctBelow 2 (· + 1) ∧ DistinctBelow 2 (· + 7) ∧
      s.isComplete = true ∧ r.isComplete = true ∧
      s.outcomes.map (·.rejected) = [["x"], []] ∧
      (∃ lenient strict, s.outcomes[0]? = some lenient ∧ r.outcomes[0]? = some strict ∧
        Hardens record (answers 0).result lenient strict) ∧
      (Report.ofOutcomes s.outcomes).Hardens (Report.ofOutcomes r.outcomes) := by
  intro record a answers s r
  have hids : DistinctBelow 2 (· + 1) := by
    intro i hi j hj heq
    dsimp only at heq
    omega
  have hids' : DistinctBelow 2 (· + 7) := by
    intro i hi j hj heq
    dsimp only at heq
    omega
  have hcomplete : s.isComplete = true := by decide
  have hcomplete' : r.isComplete = true := by decide
  obtain ⟨-, -, hplaces, hreports⟩ := outcomes_under_policies a answers [record, record] 1 2
    (· + 1) (· + 7) s r hids hids' (State.reaches_runAt _ _ _) (State.reaches_runAt _ _ _)
    hcomplete hcomplete'
  exact ⟨hids, hids', hcomplete, hcomplete', by decide +kernel, hplaces 0 record rfl, hreports⟩

end Analysis
end FormulaMap
