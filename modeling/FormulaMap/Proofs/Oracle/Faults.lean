import FormulaMap.Proofs.Reply.Contract

/-!
# Failures of transport

A method fails in transport exactly because its call failed, and the failure carries the words of
that fault.  A reply that came through fails, if at all, in its form or by the contract.
-/

namespace FormulaMap
namespace Oracle

/-- A reply that came through never counts as a failure of transport. -/
theorem interpret_failure_ne_transport (policy : ContractPolicy) (record : MethodRecord)
    (raw : String) : (Reply.interpret policy record raw).failure? ≠ some .transport := by
  cases hparse : Reply.parse raw record.candidates with
  | error fault =>
      rw [Reply.interpret_of_error hparse]
      simp [MethodOutcome.failed, MethodOutcome.failure?]
  | ok found =>
      obtain ⟨object, m⟩ := found
      cases policy with
      | strip =>
          rw [Reply.interpret_strip_of_ok hparse]
          simp [MethodOutcome.failure?]
      | reject =>
          rw [Reply.interpret_reject_of_ok hparse]
          split
          · simp [MethodOutcome.mapped, MethodOutcome.failure?]
          · simp [MethodOutcome.failed, MethodOutcome.failure?]

/-- A failure of transport has the words of the fault of its call. -/
theorem outcomeOf_eq_transport {policy : ContractPolicy} {record : MethodRecord}
    {answer : Answer} {name error : String} {raw : Option String}
    (h : outcomeOf policy record answer = .failed name .transport error raw) :
    ∃ fault : CallFault, answer = .error fault ∧ error = fault.message := by
  cases answer with
  | error fault =>
      rw [outcomeOf, MethodOutcome.failed, MethodOutcome.failed, MethodOutcome.mk.injEq,
        Outcome.failed.injEq] at h
      exact ⟨fault, rfl, h.2.2.1.symm⟩
  | ok reply =>
      have hkind := interpret_failure_ne_transport policy record reply
      rw [outcomeOf] at h
      rw [h] at hkind
      exact absurd rfl hkind

/-- The words of a fault never start like those of a fan-out. -/
theorem head?_message_ne (fault : CallFault) : fault.message.toList.head? ≠ some 'o' := by
  cases fault with
  | transport cause =>
      change ("HTTP error: " ++ cause).toList.head? ≠ _
      simp [String.toList_append]
  | status code text =>
      change ("API error (" ++ Decimal.text code ++ "): " ++ text).toList.head? ≠ _
      simp [String.toList_append]
  | envelope reason =>
      change ("unreadable response envelope: " ++ reason).toList.head? ≠ _
      simp [String.toList_append]

end Oracle
end FormulaMap
