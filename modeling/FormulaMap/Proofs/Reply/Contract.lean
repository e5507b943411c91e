import FormulaMap.Oracle.Call
import FormulaMap.Proofs.Mapping.Entries
import Mathlib.Data.List.Nodup

/-!
# What becomes of the symbols of a reply

Whatever mapping an interpretation ends with, its symbols are distinct and the formula contains
every one of them.  Stripping divides the decoded mapping between the result and the symbols set
aside, without loss and without repetition; rejecting accepts a reply as a whole or not at all.
-/

namespace FormulaMap
namespace Reply

/-- The part of a mapping whose symbols a formula text contains. -/
def admitted (m : SymbolMapping) (documentation : String) : SymbolMapping :=
  ⟨m.entries.filter fun e => Symbol.containedIn documentation e.1⟩

theorem keys_admitted (m : SymbolMapping) (documentation : String) :
    (admitted m documentation).keys =
      m.keys.filter fun key => Symbol.containedIn documentation key := by
  simp only [admitted, SymbolMapping.keys, List.filter_map]
  rfl

theorem mem_foreignKeys {m : SymbolMapping} {documentation key : String} :
    key ∈ foreignKeys m documentation ↔
      key ∈ m.keys ∧ Symbol.containedIn documentation key = false := by
  simp [foreignKeys]

/-- No symbol is foreign exactly when the formula contains them all. -/
theorem foreignKeys_eq_nil_iff {m : SymbolMapping} {documentation : String} :
    foreignKeys m documentation = [] ↔
      ∀ key ∈ m.keys, Symbol.containedIn documentation key = true := by
  simp [foreignKeys]

/-- Without foreign symbols the whole mapping is admitted. -/
theorem admitted_eq_self {m : SymbolMapping} {documentation : String}
    (h : foreignKeys m documentation = []) : admitted m documentation = m := by
  have hall := foreignKeys_eq_nil_iff.mp h
  have hkeep : ∀ e ∈ m.entries, Symbol.containedIn documentation e.1 = true := by
    intro e he
    exact hall e.1 (List.mem_map.mpr ⟨e, he, rfl⟩)
  rw [admitted, List.filter_eq_self.mpr hkeep]

/-- The symbols admitted and the foreign ones make up all symbols. -/
theorem admitted_append_foreign_perm (m : SymbolMapping) (documentation : String) :
    ((admitted m documentation).keys ++ foreignKeys m documentation).Perm m.keys := by
  rw [keys_admitted, foreignKeys]
  exact List.filter_append_perm _ _

theorem admitted_disjoint_foreign (m : SymbolMapping) (documentation : String) :
    (admitted m documentation).keys.Disjoint (foreignKeys m documentation) := by
  intro key hkept hforeign
  rw [keys_admitted, List.mem_filter] at hkept
  have hout := (mem_foreignKeys.mp hforeign).2
  rw [hkept.2] at hout
  exact Bool.noConfusion hout

/-- Looking a symbol of the mapping up among the foreign ones answers whether the formula
contains it. -/
theorem contains_foreignKeys {m : SymbolMapping} {documentation key : String}
    (hkey : key ∈ m.keys) :
    (!(foreignKeys m documentation).contains key) = Symbol.containedIn documentation key := by
  cases h : Symbol.containedIn documentation key with
  | true =>
      have hout : key ∉ foreignKeys m documentation := by
        intro hmem
        rw [(mem_foreignKeys.mp hmem).2] at h
        exact Bool.noConfusion h
      simp [hout]
  | false =>
      have hin : key ∈ foreignKeys m documentation := mem_foreignKeys.mpr ⟨hkey, h⟩
      simp [hin]

/-- The second pass over a mapping, which looks its symbols up among the foreign ones, divides it
just as the first did. -/
theorem retain_foreignKeys (m : SymbolMapping) (documentation : String) :
    m.retain (fun key => !(foreignKeys m documentation).contains key) =
      (admitted m documentation, foreignKeys m documentation) := by
  have hentries : m.entries.filter (fun e => !(foreignKeys m documentation).contains e.1) =
      m.entries.filter fun e => Symbol.containedIn documentation e.1 := by
    apply List.filter_congr
    intro e he
    exact contains_foreignKeys (List.mem_map.mpr ⟨e, he, rfl⟩)
  have hkeys : m.keys.filter (fun key => !!(foreignKeys m documentation).contains key) =
      foreignKeys m documentation := by
    rw [foreignKeys]
    apply List.filter_congr
    intro key hkey
    rw [← contains_foreignKeys hkey]
    rfl
  rw [SymbolMapping.retain, hentries, hkeys, admitted]

/-! ## Decoded mappings -/

theorem distinct_collect {candidates : NameSet} {members : List (String × Json.Value)}
    {m decoded : SymbolMapping} (hm : m.Distinct)
    (h : collect candidates m members = .ok decoded) : decoded.Distinct := by
  induction members generalizing m with
  | nil =>
      cases h
      exact hm
  | cons member rest ih =>
      obtain ⟨key, v⟩ := member
      rw [collect] at h
      split at h
      · cases h
      · exact ih (hm.insert key _) h

theorem decode_eq_ok_iff {object : String} {candidates : NameSet} {m : SymbolMapping} :
    decode object candidates = .ok m ↔
      ∃ members, membersOf object = .ok members ∧
        collect candidates .empty members = .ok m := by
  unfold decode
  cases hmembers : membersOf object with
  | error fault => simp
  | ok members =>
      cases hcollect : collect candidates .empty members with
      | error key => simp [hcollect]
      | ok decoded => simp [hcollect]

theorem parse_eq_ok_iff {raw object : String} {candidates : NameSet} {m : SymbolMapping} :
    parse raw candidates = .ok (object, m) ↔
      locateObject? (stripFences raw) = some object ∧ decode object candidates = .ok m := by
  unfold parse
  cases hobject : locateObject? (stripFences raw) with
  | none => simp
  | some found =>
      simp only [Option.some.injEq]
      cases hdecode : decode found candidates with
      | error fault =>
          simp only [reduceCtorEq, false_iff, not_and]
          rintro rfl h
          rw [hdecode] at h
          cases h
      | ok decoded =>
          simp only [Except.ok.injEq, Prod.mk.injEq]
          constructor
          · rintro ⟨rfl, rfl⟩
            exact ⟨rfl, hdecode⟩
          · rintro ⟨rfl, h⟩
            rw [hdecode] at h
            cases h
            exact ⟨rfl, rfl⟩

/-- Whatever a reply repeats, the symbols of its mapping are distinct. -/
theorem distinct_of_parse {raw object : String} {candidates : NameSet} {m : SymbolMapping}
    (h : parse raw candidates = .ok (object, m)) : m.Distinct := by
  obtain ⟨members, -, hcollect⟩ := decode_eq_ok_iff.mp (parse_eq_ok_iff.mp h).2
  exact distinct_collect SymbolMapping.distinct_empty hcollect

/-! ## Interpretations -/

/-- A reply that gives no mapping fails in its form, whatever the policy. -/
theorem interpret_of_error {policy : ContractPolicy} {record : MethodRecord} {raw : String}
    {fault : ReplyFault} (h : parse raw record.candidates = .error fault) :
    interpret policy record raw =
      .failed record.name .format fault.message (some fault.raw) := by
  unfold interpret
  rw [h]

/-- Stripping keeps what the formula contains and sets the rest aside. -/
theorem interpret_strip_of_ok {record : MethodRecord} {raw object : String} {m : SymbolMapping}
    (h : parse raw record.candidates = .ok (object, m)) :
    interpret .strip record raw =
      ⟨record.name, .mapped (admitted m record.documentation)
        (foreignKeys m record.documentation)⟩ := by
  unfold interpret
  simp only [h]
  by_cases hforeign : foreignKeys m record.documentation = []
  · rw [hforeign, admitted_eq_self hforeign]
    rfl
  · rw [if_neg (by simpa using hforeign), retain_foreignKeys]
    rfl

/-- Rejecting keeps the whole mapping if the formula contains all of it. -/
theorem interpret_reject_of_ok {record : MethodRecord} {raw object : String}
    {m : SymbolMapping} (h : parse raw record.candidates = .ok (object, m)) :
    interpret .reject record raw =
      if foreignKeys m record.documentation = [] then .mapped record.name m
      else .failed record.name .contractViolation
        ("keys not in formula: " ++ ", ".intercalate (foreignKeys m record.documentation))
        (some object) := by
  unfold interpret
  simp only [h]
  by_cases hforeign : foreignKeys m record.documentation = []
  · rw [if_pos hforeign, hforeign]
    rfl
  · rw [if_neg (by simpa using hforeign), if_neg hforeign]

/-- Whatever mapping comes out, it is the admitted part of the decoded one. -/
theorem interpret_eq_mapped {policy : ContractPolicy} {record : MethodRecord} {raw : String}
    {m : SymbolMapping} {rejected : List String}
    (h : (interpret policy record raw).outcome = .mapped m rejected) :
    ∃ object decoded, parse raw record.candidates = .ok (object, decoded) ∧
      m = admitted decoded record.documentation := by
  cases hparse : parse raw record.candidates with
  | error fault =>
      rw [interpret_of_error hparse] at h
      cases h
  | ok found =>
      obtain ⟨object, decoded⟩ := found
      refine ⟨object, decoded, rfl, ?_⟩
      cases policy with
      | strip =>
          rw [interpret_strip_of_ok hparse] at h
          cases h
          rfl
      | reject =>
          rw [interpret_reject_of_ok hparse] at h
          by_cases hforeign : foreignKeys decoded record.documentation = []
          · rw [if_pos hforeign] at h
            cases h
            exact (admitted_eq_self hforeign).symm
          · rw [if_neg hforeign] at h
            cases h

theorem distinct_of_interpret {policy : ContractPolicy} {record : MethodRecord}
    {raw : String} {m : SymbolMapping} {rejected : List String}
    (h : (interpret policy record raw).outcome = .mapped m rejected) : m.Distinct := by
  obtain ⟨object, decoded, hparse, rfl⟩ := interpret_eq_mapped h
  rw [SymbolMapping.Distinct, keys_admitted]
  exact List.Nodup.filter _ (distinct_of_parse hparse)

theorem containedIn_of_interpret {policy : ContractPolicy} {record : MethodRecord}
    {raw : String} {m : SymbolMapping} {rejected : List String}
    (h : (interpret policy record raw).outcome = .mapped m rejected) {key : String}
    (hkey : key ∈ m.keys) : Symbol.containedIn record.documentation key = true := by
  obtain ⟨object, decoded, -, rfl⟩ := interpret_eq_mapped h
  rw [keys_admitted, List.mem_filter] at hkey
  exact hkey.2

theorem interpret_strip_fails_iff {record : MethodRecord} {raw : String} :
    (∃ kind error text, (interpret .strip record raw).outcome = .failed kind error text) ↔
      ∃ fault, parse raw record.candidates = .error fault := by
  constructor
  · rintro ⟨kind, error, text, h⟩
    cases hparse : parse raw record.candidates with
    | error fault => exact ⟨fault, rfl⟩
    | ok found =>
        obtain ⟨object, decoded⟩ := found
        rw [interpret_strip_of_ok hparse] at h
        cases h
  · rintro ⟨fault, h⟩
    rw [interpret_of_error h]
    exact ⟨.format, fault.message, some fault.raw, rfl⟩

theorem interpret_reject_mapped_iff {record : MethodRecord} {raw : String}
    {m : SymbolMapping} {rejected : List String} :
    (interpret .reject record raw).outcome = .mapped m rejected ↔
      rejected = [] ∧ (∃ object, parse raw record.candidates = .ok (object, m)) ∧
        ∀ key ∈ m.keys, Symbol.containedIn record.documentation key = true := by
  constructor
  · intro h
    have hall : ∀ key ∈ m.keys, Symbol.containedIn record.documentation key = true :=
      fun key hkey => containedIn_of_interpret h hkey
    obtain ⟨object, decoded, hparse, -⟩ := interpret_eq_mapped h
    rw [interpret_reject_of_ok hparse] at h
    by_cases hforeign : foreignKeys decoded record.documentation = []
    · rw [if_pos hforeign] at h
      cases h
      exact ⟨rfl, ⟨object, hparse⟩, hall⟩
    · rw [if_neg hforeign] at h
      cases h
  · rintro ⟨rfl, ⟨object, hparse⟩, hall⟩
    rw [interpret_reject_of_ok hparse, if_pos (foreignKeys_eq_nil_iff.mpr hall)]
    rfl

/-- The symbols of every interpreted mapping are distinct and occur in the formula, also when the
reply comes by a call.  Stripping fails only with the decoding and otherwise divides the decoded
mapping in two, each part in its order; rejecting passes exactly the decoded mappings without a
foreign symbol, and passes them whole. -/
theorem interpret_contract (record : MethodRecord) (raw : String) :
    (∀ policy m rejected, (interpret policy record raw).outcome = .mapped m rejected →
      m.keys.Nodup ∧ ∀ key ∈ m.keys, Symbol.containedIn record.documentation key = true) ∧
    (∀ (client : Oracle.Client) (answer : Oracle.Request → Oracle.Answer),
      answer (client.requestFor record) = .ok raw →
        client.mapFormula answer record = interpret client.contract record raw) ∧
    ((∃ kind error text, (interpret .strip record raw).outcome = .failed kind error text) ↔
      ∃ fault, parse raw record.candidates = .error fault) ∧
    (∀ object decoded, parse raw record.candidates = .ok (object, decoded) →
      ∃ kept rejected,
        interpret .strip record raw = ⟨record.name, .mapped kept rejected⟩ ∧
        kept.entries =
          decoded.entries.filter (fun e => Symbol.containedIn record.documentation e.1) ∧
        rejected =
          decoded.keys.filter (fun key => !Symbol.containedIn record.documentation key) ∧
        kept.keys.Disjoint rejected ∧
        (kept.keys ++ rejected).Perm decoded.keys) ∧
    (∀ m rejected, (interpret .reject record raw).outcome = .mapped m rejected ↔
      rejected = [] ∧ (∃ object, parse raw record.candidates = .ok (object, m)) ∧
        ∀ key ∈ m.keys, Symbol.containedIn record.documentation key = true) := by
  refine ⟨?_, ?_, interpret_strip_fails_iff, ?_, fun m rejected => interpret_reject_mapped_iff⟩
  · intro policy m rejected h
    exact ⟨distinct_of_interpret h, fun key hkey => containedIn_of_interpret h hkey⟩
  · intro client answer hanswer
    rw [Oracle.Client.mapFormula, hanswer, Oracle.outcomeOf]
  · intro object decoded hparse
    exact ⟨admitted decoded record.documentation, foreignKeys decoded record.documentation,
      interpret_strip_of_ok hparse, rfl, rfl,
      admitted_disjoint_foreign decoded record.documentation,
      admitted_append_foreign_perm decoded record.documentation⟩

end Reply
end FormulaMap
