import FormulaMap.Proofs.Code.Declarations
import FormulaMap.Proofs.CommandLine.Stages

/-!
# The requests that are shown are the requests that are sent

One command prints the requests about the methods of a source text, another sends them.  They build
their requests apart from each other, but from the same settings, so that whatever the oracle
answers, and in whatever order the tasks take their turns, what goes off is what was shown.

What goes off is what the calls themselves hand over.  What then arrives depends on the way as well:
it is the same where the way is direct.
-/

namespace FormulaMap
namespace CommandLine

/-- The requests about all methods, one for each. -/
theorem requestsAbout_none (s : OracleSettings) (records : List MethodRecord) :
    requestsAbout none s records =
      records.map fun r => Oracle.Request.ofRecord r s.model s.temperature := by
  simp [requestsAbout]

/-- The requests about the methods of a name are those among all that are about such methods. -/
theorem requestsAbout_some (name : String) (s : OracleSettings) (records : List MethodRecord) :
    requestsAbout (some name) s records =
      ((records.zip (requestsAbout none s records)).filter fun p => p.1.name == name).map
        (·.2) := by
  rw [requestsAbout_none, requestsAbout]
  induction records with
  | nil => rfl
  | cons r rest ih =>
      simp only [Option.all_some] at ih ⊢
      rw [List.map_cons, List.zip_cons_cons, List.filter_cons, List.filter_cons]
      by_cases hname : (r.name == name) = true
      · simp only [hname, if_true, List.map_cons, ih]
      · simp only [hname, Bool.false_eq_true, if_false, ih]

/-- Only the body of a post depends on what is posted. -/
theorem build_of_build {address key body : String} {url : Http.Url} {authorization : String}
    (h : Http.Post.build address key "" = .ok ⟨url, authorization, ""⟩) :
    Http.Post.build address key body = .ok ⟨url, authorization, body⟩ := by
  rw [Http.Post.build] at h ⊢
  cases hurl : Http.Url.read? address.toList with
  | none => simp [hurl] at h
  | some found =>
      simp only [hurl] at h ⊢
      split at h
      · cases h
      · split at h
        · cases h
        · next hkey hscheme =>
            rw [if_neg hkey, if_neg hscheme]
            cases h
            rfl

/-- Where address and key will do, and the model is the same, what is posted about some methods are
the requests about them, each with its compact form for a body. -/
theorem flatMap_postAbout {o : Overrides} {s : Settings} {t : OracleSettings} {url : Http.Url}
    {authorization : String} (hmodel : o.model = none) (hover : Overridden o s.oracle t)
    (hbuild : Http.Post.build t.completionsUrl t.apiKey "" = .ok ⟨url, authorization, ""⟩)
    (records : List MethodRecord) :
    (records.flatMap fun r => (postAbout t r).toOption.toList) =
      (records.map fun r => Oracle.Request.ofRecord r s.oracle.model s.oracle.temperature).map
        fun request => ⟨url, authorization, request.toJson.compact⟩ := by
  have hpost : ∀ r, (postAbout t r).toOption.toList =
      [⟨url, authorization, (Oracle.Request.ofRecord r s.oracle.model
        s.oracle.temperature).toJson.compact⟩] := by
    intro r
    rw [postAbout, build_of_build hbuild, hover.model.kept hmodel, hover.temperature]
    rfl
  rw [List.map_map]
  simp only [hpost]
  exact List.map_eq_flatMap.symm

/-- On a direct way everything arrives as it went off. -/
theorem arrived_of_isDirect {wire : Http.Wire} (h : wire.IsDirect) (posts : List Http.Post) :
    posts.flatMap wire = posts := by
  rw [show wire = fun p => [p] from funext h]
  exact List.flatMap_singleton' posts

variable {tree : List Char → Code.Forest} {w : World} {i : Invocation} {source : Source}
  {text : String} {s : Settings} {records : List MethodRecord}

/-! ## What is shown -/

namespace Prepared

/-- There are as many records as methods. -/
theorem length_records (h : Prepared tree w source text s records) :
    records.length = ((tree text.toList).methods 0 []).length := by
  rw [Code.eq_map_record_of_recordsOfTree h.parsed, List.length_map]

/-- All requests are printed if no method is named. -/
theorem prompt_all (h : Prepared tree w i.source text s records)
    (hcommand : i.command = .prompt none) :
    let requests :=
      records.map fun r => Oracle.Request.ofRecord r s.oracle.model s.oracle.temperature
    (i.runWith tree w).code = 0 ∧
      i.format.Prints (.array (requests.map (·.toJson))) (i.runWith tree w).output := by
  intro requests
  obtain ⟨remarks, hrun⟩ := h.prompt hcommand
  rw [hrun, prints_iff]
  simp only [promptFor, requestsAbout_none]
  exact ⟨rfl, rfl⟩

/-- Of a name, the requests about the methods of that name are printed, and it is a failure if there
is none. -/
theorem prompt_named (h : Prepared tree w i.source text s records) {name : String}
    (hcommand : i.command = .prompt (some name)) :
    let requests :=
      records.map fun r => Oracle.Request.ofRecord r s.oracle.model s.oracle.temperature
    let named := ((records.zip requests).filter fun p => p.1.name == name).map (·.2)
    ((i.runWith tree w).code ≠ 0 ↔ named = []) ∧
      (named = [] →
        ∃ remarks, i.runWith tree w = .ofFailure remarks (.method name i.source.path)) ∧
      (named ≠ [] →
        i.format.Prints (.array (named.map (·.toJson))) (i.runWith tree w).output) := by
  intro requests named
  obtain ⟨remarks, hrun⟩ := h.prompt hcommand
  have hnamed : requestsAbout (some name) s.oracle records = named := by
    rw [requestsAbout_some, requestsAbout_none]
  rw [hrun]
  simp only [prints_iff, promptFor, hnamed, List.isEmpty_iff]
  by_cases hnone : named = []
  · rw [if_pos hnone]
    exact ⟨⟨fun _ => hnone, fun _ => Nat.one_ne_zero⟩, fun _ => ⟨remarks, rfl⟩,
      fun hsome => absurd hnone hsome⟩
  · rw [if_neg hnone]
    exact ⟨⟨fun hcode => absurd rfl hcode, fun h => absurd h hnone⟩,
      fun h => absurd h hnone, fun _ => rfl⟩

/-! ## What is sent -/

/-- An analysis that can ask posts what comes of asking about every method once. -/
theorem posted_perm (h : Prepared tree w i.source text s records) {o : Overrides}
    {t : OracleSettings} (hcommand : i.command = .analyze o) (hover : Overridden o s.oracle t)
    (hable : Able w t) :
    (i.runWith tree w).posted.Perm
      (records.flatMap fun r => (postAbout t r).toOption.toList) := by
  obtain ⟨remarks, hrun⟩ := h.analyze hcommand
  rw [hrun, posted_analyze hover hable]
  exact posted_askedAbout_perm hover records

/-- What is answered is part of that. -/
theorem sent_eq (h : Prepared tree w i.source text s records) {o : Overrides}
    (hcommand : i.command = .analyze o) :
    (i.runWith tree w).sent =
      (i.runWith tree w).posted.filter fun p => (w.transport p).isSome := by
  obtain ⟨remarks, hrun⟩ := h.analyze hcommand
  rw [hrun]
  exact sent_analyze

end Prepared

/-- So does every complete run of calls, in whatever order, with whatever answers, and also if calls
break down. -/
theorem posted_perm_of_complete {o : Overrides} {t : OracleSettings}
    (hover : Overridden o s.oracle t) {transports : Nat → Http.Transport}
    {breaks : Nat → Option Analysis.Payload} {ids : Nat → Nat} {permits : Nat}
    {final : Analysis.State}
    (hrun : Relation.ReflTransGen (Analysis.StepAt (callsAt o s transports breaks))
      (.initial ids permits records) final)
    (hcomplete : final.isComplete = true) :
    final.posted.Perm (records.flatMap fun r => (postAbout t r).toOption.toList) := by
  have hperm := ((Analysis.counted_initial _ ids permits records).run hrun).posted_perm hcomplete
  simp only [posts_callsAt hover] at hperm
  rwa [Analysis.mapIdx_eq_map fun r => (postAbout t r).toOption.toList] at hperm

/-- A source text that is read and parsed with settings that are loaded gives one request for every
method.  All of them are printed if no method is named; of a name, those about the methods of that
name are, and it is a failure only if there is none.  With the same model, and an address and a key
that will do, an analysis that can ask posts exactly these requests, each once and with its compact
form for a body, whatever is answered and whatever turns the tasks take; on a direct way just these
arrive.  So it is in every complete run, even if equal requests are answered differently or calls
break down. -/
theorem posted_perm_prompted (h : Prepared tree w source text s records) :
    let requests :=
      records.map fun r => Oracle.Request.ofRecord r s.oracle.model s.oracle.temperature
    requests.length = ((tree text.toList).methods 0 []).length ∧
    (∀ arguments i, Invocation.read arguments = .ok i → i.source = source →
      i.command = .prompt none →
      let ending := runWith tree w arguments
      ending.code = 0 ∧ i.format.Prints (.array (requests.map (·.toJson))) ending.output) ∧
    (∀ arguments i name, Invocation.read arguments = .ok i → i.source = source →
      i.command = .prompt (some name) →
      let named := ((records.zip requests).filter fun p => p.1.name == name).map (·.2)
      let ending := runWith tree w arguments
      (ending.code ≠ 0 ↔ named = []) ∧
        (named = [] → ∃ remarks, ending = .ofFailure remarks (.method name source.path)) ∧
        (named ≠ [] → i.format.Prints (.array (named.map (·.toJson))) ending.output)) ∧
    (∀ o t url authorization, o.model = none → Overridden o s.oracle t →
      Http.Post.build t.completionsUrl t.apiKey "" = .ok ⟨url, authorization, ""⟩ →
      let posts : List Http.Post :=
        requests.map fun request => ⟨url, authorization, request.toJson.compact⟩
      (∀ arguments i, Invocation.read arguments = .ok i → i.source = source →
        i.command = .analyze o → Able w t →
        let ending := runWith tree w arguments
        ending.posted.Perm posts ∧
          ending.sent = ending.posted.filter (fun p => (w.transport p).isSome) ∧
          ∀ wire : Http.Wire, wire.IsDirect → (ending.posted.flatMap wire).Perm posts) ∧
      ∀ (transports : Nat → Http.Transport) (breaks : Nat → Option Analysis.Payload)
        (ids : Nat → Nat) (permits : Nat) (final : Analysis.State),
        Relation.ReflTransGen (Analysis.StepAt (callsAt o s transports breaks))
          (.initial ids permits records) final →
        final.isComplete = true → final.posted.Perm posts) := by
  intro requests
  refine ⟨?_, ?_, ?_, ?_⟩
  · rw [List.length_map]
    exact h.length_records
  · rintro arguments i hread rfl hcommand
    rw [runWith_of_read hread]
    exact h.prompt_all hcommand
  · rintro arguments i name hread rfl hcommand
    rw [runWith_of_read hread]
    exact h.prompt_named hcommand
  · intro o t url authorization hmodel hover hbuild posts
    have hposts : (records.flatMap fun r => (postAbout t r).toOption.toList) = posts :=
      flatMap_postAbout hmodel hover hbuild records
    constructor
    · rintro arguments i hread rfl hcommand hable
      rw [runWith_of_read hread]
      have hperm : (i.runWith tree w).posted.Perm posts :=
        hposts ▸ h.posted_perm hcommand hover hable
      refine ⟨hperm, h.sent_eq hcommand, ?_⟩
      intro wire hdirect
      rw [arrived_of_isDirect hdirect]
      exact hperm
    · intro transports breaks ids permits final hrun hcomplete
      exact hposts ▸ posted_perm_of_complete hover hrun hcomplete

/-! ## A source text with overloads -/

/-- A tree with two methods of one name around another. -/
def overloadsTree : Code.Forest :=
  .node [] none (.phrase .program)
    (.node "class A \x7b ".toList none (.phrase .methodDeclaration)
      (.node "int ".toList (some .name) (.token .identifier) (.text "f".toList)
        (.text "() \x7b\x7d".toList))
      (.node " ".toList none (.phrase .methodDeclaration)
        (.node "int ".toList (some .name) (.token .identifier) (.text "g".toList)
          (.text "() \x7b\x7d".toList))
        (.node " ".toList none (.phrase .methodDeclaration)
          (.node "int ".toList (some .name) (.token .identifier) (.text "f".toList)
            (.text "(int x) \x7b\x7d".toList))
          (.text " \x7d".toList))))
    (.text [])

/-- Its text. -/
def overloadsText : String := String.ofList overloadsTree.spelling

/-- The records of its methods. -/
def overloadsRecords : List MethodRecord :=
  (overloadsTree.methods 0 []).map
    (Code.Method.record (Text.splitAt '\n' overloadsText.toList) ⟨.numericTyped, false⟩)

/-- A world with that text under a path, where nobody answers and the last task asks first. -/
def overloadsWorld : World where
  read path := if path = "A.java" then .ok overloadsText else .error .missing
  writeFault? _ := none
  input := .ok ""
  directory := "/"
  environment := [("FMAP_ORACLE__ENDPOINT", "http://[::1]/v1"), ("DASHSCOPE_API_KEY", "sk-1")]
  transport _ := none
  turns := [.acquire 2, .acquire 0, .finish 0]

/-- The settings that are loaded there. -/
def overloadsSettings : Settings :=
  ⟨{ OracleSettings.initial with endpoint := "http://[::1]/v1", apiKey := "sk-1" }, .initial⟩

theorem prepared_overloads :
    Prepared (fun _ => overloadsTree) overloadsWorld ⟨"A.java", none, false⟩ overloadsText
      overloadsSettings overloadsRecords where
  read := ⟨.inr (by decide +kernel), 'c', by decide, by decide⟩
  loaded := ⟨overloadsSettings, by decide +kernel, rfl, Source.selects_iff.mpr rfl⟩
  parsed := rfl

/-- Its address and its key will do. -/
theorem exists_build_overloads :
    ∃ url authorization, Http.Post.build overloadsSettings.oracle.completionsUrl
      overloadsSettings.oracle.apiKey "" = .ok ⟨url, authorization, ""⟩ := by
  have haddress :
      overloadsSettings.oracle.completionsUrl = "http://[::1]/v1/chat/completions" := by
    decide +kernel
  rw [haddress]
  exact ⟨_, _, rfl⟩

/-- Three requests are shown and sent, two of them about methods of one name, and there is none of
another name. -/
theorem posted_perm_prompted_overloads :
    let tree := fun _ => overloadsTree
    let requests := overloadsRecords.map fun r =>
      Oracle.Request.ofRecord r overloadsSettings.oracle.model overloadsSettings.oracle.temperature
    Prepared tree overloadsWorld ⟨"A.java", none, false⟩ overloadsText overloadsSettings
        overloadsRecords ∧
      requests.length = 3 ∧
      Format.indented.Prints (.array (requests.map (·.toJson)))
        (runWith tree overloadsWorld ["prompt", "A.java"]).output ∧
      (runWith tree overloadsWorld ["prompt", "A.java", "--method", "f"]).code = 0 ∧
      (runWith tree overloadsWorld ["prompt", "A.java", "--method", "h"]).code ≠ 0 ∧
      ∃ url authorization,
        (runWith tree overloadsWorld ["analyze", "A.java", "--concurrency", "2"]).posted.Perm
          (requests.map fun request => ⟨url, authorization, request.toJson.compact⟩) := by
  intro tree requests
  let invoked : Command → Invocation := fun command =>
    ⟨command, ⟨"A.java", none, false⟩, .indented, false, false⟩
  let o : Overrides := ⟨none, some 2, none, none, none⟩
  have hable : Able overloadsWorld (o.apply overloadsSettings.oracle) :=
    ⟨OracleSettings.requireConfigured_eq_ok_iff.mp (by decide +kernel), rfl, by decide⟩
  obtain ⟨url, authorization, hbuild⟩ := exists_build_overloads
  obtain ⟨-, hall, hnamed, hsent⟩ := posted_perm_prompted prepared_overloads
  have hf := hnamed ["prompt", "A.java", "--method", "f"] (invoked (.prompt (some "f"))) "f"
    (by decide +kernel) rfl rfl
  have hh := hnamed ["prompt", "A.java", "--method", "h"] (invoked (.prompt (some "h"))) "h"
    (by decide +kernel) rfl rfl
  have hposted := (hsent o _ url authorization rfl (overridden_apply o _) hbuild).1
    ["analyze", "A.java", "--concurrency", "2"] (invoked (.analyze o)) (by decide +kernel) rfl rfl
    hable
  refine ⟨prepared_overloads, by decide +kernel, ?_, ?_, ?_, url, authorization, hposted.1⟩
  · exact (hall _ (invoked (.prompt none)) (by decide +kernel) rfl rfl).2
  · by_contra hcode
    exact absurd (hf.1.mp hcode) (by decide +kernel)
  · exact hh.1.mpr (by decide +kernel)

end CommandLine
end FormulaMap
