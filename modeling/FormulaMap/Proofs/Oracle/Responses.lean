import FormulaMap.Oracle.Endpoint
import FormulaMap.Proofs.Json.Shapes
import FormulaMap.Proofs.Oracle.Faults
import FormulaMap.Proofs.Reply.Region

/-!
# Outcomes of responses

Which responses bring a reply text, and what becomes of a method when they do and when they do not.
The blanks around a text are taken off on its way to the interpretation, which does not miss them:
they can stand inside no object, so they only show where a reply without an object is kept as it
came.
-/

namespace FormulaMap

namespace Reply

theorem hasBraces_trim_iff {cs : List Char} : HasBraces (Text.trim cs) ↔ HasBraces cs := by
  rw [← exists_isRegion_iff, ← exists_isRegion_iff]
  simp only [← locateObjectChars?_eq_some_iff, locateObjectChars?_of_wraps (wraps_trim cs)]

/-- Blanks around a reply do not count if it holds an object. -/
theorem parse_trim {raw : String} (h : HasBraces raw.toList) (candidates : NameSet) :
    parse (String.ofList (Text.trim raw.toList)) candidates = parse raw candidates := by
  obtain ⟨object, hobject⟩ := exists_isRegion_iff.mpr h
  have hraw : IsRegion raw.toList (String.ofList object).toList := by
    rwa [String.toList_ofList]
  have htrim : IsRegion (String.ofList (Text.trim raw.toList)).toList
      (String.ofList object).toList := by
    rw [← locateObjectChars?_eq_some_iff] at hraw ⊢
    rw [String.toList_ofList, ← locateObjectChars?_of_wraps (wraps_trim raw.toList), hraw]
  rw [parse_of_isRegion hraw, parse_of_isRegion htrim]

theorem interpret_of_parse_eq {policy : ContractPolicy} {record : MethodRecord}
    {raw other : String} (h : parse raw record.candidates = parse other record.candidates) :
    interpret policy record raw = interpret policy record other := by
  unfold interpret
  rw [h]

/-- A reply without an object is kept as it came. -/
theorem interpret_of_not_hasBraces {raw : String} (h : ¬HasBraces raw.toList)
    (policy : ContractPolicy) (record : MethodRecord) :
    interpret policy record raw = .failed record.name .format "No JSON found" (some raw) := by
  have hnone := parse_of_not_hasBraces h record.candidates
  rw [interpret_of_error hnone]
  rfl

end Reply

namespace Oracle

/-! ## Envelopes as values -/

/-- The content that a message has: a text, or none if it is `null` or missing. -/
def contentOf (v : Json.Value) : Option (Option String) :=
  (v.sole? "content").bind fun
    | some w => w.optional? Json.Value.text?
    | none => some none

/-- The choice that a value is.  Its message has to be there. -/
def choiceOf (v : Json.Value) : Option Choice :=
  (v.sole? "message").join.bind fun w => (contentOf w).map Choice.mk

/-- The envelope that a value is.  Its list of choices has to be there. -/
def envelopeOf (v : Json.Value) : Option Completion :=
  (v.sole? "choices").join.bind fun w => (w.list? choiceOf).map Completion.mk

theorem follows_contentOf : Json.Follows Completion.messageShape.read contentOf := by
  have hfields : Completion.messageShape.fields =
      [.of "content" false (Json.readOptional Json.readText) fun v _ => v] := rfl
  have hread := Json.follows_read_of hfields (Json.follows_readOptional Json.follows_readText)
  simp only [Option.map_id'] at hread
  exact hread

theorem follows_choiceOf : Json.Follows Completion.choiceShape.read choiceOf := by
  have hfields : Completion.choiceShape.fields =
      [.of "message" true Completion.messageShape.read fun v _ => ⟨v⟩] := rfl
  exact Json.follows_read_required hfields follows_contentOf

theorem follows_envelopeOf : Json.Follows Completion.shape.read envelopeOf := by
  have hfields : Completion.shape.fields =
      [.of "choices" true (Json.readList Completion.choiceShape.read) fun v _ => ⟨v⟩] := rfl
  exact Json.follows_read_required hfields (Json.follows_readList follows_choiceOf)

/-- A document that is read into an envelope is read as the envelope that its value is. -/
theorem ofJson_of_valueOf {body : String} {v : Json.Value}
    (h : Json.valueOf body.toList = .ok v) :
    (Completion.ofJson body).toOption = envelopeOf v :=
  Json.documentOf_of_valueOf follows_envelopeOf h

/-! ## Responses -/

/-- Whether a response brings a text: it is one of success and holds an envelope whose first choice
has the text as its content. -/
def Brings (r : Http.Response) (content : String) : Prop :=
  200 ≤ r.status ∧ r.status ≤ 299 ∧
    ∃ others, Completion.ofJson r.body = .ok ⟨⟨some content⟩ :: others⟩

theorem isSuccess_iff {r : Http.Response} :
    r.isSuccess = true ↔ 200 ≤ r.status ∧ r.status ≤ 299 := by
  simp [Http.Response.isSuccess, Nat.lt_succ_iff]

theorem content?_eq_some_iff {c : Completion} {content : String} :
    c.content? = some content ↔ ∃ others, c = ⟨⟨some content⟩ :: others⟩ := by
  obtain ⟨choices⟩ := c
  cases choices with
  | nil => simp [Completion.content?]
  | cons first others =>
      obtain ⟨found⟩ := first
      simp [Completion.content?]

/-- The answer to a response that brings a text is the text without the blanks around it. -/
theorem answerOf_of_brings {r : Http.Response} {content : String} (h : Brings r content) :
    Endpoint.answerOf r = .ok (String.ofList (Text.trim content.toList)) := by
  obtain ⟨hlow, hhigh, others, hbody⟩ := h
  rw [Endpoint.answerOf, if_pos (isSuccess_iff.mpr ⟨hlow, hhigh⟩), replyText, hbody]
  rfl

/-- Any other response is answered by a fault. -/
theorem answerOf_of_not_brings {r : Http.Response} (h : ∀ content, ¬Brings r content) :
    ∃ fault, Endpoint.answerOf r = .error fault := by
  by_cases hsuccess : r.isSuccess = true
  · rw [Endpoint.answerOf, if_pos hsuccess, replyText]
    cases hbody : Completion.ofJson r.body with
    | error e => exact ⟨_, rfl⟩
    | ok completion =>
        cases hcontent : completion.content? with
        | none =>
            simp only [hcontent]
            exact ⟨_, rfl⟩
        | some content =>
            obtain ⟨others, rfl⟩ := content?_eq_some_iff.mp hcontent
            obtain ⟨hlow, hhigh⟩ := isSuccess_iff.mp hsuccess
            exact absurd ⟨hlow, hhigh, others, hbody⟩ (h content)
  · rw [Endpoint.answerOf, if_neg hsuccess]
    exact ⟨_, rfl⟩

theorem toOption_eq_some_iff {ε α : Type} {x : Except ε α} {a : α} :
    x.toOption = some a ↔ x = .ok a := by
  cases x with
  | error e => simp [Except.toOption]
  | ok b => simp [Except.toOption]

/-- What a body that is a value brings is decided by the value. -/
theorem brings_iff_of_valueOf {r : Http.Response} {v : Json.Value}
    (h : Json.valueOf r.body.toList = .ok v) {content : String} :
    Brings r content ↔ 200 ≤ r.status ∧ r.status ≤ 299 ∧
      ∃ others, envelopeOf v = some ⟨⟨some content⟩ :: others⟩ := by
  simp only [Brings, ← ofJson_of_valueOf h, toOption_eq_some_iff]

section Posted

variable {client : Client} {e : Endpoint} {transport : Http.Transport} {record : MethodRecord}
  {p : Http.Post} {r : Http.Response}

theorem ask_of_response {request : Request} (hpost : e.post request = .ok p)
    (hanswer : transport p = some r) : e.ask transport request = Endpoint.answerOf r := by
  rw [Endpoint.ask, Endpoint.complete, hpost]
  simp only [Http.Posting.result_bind, Http.Post.send, hanswer]
  rfl

/-- A response that brings a text makes the outcome the interpretation of the text, without the
blanks around it or with them, except that a text without an object is kept without them.  Any other
response makes the call fail in transport, and nothing is kept of it.  So the failures of transport
are exactly those of the responses that bring no text.  What a body brings is what the choices in
its value say, the first of them, with members that are not known left out of account. -/
theorem mapFormula_of_response (hpost : e.post (client.requestFor record) = .ok p)
    (hanswer : transport p = some r) :
    (∀ content : String, Brings r content →
      let trimmed := String.ofList (Text.trim content.toList)
      client.mapFormula (e.ask transport) record =
        Reply.interpret client.contract record trimmed ∧
      (Reply.HasBraces content.toList →
        Reply.interpret client.contract record trimmed =
          Reply.interpret client.contract record content) ∧
      (¬Reply.HasBraces content.toList →
        Reply.interpret client.contract record trimmed =
          .failed record.name .format "No JSON found" (some trimmed) ∧
        Reply.interpret client.contract record content =
          .failed record.name .format "No JSON found" (some content))) ∧
    ((∀ content, ¬Brings r content) → ∃ error,
      client.mapFormula (e.ask transport) record = .failed record.name .transport error none) ∧
    ((client.mapFormula (e.ask transport) record).failure? = some .transport ↔
      ∀ content, ¬Brings r content) ∧
    (∀ v, Json.valueOf r.body.toList = .ok v → ∀ content, Brings r content ↔
      200 ≤ r.status ∧ r.status ≤ 299 ∧
        ∃ others, envelopeOf v = some ⟨⟨some content⟩ :: others⟩) := by
  have hmap : client.mapFormula (e.ask transport) record =
      outcomeOf client.contract record (Endpoint.answerOf r) := by
    rw [Client.mapFormula, ask_of_response hpost hanswer]
  have hbrings : ∀ content, Brings r content → client.mapFormula (e.ask transport) record =
      Reply.interpret client.contract record (String.ofList (Text.trim content.toList)) := by
    intro content h
    rw [hmap, answerOf_of_brings h, outcomeOf]
  have hfails : (∀ content, ¬Brings r content) → ∃ error,
      client.mapFormula (e.ask transport) record = .failed record.name .transport error none := by
    intro h
    obtain ⟨fault, hfault⟩ := answerOf_of_not_brings h
    exact ⟨fault.message, by rw [hmap, hfault, outcomeOf]⟩
  refine ⟨?_, hfails, ⟨?_, ?_⟩, fun v hv content => brings_iff_of_valueOf hv⟩
  · intro content h
    refine ⟨hbrings content h, ?_, ?_⟩
    · intro hbraces
      exact Reply.interpret_of_parse_eq (Reply.parse_trim hbraces record.candidates)
    · intro hbraces
      refine ⟨Reply.interpret_of_not_hasBraces ?_ _ _, Reply.interpret_of_not_hasBraces hbraces _ _⟩
      rwa [String.toList_ofList, Reply.hasBraces_trim_iff]
  · intro hkind content h
    rw [hbrings content h] at hkind
    exact interpret_failure_ne_transport _ _ _ hkind
  · intro h
    obtain ⟨error, herror⟩ := hfails h
    rw [herror]
    rfl

/-- Of two choices the first one counts, and a member that is not known does not.  The content has
no object in it and is kept without its blanks. -/
theorem mapFormula_without_object :
    let body := "\x7b\"id\":7,\"choices\":[\x7b\"message\":\x7b\"content\":\" no \"\x7d\x7d," ++
      "\x7b\"message\":\x7b\x7d\x7d]\x7d"
    let record : MethodRecord := ⟨"f", "F = m a", .empty, .empty, "", 1⟩
    let client : Client := ⟨"", .nan, .strip⟩
    let e : Endpoint := ⟨"http://[::1]/", "k"⟩
    (∃ p, e.post (client.requestFor record) = .ok p) ∧ Brings ⟨200, body⟩ " no " ∧
      client.mapFormula (e.ask fun _ => some ⟨200, body⟩) record =
        .failed "f" .format "No JSON found" (some "no") := by
  intro body record client e
  have hbuild : ∀ document, ∃ p, Http.Post.build "http://[::1]/" "k" document = .ok p :=
    fun _ => ⟨_, rfl⟩
  have hbody : Completion.ofJson body = .ok ⟨[⟨some " no "⟩, ⟨none⟩]⟩ := by
    rw [← toOption_eq_some_iff]
    decide +kernel
  have hbrings : Brings ⟨200, body⟩ " no " := ⟨by decide, by decide, [⟨none⟩], hbody⟩
  have hbraces : ¬Reply.HasBraces " no ".toList := by
    rw [← Reply.locateObject?_eq_none_iff]
    decide
  obtain ⟨p, hp⟩ := hbuild (client.requestFor record).toJson.compact
  let transport : Http.Transport := fun _ => some ⟨200, body⟩
  have hanswer : transport p = some ⟨200, body⟩ := rfl
  obtain ⟨houtcome, -, hraw⟩ :=
    (@mapFormula_of_response client e transport record p _ hp hanswer).1 " no " hbrings
  refine ⟨⟨p, hp⟩, hbrings, houtcome.trans ?_⟩
  rw [(hraw hbraces).1]
  decide

end Posted

end Oracle
end FormulaMap
