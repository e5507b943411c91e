import FormulaMap.Proofs.Json.Progress
import FormulaMap.Proofs.Reply.Contract

/-!
# What an object decodes to

The members of an object are taken as they stand in the text, repeated symbols one by one.  Decoding
needs a string, a number or `null` from every one of them, also from one that a later member with
the same symbol makes up for.  Then the symbols stand where they come first and have the construct
with which they come last; otherwise the first member that gives none is told.
-/

namespace FormulaMap
namespace Reply

/-! ## Reading the members -/

/-- Behind an opening brace a reader of values reads members. -/
theorem readValue_brace {fuel depth : Nat} {cs more : List Char} (hdepth : 1 < depth)
    (h : Json.skipBlanks cs = '\x7b' :: more) :
    Json.readValue (fuel + 1) depth cs =
      (Json.readMembers fuel (depth - 1) true more).map fun found =>
        (.object found.1, found.2) := by
  rw [Json.readValue, h]
  simp only
  rw [if_neg (by decide), if_neg (by decide), if_neg (by decide), if_neg (by decide),
    if_neg (by decide), if_neg (by decide), if_pos (by decide), if_neg (Nat.not_le.mpr hdepth)]
  cases Json.readMembers fuel (depth - 1) true more with
  | error fault => rfl
  | ok found => rfl

/-- The reader of objects finds what the reader of values does, where that finds an object. -/
theorem readObject_eq_ok_iff {cs rest : List Char} {members : List (String × Json.Value)} :
    readObject Json.depthLimit cs = .ok (members, rest) ↔
      Json.readValue (Json.enoughFuel cs) Json.depthLimit cs = .ok (.object members, rest) := by
  have hdepth : 1 < Json.depthLimit := by decide
  have hfuel : Json.enoughFuel cs = 2 * cs.length + 3 + 1 := rfl
  have hbrace : ∀ more, Json.skipBlanks cs = '\x7b' :: more →
      (readObject Json.depthLimit cs = .ok (members, rest) ↔
        Json.readValue (Json.enoughFuel cs) Json.depthLimit cs = .ok (.object members, rest)) := by
    intro more hmore
    have hlength := Json.length_lt_of_skipBlanks hmore
    rw [hfuel, readValue_brace hdepth hmore, Json.readMembers_of_enough (by omega), readObject,
      hmore]
    simp only
    rw [if_neg (Nat.not_le.mpr hdepth)]
    cases Json.readMembers (Json.enoughFuel more) (Json.depthLimit - 1) true more with
    | error fault => simp [Except.map]
    | ok found => simp [Except.map, Prod.ext_iff]
  constructor
  · intro h
    have hshape : ∃ more, Json.skipBlanks cs = '\x7b' :: more := by
      rw [readObject] at h
      split at h
      · cases h
      · next more hmore => exact ⟨more, hmore⟩
      · cases h
    obtain ⟨more, hmore⟩ := hshape
    exact (hbrace more hmore).mp h
  · intro h
    have hshape : ∃ more, Json.skipBlanks cs = '\x7b' :: more := by
      obtain ⟨c, more, hmore, hfrom⟩ := Json.readValue_cases_of_enough h
      cases hfrom with
      | object _ _ => exact ⟨more, hmore⟩
    obtain ⟨more, hmore⟩ := hshape
    exact (hbrace more hmore).mpr h

/-- A text has members exactly if the whole of it is an object, and they are those of the object. -/
theorem membersOf_eq_ok_iff {object : String} {members : List (String × Json.Value)} :
    membersOf object = .ok members ↔ Json.valueOf object.toList = .ok (.object members) := by
  rw [membersOf, Json.documentOf, Json.valueOf, Json.finish_eq_ok_iff, Json.finish_eq_ok_iff]
  simp only [readObject_eq_ok_iff]

/-- The text of an object with the given members. -/
def objectText (ms : List Json.WrittenMember) : String :=
  String.ofList ('\x7b' :: Json.membersText ms)

/-- Members whose values are read are the members of their object. -/
theorem membersOf_objectText {ms : List Json.WrittenMember} (hms : ∀ m ∈ ms, m.Reads) :
    membersOf (objectText ms) = .ok (ms.map (·.entry)) := by
  have hread : readObject Json.depthLimit ('\x7b' :: Json.membersText ms) =
      .ok (ms.map (·.entry), []) := by
    rw [readObject, Json.skipBlanks_cons (by decide)]
    simp only
    rw [if_neg (by decide), Json.readMembers_membersText hms]
  rw [membersOf, Json.documentOf, objectText, String.toList_ofList, hread]
  rfl

/-! ## Collecting constructs -/

/-- The construct that a value names, or none found if it names none. -/
def constructOf (candidates : NameSet) (v : Json.Value) : Construct :=
  (Construct.classify? candidates v).getD .unmapped

theorem classify?_of_isScalar {v : Json.Value} (hv : v.isScalar = true) (candidates : NameSet) :
    Construct.classify? candidates v = some (constructOf candidates v) := by
  rw [← Construct.classify?_isSome candidates v] at hv
  obtain ⟨construct, hconstruct⟩ := Option.isSome_iff_exists.mp hv
  rw [constructOf, hconstruct, Option.getD_some]

/-- Members whose values all name constructs are inserted one after the other. -/
theorem collect_of_scalars {candidates : NameSet} {members : List (String × Json.Value)}
    (h : ∀ e ∈ members, e.2.isScalar = true) (m : SymbolMapping) :
    collect candidates m members =
      .ok ((members.map fun e => (e.1, constructOf candidates e.2)).foldl
        (fun m e => m.insert e.1 e.2) m) := by
  induction members generalizing m with
  | nil => rfl
  | cons e rest ih =>
      obtain ⟨key, v⟩ := e
      have hv : v.isScalar = true := h (key, v) List.mem_cons_self
      rw [collect, classify?_of_isScalar hv candidates]
      exact ih (fun e he => h e (List.mem_cons_of_mem _ he)) _

/-- Otherwise collecting stops at the first member whose value names none. -/
theorem collect_of_first_not_scalar {candidates : NameSet}
    {earlier later : List (String × Json.Value)} {key : String} {v : Json.Value}
    (hearlier : ∀ e ∈ earlier, e.2.isScalar = true) (hv : v.isScalar = false) (m : SymbolMapping) :
    collect candidates m (earlier ++ (key, v) :: later) = .error key := by
  induction earlier generalizing m with
  | nil =>
      have hnone : Construct.classify? candidates v = none := by
        rw [← Option.not_isSome_iff_eq_none, Construct.classify?_isSome, hv]
        exact Bool.false_ne_true
      rw [List.nil_append, collect, hnone]
  | cons e rest ih =>
      obtain ⟨name, w⟩ := e
      have hw : w.isScalar = true := hearlier (name, w) List.mem_cons_self
      rw [List.cons_append, collect, classify?_of_isScalar hw candidates]
      exact ih (fun e he => hearlier e (List.mem_cons_of_mem _ he)) _

/-! ## Decoding -/

/-- Whether a text as a whole is an object with the given members, in the order of the text and
with the symbols that are repeated. -/
def Holds (object : String) (members : List (String × Json.Value)) : Prop :=
  Json.valueOf object.toList = .ok (.object members)

variable {object : String} {candidates : NameSet} {members : List (String × Json.Value)}

/-- Either all members have a string, a number or `null`, or there is a first that has not. -/
theorem scalars_or_first_not_scalar (members : List (String × Json.Value)) :
    (∀ e ∈ members, e.2.isScalar = true) ∨
      ∃ earlier key v later, members = earlier ++ (key, v) :: later ∧
        (∀ e ∈ earlier, e.2.isScalar = true) ∧ v.isScalar = false := by
  cases hfirst : members.find? fun e => !e.2.isScalar with
  | none =>
      left
      simpa using List.find?_eq_none.mp hfirst
  | some e =>
      right
      obtain ⟨he, earlier, later, hmembers, hearlier⟩ := List.find?_eq_some_iff_append.mp hfirst
      exact ⟨earlier, e.1, e.2, later, hmembers, by simpa using hearlier, by simpa using he⟩

theorem decode_of_scalars (hmembers : Holds object members)
    (h : ∀ e ∈ members, e.2.isScalar = true) :
    decode object candidates =
      .ok (.ofList (members.map fun e => (e.1, constructOf candidates e.2))) := by
  unfold decode
  rw [membersOf_eq_ok_iff.mpr hmembers]
  simp only [collect_of_scalars h]
  rfl

theorem decode_of_first_not_scalar {earlier later : List (String × Json.Value)} {key : String}
    {v : Json.Value} (hmembers : Holds object (earlier ++ (key, v) :: later))
    (hearlier : ∀ e ∈ earlier, e.2.isScalar = true) (hv : v.isScalar = false) :
    decode object candidates = .error (.notScalar object key) := by
  unfold decode
  rw [membersOf_eq_ok_iff.mpr hmembers]
  simp only [collect_of_first_not_scalar hearlier hv]

/-- What decoding gives for an object: a mapping if all its members have scalars, or else the symbol
of the first that has not. -/
theorem decode_of_holds (hmembers : Holds object members) :
    (∀ e ∈ members, e.2.isScalar = true) ∧
        decode object candidates =
          .ok (.ofList (members.map fun e => (e.1, constructOf candidates e.2))) ∨
      ∃ earlier key v later, members = earlier ++ (key, v) :: later ∧
        (∀ e ∈ earlier, e.2.isScalar = true) ∧ v.isScalar = false ∧
        decode object candidates = .error (.notScalar object key) := by
  rcases scalars_or_first_not_scalar members with hall | ⟨earlier, key, v, later, rfl, hbefore, hv⟩
  · exact .inl ⟨hall, decode_of_scalars hmembers hall⟩
  · exact .inr ⟨earlier, key, v, later, rfl, hbefore, hv,
      decode_of_first_not_scalar hmembers hbefore hv⟩

theorem message_notJson (object : String) (unread : Json.Fault) :
    (ReplyFault.notJson object unread).message =
      "invalid JSON object: " ++ unread.message object.toList := rfl

theorem message_notScalar (object key : String) :
    (ReplyFault.notScalar object key).message =
      "invalid JSON object: value for `" ++ key ++ "` is not a string, number, or null" := rfl

/-- What does not decode is kept unchanged, whatever is wrong with it. -/
theorem raw_of_decode {fault : ReplyFault} (h : decode object candidates = .error fault) :
    fault.raw = object ∧ ∃ reason, fault.message = "invalid JSON object: " ++ reason := by
  unfold decode at h
  split at h
  · next unread _ =>
      cases h
      exact ⟨rfl, unread.message object.toList, message_notJson object unread⟩
  · split at h
    · next key _ =>
        cases h
        refine ⟨rfl, "value for `" ++ key ++ "` is not a string, number, or null", ?_⟩
        have hwords : "invalid JSON object: value for `" =
            "invalid JSON object: " ++ "value for `" := by decide
        rw [message_notScalar, hwords, String.append_assoc, String.append_assoc,
          String.append_assoc]
    · cases h

/-- What constructs the symbols of scalars have. -/
theorem get?_ofList_constructOf (h : ∀ e ∈ members, e.2.isScalar = true) (key : String)
    (value : Construct) :
    (SymbolMapping.ofList (members.map fun e => (e.1, constructOf candidates e.2))).get? key =
        some value ↔
      ∃ earlier v later, members = earlier ++ (key, v) :: later ∧ key ∉ later.map (·.1) ∧
        Construct.classify? candidates v = some value := by
  rw [SymbolMapping.get?_ofList_eq_some_iff]
  constructor
  · rintro ⟨front, back, hsplit, hback⟩
    obtain ⟨earlier, behind, hmembers, rfl, hbehind⟩ := List.map_eq_append_iff.mp hsplit
    obtain ⟨⟨name, v⟩, later, rfl, hentry, rfl⟩ := List.map_eq_cons_iff.mp hbehind
    rw [Prod.mk.injEq] at hentry
    obtain ⟨rfl, rfl⟩ := hentry
    refine ⟨earlier, v, later, hmembers, by simpa using hback, ?_⟩
    exact classify?_of_isScalar (h (name, v) (by simp [hmembers])) candidates
  · rintro ⟨earlier, v, later, rfl, hlater, hvalue⟩
    refine ⟨earlier.map fun e => (e.1, constructOf candidates e.2),
      later.map fun e => (e.1, constructOf candidates e.2), ?_, by simpa using hlater⟩
    simp [constructOf, hvalue]

/-- An object decodes exactly if it is well-formed as a whole and each of its members, those that
are repeated later on included, has a string, a number or `null`.  Its symbols then come in the order
in which they come first, each with the construct that its last value names.  If it does not decode,
it is kept unchanged, and the first member that names no construct is told by its symbol. -/
theorem decode_by_occurrences (object : String) (candidates : NameSet) :
    ((∃ m, decode object candidates = .ok m) ↔
      ∃ members, Holds object members ∧ ∀ e ∈ members, e.2.isScalar = true) ∧
    (∀ m members, decode object candidates = .ok m → Holds object members →
      m.keys = (members.map (·.1)).eraseDups ∧
      ∀ key value, m.get? key = some value ↔
        ∃ earlier v later, members = earlier ++ (key, v) :: later ∧ key ∉ later.map (·.1) ∧
          Construct.classify? candidates v = some value) ∧
    ∀ fault, decode object candidates = .error fault →
      fault.raw = object ∧ (∃ reason, fault.message = "invalid JSON object: " ++ reason) ∧
      ∀ members, Holds object members →
        ∃ earlier key v later, members = earlier ++ (key, v) :: later ∧
          (∀ e ∈ earlier, e.2.isScalar = true) ∧ v.isScalar = false ∧
          fault.message =
            "invalid JSON object: value for `" ++ key ++ "` is not a string, number, or null" := by
  refine ⟨⟨?_, ?_⟩, ?_, ?_⟩
  · rintro ⟨m, h⟩
    obtain ⟨members, hmembers, -⟩ := decode_eq_ok_iff.mp h
    refine ⟨members, membersOf_eq_ok_iff.mp hmembers, ?_⟩
    rcases decode_of_holds (membersOf_eq_ok_iff.mp hmembers) with ⟨hall, -⟩ |
      ⟨earlier, key, v, later, -, -, -, hdecode⟩
    · exact hall
    · rw [hdecode] at h
      cases h
  · rintro ⟨members, hmembers, hall⟩
    exact ⟨_, decode_of_scalars hmembers hall⟩
  · intro m members h hmembers
    rcases decode_of_holds hmembers with ⟨hall, hdecode⟩ |
      ⟨earlier, key, v, later, -, -, -, hdecode⟩
    · rw [hdecode] at h
      cases h
      refine ⟨?_, get?_ofList_constructOf hall⟩
      rw [SymbolMapping.keys_ofList, List.map_map]
      rfl
    · rw [hdecode] at h
      cases h
  · intro fault h
    obtain ⟨hraw, hmessage⟩ := raw_of_decode h
    refine ⟨hraw, hmessage, ?_⟩
    intro members hmembers
    rcases decode_of_holds hmembers with ⟨-, hdecode⟩ |
      ⟨earlier, key, v, later, hsplit, hbefore, hv, hdecode⟩
    · rw [hdecode] at h
      cases h
    · rw [hdecode] at h
      cases h
      exact ⟨earlier, key, v, later, hsplit, hbefore, hv, message_notScalar object key⟩

end Reply
end FormulaMap
