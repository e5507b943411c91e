import FormulaMap.Proofs.Json.WrittenObjects
import FormulaMap.Proofs.Reply.Region

/-!
# Mappings survive being written

The written form of a mapping no longer says which strings named a variable, which were
expressions, and that `null` stands for nothing found.  Decoding tells them apart all the same:
what it takes for a variable or an expression is trimmed, is neither empty nor `null` nor a number,
and names a candidate or does not.
-/

namespace FormulaMap
namespace Construct

theorem ofText_trimmed (candidates : NameSet) (s : String) :
    ofText candidates (String.ofList (Text.trim s.toList)) = ofText candidates s := by
  simp only [ofText, String.toList_ofList, Text.trim_trim]

/-- What is written for a construct that a string names is that string, trimmed, unless it names
a number or nothing. -/
theorem toJson_ofText (candidates : NameSet) (s : String) :
    (ofText candidates s).toJson = .string (String.ofList (Text.trim s.toList)) ∨
      ofText candidates s = .unmapped ∨
      ∃ n, Json.numberOf? (Text.trim s.toList) = some n ∧ ofText candidates s = .literal n := by
  simp only [ofText]
  split
  · right
    left
    rfl
  · split
    · left
      rfl
    · split
      · next n hnumber =>
          right
          right
          exact ⟨n, hnumber, rfl⟩
      · left
        rfl

/-- A construct that some value names is named by its own written form. -/
theorem classify?_toJson {candidates : NameSet} {v : Json.Value} {c : Construct}
    (h : classify? candidates v = some c) : classify? candidates c.toJson = some c := by
  cases v with
  | null =>
      cases h
      rfl
  | number n =>
      cases h
      rfl
  | string s =>
      cases h
      rcases toJson_ofText candidates s with hwritten | hunmapped | ⟨n, -, hliteral⟩
      · rw [hwritten, classify?, ofText_trimmed]
      · rw [hunmapped]
        rfl
      · rw [hliteral]
        rfl
  | bool b => cases h
  | array elements => cases h
  | object members => cases h

theorem ranged_of_classify? {candidates : NameSet} {v : Json.Value} {n : Json.Number}
    (h : classify? candidates v = some (.literal n)) (hv : ∀ k, v = .number k → k.Ranged) :
    n.Ranged := by
  cases v with
  | null => cases h
  | number k =>
      cases h
      exact hv _ rfl
  | string s =>
      have htext : ofText candidates s = .literal n := Option.some.inj h
      rcases toJson_ofText candidates s with hwritten | hunmapped | ⟨k, hnumber, hliteral⟩
      · rw [htext] at hwritten
        cases hwritten
      · rw [htext] at hunmapped
        cases hunmapped
      · rw [htext] at hliteral
        cases hliteral
        exact Json.ranged_of_readSigned (Json.numberOf?_eq_some.mp hnumber)
  | bool b => cases h
  | array elements => cases h
  | object members => cases h

/-- A construct is read back as a value if its number, where it has one, is. -/
theorem readBack_toJson {c : Construct}
    (h : ∀ n, c = .literal n → Json.numberOf? n.chars = some n) : Json.ReadBack c.toJson := by
  cases c with
  | named name => exact Json.readBack_string name
  | expression text => exact Json.readBack_string text
  | literal n => exact Json.readBack_number (h n rfl)
  | unmapped => exact Json.readBack_null

end Construct

namespace SymbolMapping

theorem eq_or_mem_of_mem_put {symbol : String} {value : Construct}
    {entries : List (String × Construct)} {e : String × Construct}
    (h : e ∈ put symbol value entries) : e = (symbol, value) ∨ e ∈ entries := by
  induction entries with
  | nil =>
      left
      exact List.mem_singleton.mp h
  | cons old rest ih =>
      obtain ⟨key, construct⟩ := old
      rw [put] at h
      split at h
      · next hkey =>
          subst hkey
          rcases List.mem_cons.mp h with hfirst | hrest
          · exact .inl hfirst
          · exact .inr (List.mem_cons_of_mem _ hrest)
      · rcases List.mem_cons.mp h with hfirst | hrest
        · exact .inr (hfirst ▸ List.mem_cons_self)
        · rcases ih hrest with hnew | hold
          · exact .inl hnew
          · exact .inr (List.mem_cons_of_mem _ hold)

end SymbolMapping

namespace Reply

/-! ## What is collected -/

/-- Every entry of a collected mapping was there before or is named by the value of a member. -/
theorem mem_or_classify?_of_collect {candidates : NameSet} {members : List (String × Json.Value)}
    {m collected : SymbolMapping} (h : collect candidates m members = .ok collected)
    {e : String × Construct} (he : e ∈ collected.entries) :
    e ∈ m.entries ∨
      ∃ v, (e.1, v) ∈ members ∧ Construct.classify? candidates v = some e.2 := by
  induction members generalizing m with
  | nil =>
      cases h
      exact .inl he
  | cons member rest ih =>
      obtain ⟨key, v⟩ := member
      rw [collect] at h
      split at h
      · cases h
      · next construct hconstruct =>
          rcases ih h with hbefore | ⟨w, hmem, hnames⟩
          · rw [SymbolMapping.entries_insert] at hbefore
            rcases SymbolMapping.eq_or_mem_of_mem_put hbefore with rfl | hold
            · exact .inr ⟨v, List.mem_cons_self, hconstruct⟩
            · exact .inl hold
          · exact .inr ⟨w, List.mem_cons_of_mem _ hmem, hnames⟩

/-- Members with new and distinct keys are added at the end one after the other. -/
theorem collect_written {candidates : NameSet} {entries : List (String × Construct)}
    {m : SymbolMapping} (hdistinct : ((m.entries ++ entries).map (·.1)).Nodup)
    (hagain : ∀ e ∈ entries, Construct.classify? candidates e.2.toJson = some e.2) :
    collect candidates m (entries.map fun e => (e.1, e.2.toJson)) =
      .ok ⟨m.entries ++ entries⟩ := by
  induction entries generalizing m with
  | nil =>
      rw [List.append_nil]
      rfl
  | cons e rest ih =>
      obtain ⟨key, construct⟩ := e
      have hnew : key ∉ m.entries.map (·.1) := by
        intro hmem
        rw [List.map_append, List.nodup_append] at hdistinct
        exact hdistinct.2.2 key hmem key List.mem_cons_self rfl
      have hinserted : (m.insert key construct).entries = m.entries ++ [(key, construct)] :=
        SymbolMapping.put_of_notMem hnew
      have hmoved : (m.insert key construct).entries ++ rest =
          m.entries ++ (key, construct) :: rest := by
        rw [hinserted, List.append_assoc, List.singleton_append]
      have hfirst := hagain (key, construct) List.mem_cons_self
      rw [List.map_cons, collect, hfirst]
      simp only
      rw [← hmoved] at hdistinct
      rw [ih hdistinct fun e he => hagain e (List.mem_cons_of_mem _ he), hmoved]

/-! ## Written mappings -/

/-- The members that a mapping is written as. -/
theorem membersOf_compact {ms : List (String × Json.Value)} (hms : ∀ m ∈ ms, Json.ReadBack m.2) :
    membersOf (Json.Value.object ms).compact = .ok ms := by
  have htext : (Json.Value.object ms).compact = objectText (ms.map Json.WrittenMember.compact) := by
    rw [Json.Value.compact, Json.Value.compactChars, Json.compactMembers_eq, objectText]
  rw [htext, membersOf_objectText (Json.reads_compact hms), Json.map_entry_compact]

/-- The numbers among the values of an object are in range. -/
theorem ranged_of_membersOf {object key : String} {members : List (String × Json.Value)}
    {n : Json.Number} (h : membersOf object = .ok members) (hmem : (key, .number n) ∈ members) :
    n.Ranged := by
  rw [membersOf, Json.documentOf, Json.finish_eq_ok_iff] at h
  obtain ⟨rest, hread, -⟩ := h
  simp only [readObject] at hread
  split at hread
  · cases hread
  · rw [if_neg (by decide)] at hread
    exact Json.ranged_of_readMembers hread hmem
  · cases hread

/-- Between its braces a text is found whole: it has no fences and nothing around it. -/
theorem locateObject?_of_braces (inside : List Char) :
    locateObject? (stripFences (String.ofList ('\x7b' :: (inside ++ ['\x7d'])))) =
      some (String.ofList ('\x7b' :: (inside ++ ['\x7d']))) := by
  have hlast : ('\x7b' :: (inside ++ ['\x7d'])).getLast? = some '\x7d' := by
    rw [← List.cons_append, List.getLast?_concat]
  rw [locateObject?_stripFences, locateObject?_eq_some_iff]
  simp only [String.toList_ofList]
  exact ⟨Wraps.refl _, rfl, hlast⟩

/-- The written form of a mapping holds the mapping, if its symbols are distinct and its
constructs are read back. -/
theorem parse_compact {candidates : NameSet} {m : SymbolMapping} (hdistinct : m.Distinct)
    (hagain : ∀ e ∈ m.entries, Construct.classify? candidates e.2.toJson = some e.2)
    (hread : ∀ e ∈ m.entries, Json.ReadBack e.2.toJson) :
    parse m.toJson.compact candidates = .ok (m.toJson.compact, m) := by
  rw [parse_eq_ok_iff, decode_eq_ok_iff]
  constructor
  · obtain ⟨inside, hinside⟩ := Json.exists_compactMembers_eq_append
      (m.entries.map fun e => (e.1, e.2.toJson))
    have htext : m.toJson.compact = String.ofList ('\x7b' :: (inside ++ ['\x7d'])) := by
      rw [SymbolMapping.toJson, Json.Value.compact, Json.Value.compactChars, hinside]
    rw [htext]
    exact locateObject?_of_braces inside
  · refine ⟨m.entries.map fun e => (e.1, e.2.toJson), ?_, ?_⟩
    · apply membersOf_compact
      intro member hmember
      obtain ⟨e, he, rfl⟩ := List.mem_map.mp hmember
      exact hread e he
    · exact collect_written (m := .empty) hdistinct hagain

/-! ## Interpreted mappings -/

/-- What is collected from a text that was read is named by its own written form, with its numbers
in range. -/
theorem readable_of_parse {raw object : String} {candidates : NameSet} {m : SymbolMapping}
    (h : parse raw candidates = .ok (object, m)) {e : String × Construct} (he : e ∈ m.entries) :
    Construct.classify? candidates e.2.toJson = some e.2 ∧
      ∀ n, e.2 = .literal n → n.Ranged := by
  obtain ⟨members, hmembers, hcollect⟩ := decode_eq_ok_iff.mp (parse_eq_ok_iff.mp h).2
  rcases mem_or_classify?_of_collect hcollect he with hempty | ⟨v, hmember, hnames⟩
  · cases hempty
  · refine ⟨Construct.classify?_toJson hnames, ?_⟩
    intro n hn
    rw [hn] at hnames
    apply Construct.ranged_of_classify? hnames
    rintro k rfl
    exact ranged_of_membersOf hmembers hmember

/-- Every interpreted mapping is found again in its own compact form, whole, under either policy
and with every construct of the kind it had.  Only the floating-point numbers among its literals
have to be read back from what is printed for them; integers always are. -/
theorem interpret_compact {policy : ContractPolicy} {record : MethodRecord} {raw : String}
    {m : SymbolMapping} {rejected : List String}
    (h : (interpret policy record raw).outcome = .mapped m rejected)
    (hfloating : ∀ key f v, (key, .literal (.floating f v)) ∈ m.entries →
      Json.numberOf? (Json.Number.floating f v).chars = some (.floating f v)) :
    parse m.toJson.compact record.candidates = .ok (m.toJson.compact, m) ∧
      ∀ again : ContractPolicy,
        interpret again record m.toJson.compact = .mapped record.name m := by
  have hdistinct : m.Distinct := distinct_of_interpret h
  have hcontained : ∀ key ∈ m.keys, Symbol.containedIn record.documentation key = true :=
    fun key hkey => containedIn_of_interpret h hkey
  obtain ⟨object, decoded, hdecoded, hadmitted⟩ := interpret_eq_mapped h
  have hreadable : ∀ e ∈ m.entries,
      Construct.classify? record.candidates e.2.toJson = some e.2 ∧
        ∀ n, e.2 = .literal n → n.Ranged := by
    intro e he
    rw [hadmitted] at he
    exact readable_of_parse hdecoded (List.mem_filter.mp he).1
  have hread : ∀ e ∈ m.entries, Json.ReadBack e.2.toJson := by
    rintro ⟨key, construct⟩ he
    apply Construct.readBack_toJson
    rintro n rfl
    apply ((hreadable (key, .literal n) he).2 n rfl).numberOf?_chars
    rintro f v rfl
    exact hfloating key f v he
  have hparse : parse m.toJson.compact record.candidates = .ok (m.toJson.compact, m) :=
    parse_compact hdistinct (fun e he => (hreadable e he).1) hread
  have hforeign : foreignKeys m record.documentation = [] :=
    foreignKeys_eq_nil_iff.mpr hcontained
  refine ⟨hparse, ?_⟩
  intro again
  cases again with
  | strip =>
      rw [interpret_strip_of_ok hparse, hforeign, admitted_eq_self hforeign]
      rfl
  | reject => rw [interpret_reject_of_ok hparse, if_pos hforeign]

/-- The method whose reply is `areaReply`. -/
def areaRecord : MethodRecord where
  name := "area"
  documentation := "A = a \\cdot \\frac{h}{2} + c"
  candidates := NameSet.ofList ["base"]
  calls := NameSet.ofList []
  code := ""
  startLine := 1

/-- A fenced reply with a brace inside a string, a number inside another, and a foreign symbol. -/
def areaReply : String :=
  "```json\n\x7b\"a\": \" base\", \"h\": \"f(\\\"\x7d\\\")\", \"2\": 2, \"c\": \"0.5\", \"q\": 1, \"A\": null\x7d\n```"

/-- What the reply maps the symbols of the formula to. -/
def areaMapping : SymbolMapping where
  entries := [
    ("a", .named "base"),
    ("h", .expression "f(\"\x7d\")"),
    ("2", .literal (.natural 2)),
    ("c", .literal (.floating Binary.double (.finite false 4503599627370496 (-53)))),
    ("A", .unmapped)]

theorem interpret_compact_areaMapping :
    (interpret .strip areaRecord areaReply).outcome = .mapped areaMapping ["q"] ∧
      interpret .reject areaRecord areaMapping.toJson.compact = .mapped "area" areaMapping := by
  have hmapped : (interpret .strip areaRecord areaReply).outcome = .mapped areaMapping ["q"] := by
    decide +kernel
  refine ⟨hmapped, (interpret_compact hmapped ?_).2 .reject⟩
  intro key f v hmem
  have hhalf : (key, Construct.literal (.floating f v)) = ("c",
      .literal (.floating Binary.double (.finite false 4503599627370496 (-53)))) := by
    simpa [areaMapping] using hmem
  cases hhalf
  decide +kernel

end Reply
end FormulaMap
