import FormulaMap.Proofs.Json.Structures
import FormulaMap.Record.Basic
import Mathlib.Data.List.Forall2
import Mathlib.Data.Set.List

/-!
# Records in documents

A record is read back from the object that is written for it.  What is read from an object depends
on what its members say and on nothing else: not on the order of the members, and of the lists of
names not on the order of the names or on how often one is there.  A record that was read once is
therefore written in one way only.
-/

namespace FormulaMap

/-- Sets with the same names are the same. -/
theorem NameSet.eq_of_mem_iff {s t : NameSet} (h : ∀ z, z ∈ s.toList ↔ z ∈ t.toList) : s = t := by
  have hnodup : ∀ u : NameSet, u.toList.Nodup := fun u =>
    u.increasing.imp fun {x y} hlt => by
      rintro rfl
      exact String.lt_irrefl x hlt
  have hperm : s.toList.Perm t.toList :=
    (List.perm_ext_iff_of_nodup (hnodup s) (hnodup t)).mpr h
  refine NameSet.ext (hperm.eq_of_pairwise ?_ s.increasing t.increasing)
  exact fun a b _ _ hab hba => absurd hba (String.lt_asymm hab)

theorem NameSet.ofList_toList (s : NameSet) : NameSet.ofList s.toList = s :=
  NameSet.eq_of_mem_iff fun _ => NameSet.mem_ofList

namespace MethodRecord

open FormulaMap.Json (Value Component WrittenMember)

/-! ## Sets of names as values -/

/-- The set of names that a value means: a list of strings, in any order and any number. -/
def namesOf? (v : Value) : Option NameSet :=
  (Value.list? Value.text? v).map NameSet.ofList

theorem mapM_text?_eq_some_iff {vs : List Value} {texts : List String} :
    vs.mapM Value.text? = some texts ↔ vs = texts.map .string := by
  induction vs generalizing texts with
  | nil => cases texts <;> simp
  | cons v vs ih =>
      rw [List.mapM_cons]
      constructor
      · intro h
        obtain ⟨s, hs, h⟩ := Option.bind_eq_some_iff.mp h
        obtain ⟨others, hothers, h⟩ := Option.bind_eq_some_iff.mp h
        cases h
        cases v with
        | string t =>
            cases hs
            rw [ih.mp hothers, List.map_cons]
        | _ => cases hs
      · intro h
        cases texts with
        | nil => cases h
        | cons s texts =>
            obtain ⟨rfl, hvs⟩ := List.cons.inj h
            simp only [Value.text?, ih.mpr hvs, bind, Option.bind, pure]

theorem namesOf?_array_eq_some_iff {vs : List Value} {s : NameSet} :
    namesOf? (.array vs) = some s ↔ ∃ texts, vs = texts.map .string ∧ NameSet.ofList texts = s := by
  rw [namesOf?, Value.list?, Option.map_eq_some_iff]
  simp only [mapM_text?_eq_some_iff]

theorem namesOf?_ofStrings (s : NameSet) : namesOf? (.ofStrings s.toList) = some s :=
  namesOf?_array_eq_some_iff.mpr ⟨s.toList, rfl, s.ofList_toList⟩

/-- Lists with the same elements mean the same set. -/
theorem namesOf?_of_mem_iff {vs ws : List Value} (h : ∀ v, v ∈ vs ↔ v ∈ ws) {s : NameSet}
    (hs : namesOf? (.array vs) = some s) : namesOf? (.array ws) = some s := by
  obtain ⟨texts, rfl, rfl⟩ := namesOf?_array_eq_some_iff.mp hs
  obtain ⟨others, rfl⟩ : ws ∈ Set.range (List.map Value.string) := by
    rw [Set.range_list_map]
    intro w hw
    obtain ⟨t, -, rfl⟩ := List.mem_map.mp ((h w).mpr hw)
    exact ⟨t, rfl⟩
  refine namesOf?_array_eq_some_iff.mpr ⟨others, rfl, NameSet.eq_of_mem_iff fun z => ?_⟩
  have hz := h (.string z)
  simpa [NameSet.mem_ofList] using hz.symm

theorem readNames_eq : readNames = fun depth cs =>
    (Json.readList Json.readText depth cs).map fun p => (NameSet.ofList p.1, p.2) := by
  funext depth cs
  rw [readNames]
  cases Json.readList Json.readText depth cs with
  | error e => rfl
  | ok found => rfl

theorem follows_readNames : Json.Follows readNames namesOf? := by
  rw [readNames_eq]
  exact fun depth cs v rest h =>
    Json.gives_map (Json.follows_readList Json.follows_readText depth cs v rest h) NameSet.ofList

theorem grounded_readNames : Json.Grounded readNames := by
  rw [readNames_eq]
  exact (Json.grounded_readList Json.grounded_readText).map NameSet.ofList

/-! ## The parts of a record -/

/-- A text of a record. -/
def textPart (name : String) (set : String → MethodRecord → MethodRecord)
    (get : MethodRecord → String) (get_set : ∀ s r, get (set s r) = s) :
    Component MethodRecord where
  name := name
  reader := Json.readText
  meaning := Value.text?
  follows := Json.follows_readText
  grounded := Json.grounded_readText
  set := set
  get := get
  get_set := get_set

/-- A set of names of a record. -/
def namesPart (name : String) (set : NameSet → MethodRecord → MethodRecord)
    (get : MethodRecord → NameSet) (get_set : ∀ s r, get (set s r) = s) :
    Component MethodRecord where
  name := name
  reader := readNames
  meaning := namesOf?
  follows := follows_readNames
  grounded := grounded_readNames
  set := set
  get := get
  get_set := get_set

/-- The line of a record. -/
def linePart : Component MethodRecord where
  name := "start_line"
  reader := Json.readNatural "usize"
  meaning := Value.natural?
  follows := Json.follows_readNatural "usize"
  grounded := Json.grounded_readNumeric _ _
  set := fun n r => { r with startLine := n }
  get := (·.startLine)
  get_set := fun _ _ => rfl

/-- The parts of a record, in the order in which they are written. -/
def parts : List (Component MethodRecord) := [
  textPart "name" (fun s r => { r with name := s }) (·.name) fun _ _ => rfl,
  textPart "documentation" (fun s r => { r with documentation := s }) (·.documentation)
    fun _ _ => rfl,
  namesPart "variables" (fun s r => { r with candidates := s }) (·.candidates) fun _ _ => rfl,
  namesPart "calls" (fun s r => { r with calls := s }) (·.calls) fun _ _ => rfl,
  textPart "code" (fun s r => { r with code := s }) (·.code) fun _ _ => rfl,
  linePart]

/-- The keys that belong to a record. -/
def keys : List String := parts.map (·.name)

theorem madeOf_parts : shape.MadeOf parts where
  fields := rfl
  apart := by simp [parts, textPart, namesPart, linePart, Component.Apart]
  ext := by
    intro r r' h
    cases r
    cases r'
    simpa [parts, textPart, namesPart, linePart] using h

/-! ## Objects -/

/-- A text is that of an object. -/
def IsObject (text : String) : Prop :=
  ∃ inside, Json.skipBlanks text.toList = '\x7b' :: inside

/-- A text is an object with some members in their order: the keys of records with their values,
and any other keys with something that is passed over. -/
def Holds (text : String) (ms : List (String × Option Value)) : Prop :=
  ∃ inside brace, Json.skipBlanks text.toList = '\x7b' :: inside ∧
    Json.MembersHeld keys (Json.depthLimit - 1) true inside ms brace ∧
    Json.skipBlanks (brace.drop 1) = []

/-- The record in an object is the one that its members say. -/
theorem ofJson_eq_ok_iff {text : String} {ms : List (String × Option Value)} (h : Holds text ms)
    {r : MethodRecord} : ofJson text = .ok r ↔ Component.Tells parts ms r := by
  obtain ⟨inside, brace, heq, hheld, hrest⟩ := h
  rw [ofJson, Json.documentOf, Json.finish_eq_ok_iff]
  simp only [madeOf_parts.read_object_iff (by decide) heq hheld]
  constructor
  · rintro ⟨rest, ⟨htells, -⟩, -⟩
    exact htells
  · exact fun htells => ⟨_, ⟨htells, rfl⟩, hrest⟩

/-- An object from which a record is read has members. -/
theorem exists_holds {text : String} (h : IsObject text) {r : MethodRecord}
    (hr : ofJson text = .ok r) : ∃ ms, Holds text ms := by
  obtain ⟨inside, heq⟩ := h
  rw [ofJson, Json.documentOf, Json.finish_eq_ok_iff] at hr
  obtain ⟨rest, hread, hrest⟩ := hr
  obtain ⟨-, ms, brace, hheld, rfl⟩ := madeOf_parts.exists_membersHeld heq hread
  exact ⟨ms, inside, brace, heq, hheld, hrest⟩

/-- Written members are held by the object that they are written into. -/
theorem holds_membersText {ms : List WrittenMember} (hkeys : ∀ m ∈ ms, m.key ∈ keys)
    (hreads : ∀ m ∈ ms, m.ReadsWithin (Json.depthLimit - 1)) :
    Holds (String.ofList ('\x7b' :: Json.membersText ms))
      (ms.map fun m => (m.key, some m.value)) := by
  have hheld := Json.membersHeld_membersAt hkeys hreads true []
  rw [List.append_nil] at hheld
  refine ⟨Json.membersText ms, ['\x7d'], ?_, hheld, rfl⟩
  rw [String.toList_ofList, Json.skipBlanks_cons (by decide)]

/-! ## Other ways to say the same -/

/-- A member that says the same for a record: itself, or one of the two lists of names with the same
elements, in any order and any number. -/
inductive Restated : String × Option Value → String × Option Value → Prop
  | same (m : String × Option Value) : Restated m m
  | names {key : String} {vs ws : List Value} (hkey : key = "variables" ∨ key = "calls")
      (h : ∀ v, v ∈ vs ↔ v ∈ ws) : Restated (key, some (.array vs)) (key, some (.array ws))

/-- Members in another order, each of them as it was or restated. -/
def Rearranged (ms ms' : List (String × Option Value)) : Prop :=
  ∃ between, ms.Perm between ∧ List.Forall₂ Restated between ms'

theorem Restated.names_ofStrings {key : String} {xs ys : List String}
    (hkey : key = "variables" ∨ key = "calls") (h : ∀ z, z ∈ xs ↔ z ∈ ys) :
    Restated (key, some (.ofStrings xs)) (key, some (.ofStrings ys)) := by
  refine .names hkey fun v => ?_
  simp only [List.mem_map, h]

theorem Restated.key_eq {m m' : String × Option Value} (h : Restated m m') : m.1 = m'.1 := by
  cases h <;> rfl

/-- A restated member means the same for its part. -/
theorem Restated.meaning {p : Component MethodRecord} (hp : p ∈ parts) {v : Value}
    {m : String × Option Value} (h : Restated (p.name, some v) m) {a : p.α}
    (ha : p.meaning v = some a) : ∃ w, m = (p.name, some w) ∧ p.meaning w = some a := by
  obtain ⟨key, hkey⟩ : ∃ key, p.name = key := ⟨_, rfl⟩
  rw [hkey] at h ⊢
  cases h with
  | same => exact ⟨v, rfl, ha⟩
  | @names _ vs ws hnames hmem =>
      refine ⟨.array ws, rfl, ?_⟩
      simp only [parts, List.mem_cons, List.not_mem_nil, or_false] at hp
      rcases hp with rfl | rfl | rfl | rfl | rfl | rfl
      · cases ha
      · cases ha
      · exact namesOf?_of_mem_iff hmem ha
      · exact namesOf?_of_mem_iff hmem ha
      · cases ha
      · cases ha

theorem naming_of_restated {p : Component MethodRecord} {ms ms' : List (String × Option Value)}
    (h : List.Forall₂ Restated ms ms') : List.Forall₂ Restated (p.naming ms) (p.naming ms') := by
  induction h with
  | nil => exact .nil
  | @cons m m' ms ms' hm _ ih =>
      by_cases hname : m.1 = p.name
      · rw [Component.naming_cons_of_eq hname, Component.naming_cons_of_eq (hm.key_eq ▸ hname)]
        exact .cons hm ih
      · rw [Component.naming_cons_of_ne hname, Component.naming_cons_of_ne (hm.key_eq ▸ hname)]
        exact ih

/-- Rearranged members say the same record. -/
theorem tells_of_rearranged {ms ms' : List (String × Option Value)} {r : MethodRecord}
    (h : Rearranged ms ms') (hms : Component.Tells parts ms r) : Component.Tells parts ms' r := by
  obtain ⟨between, hperm, hrestated⟩ := h
  intro p hp
  obtain ⟨v, hsole, hmeaning⟩ := hms.perm hperm p hp
  have hnaming := naming_of_restated (p := p) hrestated
  rw [hsole] at hnaming
  obtain ⟨m, rest, hm, hnil, hcons⟩ := List.forall₂_cons_left_iff.mp hnaming
  obtain rfl := List.forall₂_nil_left_iff.mp hnil
  obtain ⟨w, rfl, hw⟩ := hm.meaning hp hmeaning
  exact ⟨w, hcons, hw⟩

/-! ## What is written -/

/-- The members that are written for a record. -/
def written (r : MethodRecord) : List WrittenMember := [
  .compact ("name", .string r.name),
  .compact ("documentation", .string r.documentation),
  .compact ("variables", .ofStrings r.candidates.toList),
  .compact ("calls", .ofStrings r.calls.toList),
  .compact ("code", .string r.code),
  .compact ("start_line", .ofNat r.startLine)]

theorem compact_toJson (r : MethodRecord) :
    r.toJson.compact = String.ofList ('\x7b' :: Json.membersText r.written) := by
  rw [toJson, Value.compact, Value.compactChars, Json.compactMembers_eq]
  rfl

theorem readsWithin_written {r : MethodRecord} (h : r.startLine < 2 ^ 64) :
    ∀ m ∈ r.written, m.ReadsWithin (Json.depthLimit - 1) := by
  have hdepth : 1 < Json.depthLimit - 1 := by decide
  simp only [written, List.forall_mem_cons]
  exact ⟨.string _ _ _, .string _ _ _, .strings hdepth _ _, .strings hdepth _ _,
    .string _ _ _, .natural _ _ h, fun _ => nofun⟩

/-- The object written for a record holds its members. -/
theorem holds_compact_toJson {r : MethodRecord} (h : r.startLine < 2 ^ 64) :
    Holds r.toJson.compact (r.written.map fun m => (m.key, some m.value)) := by
  rw [compact_toJson]
  have hkeys : ∀ key ∈ r.written.map (·.key), key ∈ keys := fun _ hkey => hkey
  exact holds_membersText (fun m hm => hkeys _ (List.mem_map_of_mem hm)) (readsWithin_written h)

/-- What is written for a record says the record. -/
theorem tells_written (r : MethodRecord) :
    Component.Tells parts (r.written.map fun m => (m.key, some m.value)) r := by
  have hnames := namesOf?_ofStrings
  intro p hp
  simp only [parts, List.mem_cons, List.not_mem_nil, or_false] at hp
  rcases hp with rfl | rfl | rfl | rfl | rfl | rfl
  · exact ⟨_, rfl, rfl⟩
  · exact ⟨_, rfl, rfl⟩
  · exact ⟨_, rfl, hnames r.candidates⟩
  · exact ⟨_, rfl, hnames r.calls⟩
  · exact ⟨_, rfl, rfl⟩
  · exact ⟨_, rfl, rfl⟩

/-- What is written for the record that is read from a text. -/
def rewritten (text : String) : Except Json.Fault String :=
  (ofJson text).map fun r => r.toJson.compact

/-- Every record is read back from what is written for it.  An object from which a record is read
has members; any other object whose members are these in another order, with the elements of the two
lists of names in any order and any number, gives the same record and is rewritten the same. -/
theorem read_back_in_every_arrangement :
    (∀ r : MethodRecord, r.startLine < 2 ^ 64 → ofJson r.toJson.compact = .ok r) ∧
    ∀ (text : String) (r : MethodRecord), IsObject text → ofJson text = .ok r →
      (∃ ms, Holds text ms) ∧
      ∀ ms ms' other, Holds text ms → Rearranged ms ms' → Holds other ms' →
        ofJson other = .ok r ∧ rewritten other = rewritten text := by
  refine ⟨fun r hr => (ofJson_eq_ok_iff (holds_compact_toJson hr)).mpr (tells_written r), ?_⟩
  intro text r hobject hread
  refine ⟨exists_holds hobject hread, ?_⟩
  intro ms ms' other hms harranged hother
  have htells := tells_of_rearranged harranged ((ofJson_eq_ok_iff hms).mp hread)
  have hagain : ofJson other = .ok r := (ofJson_eq_ok_iff hother).mpr htells
  refine ⟨hagain, ?_⟩
  rw [rewritten, rewritten, hagain, hread]

/-- A record with two names, on the last line there can be. -/
def twoNames : MethodRecord :=
  ⟨"area", noComment, .ofList ["r", "pi"], .ofList ["square(...)"], "return r;", 2 ^ 64 - 1⟩

/-- Its members backwards, with the names out of order and repeated. -/
def twoNamesBackwards : List WrittenMember := [
  .compact ("start_line", .ofNat (2 ^ 64 - 1)),
  .compact ("code", .string "return r;"),
  .compact ("calls", .ofStrings ["square(...)", "square(...)"]),
  .compact ("variables", .ofStrings ["r", "pi", "r"]),
  .compact ("documentation", .string noComment),
  .compact ("name", .string "area")]

theorem holds_twoNamesBackwards :
    Holds (String.ofList ('\x7b' :: Json.membersText twoNamesBackwards))
      (twoNamesBackwards.map fun m => (m.key, some m.value)) := by
  refine holds_membersText (by decide) ?_
  have hdepth : 1 < Json.depthLimit - 1 := by decide
  simp only [twoNamesBackwards, List.forall_mem_cons]
  exact ⟨.natural _ _ (by decide), .string _ _ _, .strings hdepth _ _, .strings hdepth _ _,
    .string _ _ _, .string _ _ _, fun _ => nofun⟩

theorem rearranged_twoNamesBackwards :
    Rearranged (twoNames.written.map fun m => (m.key, some m.value))
      (twoNamesBackwards.map fun m => (m.key, some m.value)) := by
  refine ⟨_, (List.reverse_perm _).symm, ?_⟩
  refine .cons (.same _) (.cons (.same _) (.cons (.names_ofStrings (.inr rfl) ?_)
    (.cons (.names_ofStrings (.inl rfl) ?_) (.cons (.same _) (.cons (.same _) .nil)))))
  · simp [twoNames, NameSet.mem_ofList]
  · simp only [twoNames, NameSet.mem_ofList, List.mem_cons]
    grind

theorem read_back_backwards :
    ofJson twoNames.toJson.compact = .ok twoNames ∧
    ofJson (String.ofList ('\x7b' :: Json.membersText twoNamesBackwards)) = .ok twoNames ∧
    rewritten (String.ofList ('\x7b' :: Json.membersText twoNamesBackwards)) =
      rewritten twoNames.toJson.compact := by
  have hback := read_back_in_every_arrangement.1 twoNames (by decide)
  have hobject : IsObject twoNames.toJson.compact :=
    ⟨_, by rw [compact_toJson, String.toList_ofList, Json.skipBlanks_cons (by decide)]⟩
  exact ⟨hback, (read_back_in_every_arrangement.2 _ twoNames hobject hback).2 _ _ _
    (holds_compact_toJson (by decide)) rearranged_twoNamesBackwards holds_twoNamesBackwards⟩

end MethodRecord
end FormulaMap
