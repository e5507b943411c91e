import FormulaMap.Proofs.Settings.Precedence
import FormulaMap.Proofs.Settings.VariableText
import Mathlib.Data.List.Nodup

/-!
# Two variables for the key of the oracle

When nothing else says anything about the key of the oracle, it can come from two variables.  The
one to fall back on gives its text as it is.  The one of the setting itself does so only if its text
is not taken for something else; if it is, loading fails or the key is another one.
-/

namespace FormulaMap
namespace Settings

open FormulaMap.Settings.Setting (Apart)

/-- The variable of the setting for the key of the oracle. -/
def ownVariable : String := "FMAP_ORACLE__API_KEY"

/-- Sources with one more variable in their environment. -/
def Sources.adding (sources : Sources) (name text : String) : Sources :=
  { sources with environment := sources.environment ++ [(name, text)] }

/-- Settings with another key of the oracle. -/
def withApiKey (s : Settings) (key : String) : Settings :=
  { s with oracle := { s.oracle with apiKey := key } }

/-- Sources that can be read and say nothing about the key of the oracle: no layer sets it, and
neither of its variables is in the environment, in whatever case. -/
structure Keyless (sources : Sources) (user project : List (String × Value)) : Prop where
  readable : Readable sources user project
  unsaid : winning sources user project "oracle" keySetting.key = none
  ownFree : ∀ v ∈ sources.environment, foldCase v.1 ≠ foldCase ownVariable
  free : ∀ v ∈ sources.environment, foldCase v.1 ≠ foldCase keyVariable

/-! ## Settings that follow what wins -/

section Loading

variable {sources : Sources} {user project : List (String × Value)}

theorem eq_of_get_eq {s t : Settings} (horacle : ∀ e ∈ oracleGroup, e.get s.oracle = e.get t.oracle)
    (hreader : ∀ e ∈ readerGroup, e.get s.reader = e.get t.reader) : s = t := by
  obtain ⟨⟨_, _, _, _, _, _, _⟩, ⟨_, _⟩⟩ := s
  obtain ⟨⟨_, _, _, _, _, _, _⟩, ⟨_, _⟩⟩ := t
  simp [oracleGroup, readerGroup, endpointSetting, keySetting, modelSetting, temperatureSetting,
    timeoutSetting, concurrencySetting, contractSetting, policySetting, countersSetting]
    at horacle hreader
  simp [horacle, hreader]

/-- What wins leaves one choice at most. -/
theorem Follows.unique {s t : Settings} (hs : Follows sources user project s)
    (ht : Follows sources user project t) : s = t := by
  refine eq_of_get_eq ?_ ?_
  · intro e he
    by_cases hkey : e.key = keySetting.key
    · obtain rfl : e = keySetting := by
        by_contra hne
        exact (pairwise_oracleGroup.forall he keySetting_mem hne).1 hkey
      obtain ⟨key, hvalue, hs⟩ := hs.apiKey
      obtain ⟨key', hvalue', ht⟩ := ht.apiKey
      obtain rfl : key = key' := Except.ok.inj (hvalue.symm.trans hvalue')
      exact hs.trans ht.symm
    · exact Except.ok.inj ((hs.oracle e he hkey).symm.trans (ht.oracle e he hkey))
  · intro e he
    exact Except.ok.inj ((hs.reader e he).symm.trans (ht.reader e he))

/-- The settings that are loaded are the ones that follow what wins. -/
theorem Readable.load_eq_ok_iff (h : Readable sources user project) {s : Settings} :
    load sources = .ok s ↔ Follows sources user project s := by
  refine ⟨h.follows_of_load, fun hs => ?_⟩
  cases hload : load sources with
  | error fault => exact absurd (h.spoils_of_load hload) hs.not_spoils
  | ok t => rw [(h.follows_of_load hload).unique hs]

/-! ## One more variable -/

/-- A variable is laid over the others by merging in its own layer. -/
theorem variableLayer_append_singleton (environment : List (String × String))
    (v : String × String) :
    variableLayer (environment ++ [v]) =
      Node.mergeMembers (variableLayer environment) (variableLayer [v]) := by
  rw [variableLayer_eq_foldl, variableLayer_eq_foldl, variableLayer_eq_foldl, List.foldl_append,
    List.foldl_cons, List.foldl_nil, List.foldl_cons, List.foldl_nil]
  cases hkeys : keysOf? v.1 with
  | none =>
      rw [layVariable, layVariable, hkeys]
      rfl
  | some keys =>
      cases keys with
      | nil => exact absurd hkeys (keysOf?_ne_nil v.1)
      | cons k ks =>
          rw [layVariable_of_cons hkeys, layVariable_of_cons hkeys]
          rfl

/-- Sources can still be read with a variable of a new name that gives sections as tables. -/
theorem Readable.adding (h : Readable sources user project) {name text : String}
    (hfree : ∀ v ∈ sources.environment, foldCase v.1 ≠ foldCase name)
    (htables : ∀ part, GivesTable (variableLayer [(name, text)]) part) :
    Readable (sources.adding name text) user project where
  holdsUser := h.holdsUser
  holdsProject := h.holdsProject
  tables := by
    intro part hpart
    obtain ⟨huser, hproject, henvironment⟩ := h.tables part hpart
    refine ⟨huser, hproject, ?_⟩
    rw [Sources.adding, variableLayer_append_singleton]
    exact henvironment.mergeMembers (htables part) (tidy_variableLayer _)
  names := by
    rw [Sources.adding, List.map_append, List.nodup_append]
    refine ⟨h.names, List.nodup_singleton _, ?_⟩
    intro a ha b hb
    obtain ⟨v, hv, rfl⟩ := List.mem_map.mp ha
    obtain rfl := List.mem_singleton.mp hb
    exact hfree v hv

/-- A variable that is silent about a setting does not change what wins. -/
theorem winning_adding_of_silent {name text part key : String}
    (h : Silent (name, text) part key) :
    winning (sources.adding name text) user project part key =
      winning sources user project part key := by
  rw [winning, winning, Sources.adding]
  simp only [variableLayer_append_singleton,
    said_mergeMembers h.table (tidy_variableLayer [(name, text)]), h.nothing]
  rfl

theorem keysOf?_keyVariable : keysOf? keyVariable = none := by decide +kernel

theorem keysOf?_ownVariable : keysOf? ownVariable = some ["oracle", keySetting.key] := by
  decide +kernel

/-- The variable to fall back on is silent about every setting. -/
theorem silent_keyVariable (text part key : String) : Silent (keyVariable, text) part key :=
  silent_of_not_touches fun ⟨keys, hkeys, _⟩ => by
    rw [keysOf?_keyVariable] at hkeys
    cases hkeys

theorem givesTable_ownVariable (text part : String) :
    GivesTable (variableLayer [(ownVariable, text)]) part :=
  @givesTable_of_two (ownVariable, text) _ _ [] keysOf?_ownVariable part

theorem said_ownVariable (text part key : String) :
    said (variableLayer [(ownVariable, text)]) part key =
      if part = "oracle" ∧ key = keySetting.key then
        some (Node.ofValue .environment (Value.ofVariable text))
      else none :=
  @said_of_two (ownVariable, text) _ _ [] keysOf?_ownVariable part key

/-- The variable of the setting is silent about every other setting. -/
theorem silent_ownVariable (text : String) {part key : String}
    (h : ¬(part = "oracle" ∧ key = keySetting.key)) : Silent (ownVariable, text) part key where
  table := givesTable_ownVariable text part
  nothing := by rw [said_ownVariable, if_neg h]

/-- What the variable of the setting says wins if nothing else is said. -/
theorem winning_adding_ownVariable
    (h : winning sources user project "oracle" keySetting.key = none) (text : String) :
    winning (sources.adding ownVariable text) user project "oracle" keySetting.key =
      some (Node.ofValue .environment (Value.ofVariable text)) := by
  have hbefore : said (variableLayer sources.environment) "oracle" keySetting.key = none := by
    rw [winning, Option.or_eq_none_iff] at h
    exact h.1
  rw [winning, Sources.adding]
  simp only [variableLayer_append_singleton,
    said_mergeMembers (givesTable_ownVariable text "oracle")
      (tidy_variableLayer [(ownVariable, text)]), hbefore]
  rw [said_ownVariable, if_pos ⟨rfl, rfl⟩]
  rfl

/-! ## The key from either variable -/

theorem get_withApiKey (s : Settings) (key : String) {e : Setting OracleSettings}
    (he : e ∈ oracleGroup) (hkey : e.key ≠ keySetting.key) :
    e.get (withApiKey s key).oracle = e.get s.oracle := by
  have hne : e ≠ keySetting := fun heq => hkey (congrArg Setting.key heq)
  exact (pairwise_oracleGroup.forall he keySetting_mem hne).2.1 _ s.oracle

/-- Settings follow what wins with another key of the oracle if that one follows from what wins for
it, and everything else wins as before. -/
theorem Follows.withApiKey {sources' : Sources} {s : Settings}
    (hs : Follows sources user project s) {key : String}
    (horacle : ∀ k ≠ keySetting.key,
      winning sources' user project "oracle" k = winning sources user project "oracle" k)
    (hreader : ∀ k,
      winning sources' user project "parser" k = winning sources user project "parser" k)
    (hkey : ∃ found : String,
      keySetting.valueFrom (winning sources' user project "oracle" keySetting.key) .initial =
          .ok found ∧
        key = if found = "" then (sources'.environment.lookup keyVariable).getD "" else found) :
    Follows sources' user project (withApiKey s key) where
  oracle := by
    intro e he hne
    rw [horacle e.key hne, get_withApiKey s key he hne]
    exact hs.oracle e he hne
  reader := by
    intro e he
    rw [hreader e.key]
    exact hs.reader e he
  apiKey := hkey
  valid := hs.valid

theorem lookup_append_of_free {environment : List (String × String)} {name : String}
    (h : ∀ v ∈ environment, foldCase v.1 ≠ foldCase name) (more : List (String × String)) :
    (environment ++ more).lookup name = more.lookup name := by
  induction environment with
  | nil => rfl
  | cons v rest ih =>
      have hne : (name == v.1) = false := by
        rw [beq_eq_false_iff_ne]
        exact fun heq => h v List.mem_cons_self (congrArg foldCase heq.symm)
      rw [List.cons_append, List.lookup_cons, hne]
      exact ih fun w hw => h w (List.mem_cons_of_mem v hw)

variable {s : Settings}

/-- The variable to fall back on gives the key as it is. -/
theorem Keyless.load_adding_keyVariable (h : Keyless sources user project)
    (hs : load sources = .ok s) (key : String) :
    load (sources.adding keyVariable key) = .ok (withApiKey s key) := by
  have hreadable : Readable (sources.adding keyVariable key) user project :=
    h.readable.adding h.free fun part => (silent_keyVariable key part "").table
  have hsame : ∀ part k, winning (sources.adding keyVariable key) user project part k =
      winning sources user project part k := fun part k =>
    winning_adding_of_silent (silent_keyVariable key part k)
  refine hreadable.load_eq_ok_iff.mpr ((h.readable.follows_of_load hs).withApiKey
    (fun k _ => hsame "oracle" k) (fun k => hsame "parser" k) ⟨"", ?_, ?_⟩)
  · rw [hsame, h.unsaid]
    rfl
  · rw [if_pos rfl, Sources.adding, lookup_append_of_free h.free]
    rfl

theorem Keyless.readable_adding_ownVariable (h : Keyless sources user project) (key : String) :
    Readable (sources.adding ownVariable key) user project :=
  h.readable.adding h.ownFree (givesTable_ownVariable key)

/-- The variable of the setting gives the text that its own text stands for. -/
theorem Keyless.load_adding_ownVariable (h : Keyless sources user project)
    (hs : load sources = .ok s) {key found : String}
    (hfound : (Value.ofVariable key).text? = some found) :
    load (sources.adding ownVariable key) = .ok (withApiKey s found) := by
  have hother : ∀ {part k}, ¬(part = "oracle" ∧ k = keySetting.key) →
      winning (sources.adding ownVariable key) user project part k =
        winning sources user project part k :=
    fun hne => winning_adding_of_silent (silent_ownVariable key hne)
  refine (h.readable_adding_ownVariable key).load_eq_ok_iff.mpr
    ((h.readable.follows_of_load hs).withApiKey (fun k hne => hother fun hboth => hne hboth.2)
      (fun k => hother fun hboth => absurd hboth.1 (by decide)) ⟨found, ?_, ?_⟩)
  · rw [winning_adding_ownVariable h.unsaid]
    exact nodeText_ofValue_eq_ok_iff.mpr hfound
  · rw [Sources.adding, lookup_append_of_free h.free]
    split
    · next hempty => exact hempty
    · rfl

/-- It makes loading fail if its text stands for none. -/
theorem Keyless.exists_fault_adding_ownVariable (h : Keyless sources user project) {key : String}
    (hnone : (Value.ofVariable key).text? = none) :
    ∃ fault, load (sources.adding ownVariable key) = .error fault := by
  cases hload : load (sources.adding ownVariable key) with
  | error fault => exact ⟨fault, rfl⟩
  | ok t =>
      obtain ⟨found, hvalue, -⟩ :=
        ((h.readable_adding_ownVariable key).follows_of_load hload).apiKey
      rw [winning_adding_ownVariable h.unsaid] at hvalue
      have htext := nodeText_ofValue_eq_ok_iff.mp hvalue
      rw [hnone] at htext
      cases htext

end Loading

/-- Where nothing else says anything about the key of the oracle, the variable to fall back on gives
every key as it is and changes nothing else.  The variable of the setting does the same exactly for
the keys that are not taken for something else; with any other, loading fails or gives a different
key. -/
theorem key_from_either_variable {sources : Sources} {user project : List (String × Value)}
    {s : Settings} (h : Keyless sources user project) (hs : load sources = .ok s) (key : String) :
    load (sources.adding keyVariable key) = .ok (withApiKey s key) ∧
      (¬Reinterpreted key → load (sources.adding ownVariable key) = .ok (withApiKey s key)) ∧
      (Reinterpreted key →
        (∃ fault, load (sources.adding ownVariable key) = .error fault) ∨
          ∃ other, other ≠ key ∧
            load (sources.adding ownVariable key) = .ok (withApiKey s other)) := by
  refine ⟨h.load_adding_keyVariable hs key, ?_, ?_⟩
  · intro hplain
    have htext := ofVariable_of_not_reinterpreted hplain
    exact h.load_adding_ownVariable hs (congrArg Value.text? htext)
  · intro htaken
    cases hfound : (Value.ofVariable key).text? with
    | none => exact .inl (h.exists_fault_adding_ownVariable hfound)
    | some other =>
        refine .inr ⟨other, ?_, h.load_adding_ownVariable hs hfound⟩
        rintro rfl
        exact text?_ofVariable_ne htaken hfound

/-- Sources without files and variables. -/
def bareSources : Sources := ⟨("user.toml", .nothing), ("project.toml", .nothing), []⟩

theorem keyless_bareSources : Keyless bareSources [] [] where
  readable :=
    { holdsUser := rfl
      holdsProject := rfl
      tables := by
        intro part _
        refine ⟨?_, ?_, ?_⟩
        all_goals exact nofun
      names := List.nodup_nil }
  unsaid := rfl
  ownFree := nofun
  free := nofun

/-- A key of digits comes through one of the two variables alone, and one with letters through
both. -/
theorem key_from_either_variable_digits :
    load bareSources = .ok .initial ∧
      load (bareSources.adding keyVariable "123") = .ok (withApiKey .initial "123") ∧
      ((∃ fault, load (bareSources.adding ownVariable "123") = .error fault) ∨
        ∃ other, other ≠ "123" ∧
          load (bareSources.adding ownVariable "123") = .ok (withApiKey .initial other)) ∧
      load (bareSources.adding ownVariable "sk-123") = .ok (withApiKey .initial "sk-123") := by
  have hload : load bareSources = .ok .initial := by decide +kernel
  have hdigits : Reinterpreted "123" := by
    by_contra hplain
    have hnone : (Value.ofVariable "123").text? = none := by decide +kernel
    rw [ofVariable_of_not_reinterpreted hplain] at hnone
    cases hnone
  have hletters : ¬Reinterpreted "sk-123" := fun htaken =>
    text?_ofVariable_ne htaken (by decide +kernel)
  obtain ⟨hfallback, -, hown⟩ := key_from_either_variable keyless_bareSources hload "123"
  obtain ⟨-, hplain, -⟩ := key_from_either_variable keyless_bareSources hload "sk-123"
  exact ⟨hload, hfallback, hown hdigits, hplain hletters⟩

end Settings
end FormulaMap
