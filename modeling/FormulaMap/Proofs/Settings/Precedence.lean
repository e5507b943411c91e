import FormulaMap.Proofs.Settings.Environment
import FormulaMap.Proofs.Settings.Files
import FormulaMap.Proofs.Settings.Sections

/-!
# Which layer a setting comes from

Every setting comes from the highest layer that says something about it: the variables of the
environment, then the file of the project, then the file of the user, and what holds when nothing is
said last of all.  Loading fails exactly if one of these values does not fit its setting or one of
the two limits is zero.  The key of the oracle alone has a variable of its own to fall back on when
its value is empty.
-/

namespace FormulaMap
namespace Settings

open FormulaMap.Settings.Node (Tidy mergeMembers)
open FormulaMap.Settings.Setting (Apart RefusesTables groupFrom)

/-! ## The names of variables -/

/-- The name of the variable for the setting under a key of a section. -/
def variableName (part key : String) : String :=
  String.ofList ("FMAP_".toList ++ part.toList.map Text.asciiUpper ++ "__".toList ++
    key.toList.map Text.asciiUpper)

theorem keysOf?_variableName_oracle :
    ∀ key ∈ oracleGroup.map (·.key),
      keysOf? (variableName "oracle" key) = some ["oracle", key] := by
  decide +kernel

theorem keysOf?_variableName_reader :
    ∀ key ∈ readerGroup.map (·.key),
      keysOf? (variableName "parser" key) = some ["parser", key] := by
  decide +kernel

/-- How variables say something about the setting under a key of a section.  Those whose names
stand for something else are silent.  The one of its own name, in whatever case, gives it the value
its text stands for if the others are silent.  If all are, nothing is said. -/
structure SaidByVariables (environment : List (String × String)) (part key : String) : Prop where
  silent : ∀ v ∈ environment, ¬Touches v.1 part key → Silent v part key
  named : ∀ name text, (name, text) ∈ environment →
    foldCase name = foldCase (variableName part key) →
    (∀ v ∈ environment, foldCase v.1 ≠ foldCase name → Silent v part key) →
    said (variableLayer environment) part key =
      some (Node.ofValue .environment (Value.ofVariable text))
  unnamed : (∀ v ∈ environment, Silent v part key) →
    said (variableLayer environment) part key = none

theorem saidByVariables {environment : List (String × String)}
    (hnames : (environment.map fun v => foldCase v.1).Nodup) {part key : String}
    (hkeys : keysOf? (variableName part key) = some [part, key]) :
    SaidByVariables environment part key where
  silent := fun _ _ h => silent_of_not_touches h
  named := by
    intro name text hmem hname hothers
    have hsame := (keysOf?_eq_of_foldCase hname).trans hkeys
    exact said_variableLayer_of_mem hnames hmem hsame hothers
  unnamed := said_variableLayer_of_silent

/-! ## The value that wins -/

/-- What the highest source that says something about a setting says: the variables come before the
file of the project, and that before the file of the user. -/
def winning (sources : Sources) (user project : List (String × Value)) (part key : String) :
    Option Node :=
  (said (variableLayer sources.environment) part key).or
    (((written project part key).map (Node.ofValue (.file sources.project.1))).or
      ((written user part key).map (Node.ofValue (.file sources.user.1))))

/-- Sources whose files hold the members of a user file and of a project file, with no two
variables that differ in case alone, and which give the two sections as tables or not at all. -/
structure Readable (sources : Sources) (user project : List (String × Value)) : Prop where
  holdsUser : Holds sources.user user
  holdsProject : Holds sources.project project
  tables : ∀ part ∈ ["oracle", "parser"],
    WritesTable user part ∧ WritesTable project part ∧
      GivesTable (variableLayer sources.environment) part
  names : (sources.environment.map fun v => foldCase v.1).Nodup

/-- All sources laid over each other. -/
def layersOf (sources : Sources) (user project : List (String × Value)) : List (String × Node) :=
  mergeMembers
    (mergeMembers (Node.ofMembers (.file sources.user.1) user)
      (Node.ofMembers (.file sources.project.1) project))
    (variableLayer sources.environment)

section Loading

variable {sources : Sources} {user project : List (String × Value)}

theorem tidy_layersOf : Tidy (layersOf sources user project) :=
  ((Node.tidy_ofMembers _ _).mergeMembers (Node.tidy_ofMembers _ _)).mergeMembers
    (tidy_variableLayer _)

theorem Readable.givesTable (h : Readable sources user project) {part : String}
    (hpart : part ∈ ["oracle", "parser"]) : GivesTable (layersOf sources user project) part := by
  obtain ⟨huser, hproject, henvironment⟩ := h.tables part hpart
  have hfiles := (huser.givesTable (.file sources.user.1)).mergeMembers
    (hproject.givesTable (.file sources.project.1)) (Node.tidy_ofMembers _ _)
  exact hfiles.mergeMembers henvironment (tidy_variableLayer _)

/-- What the merged layers say about a setting stands for what wins. -/
theorem Readable.rel_said (h : Readable sources user project) {part : String}
    (hpart : part ∈ ["oracle", "parser"]) (key : String) :
    Option.Rel StandsFor (said (layersOf sources user project) part key)
      (winning sources user project part key) := by
  obtain ⟨-, hproject, henvironment⟩ := h.tables part hpart
  rw [layersOf, winning, said_mergeMembers henvironment (tidy_variableLayer _),
    said_mergeMembers (hproject.givesTable _) (Node.tidy_ofMembers _ _), said_ofMembers,
    said_ofMembers]
  exact rel_laid _ (rel_laid _ (rel_refl _))

theorem Readable.load_eq (h : Readable sources user project) :
    load sources =
      match ofLayers (layersOf sources user project) with
      | .error m => .error (.misfit m)
      | .ok s =>
        match (withKey sources.environment s).oracle.validate with
        | .error e => .error (.settings e)
        | .ok () => .ok (withKey sources.environment s) := by
  rw [load, fileLayer_of_holds h.holdsUser, fileLayer_of_holds h.holdsProject]
  rfl

/-! ## Groups of the merged layers -/

section Group

variable {σ : Type} {name : String} {es : List (Setting σ)} {part : String} {before : σ}

theorem Readable.valueFrom_of_groupFrom (h : Readable sources user project)
    (hpart : part ∈ ["oracle", "parser"]) (hapart : es.Pairwise Apart)
    (hrefuses : ∀ e ∈ es, RefusesTables e) {s : σ}
    (hgroup : groupFrom name es ((layersOf sources user project).lookup part) before = .ok s) :
    ∀ e ∈ es, e.valueFrom (winning sources user project part e.key) before = .ok (e.get s) := by
  intro e he
  have hsaid := Setting.valueFrom_of_groupFrom hapart (h.givesTable hpart)
    (tidy_layersOf.inner part) hgroup he
  exact (Setting.valueFrom_eq_ok_iff_of_rel (hrefuses e he) (h.rel_said hpart e.key)).mp hsaid

theorem Readable.exists_error_of_groupFrom (h : Readable sources user project)
    (hpart : part ∈ ["oracle", "parser"]) (hrefuses : ∀ e ∈ es, RefusesTables e) {m : Misfit}
    (hgroup : groupFrom name es ((layersOf sources user project).lookup part) before = .error m) :
    ∃ e ∈ es, ∃ m', e.valueFrom (winning sources user project part e.key) before = .error m' := by
  obtain ⟨e, he, m', hm'⟩ := Setting.exists_error_of_groupFrom (h.givesTable hpart)
    (tidy_layersOf.inner part) hgroup
  refine ⟨e, he, ?_⟩
  cases hwins : e.valueFrom (winning sources user project part e.key) before with
  | error m'' => exact ⟨m'', rfl⟩
  | ok v =>
      -- the value would fit what the layers say as well
      have hfits := (Setting.valueFrom_eq_ok_iff_of_rel (hrefuses e he)
        (h.rel_said hpart e.key)).mpr hwins
      have hclash := hfits.symm.trans hm'
      cases hclash

end Group

/-! ## The settings that are loaded -/

/-- Whether settings have the values that win, the key of the oracle that of its own variable if an
empty one wins, and both limits are at least one. -/
structure Follows (sources : Sources) (user project : List (String × Value)) (s : Settings) :
    Prop where
  oracle : ∀ e ∈ oracleGroup, e.key ≠ keySetting.key →
    e.valueFrom (winning sources user project "oracle" e.key) .initial = .ok (e.get s.oracle)
  reader : ∀ e ∈ readerGroup,
    e.valueFrom (winning sources user project "parser" e.key) .initial = .ok (e.get s.reader)
  apiKey : ∃ key : String,
    keySetting.valueFrom (winning sources user project "oracle" keySetting.key) .initial = .ok key ∧
      s.oracle.apiKey =
        if key = "" then (sources.environment.lookup keyVariable).getD "" else key
  valid : s.oracle.validate = .ok ()

/-- Whether a value that wins makes it impossible to load settings: it does not fit, or it is a
limit of zero. -/
inductive Spoils (sources : Sources) (user project : List (String × Value)) : Prop where
  | oracle (e : Setting OracleSettings) (he : e ∈ oracleGroup) (m : Misfit)
      (h : e.valueFrom (winning sources user project "oracle" e.key) .initial = .error m)
  | reader (e : Setting ReaderSettings) (he : e ∈ readerGroup) (m : Misfit)
      (h : e.valueFrom (winning sources user project "parser" e.key) .initial = .error m)
  | timeout
      (h : timeoutSetting.valueFrom (winning sources user project "oracle" timeoutSetting.key)
        .initial = .ok (0 : Nat))
  | concurrency
      (h : concurrencySetting.valueFrom
        (winning sources user project "oracle" concurrencySetting.key) .initial = .ok (0 : Nat))

theorem valueFrom_oracleSection (node : Option Node) :
    oracleSection.valueFrom node .initial =
      groupFrom "struct OracleConfig" oracleGroup node .initial := by
  cases node with
  | none => rfl
  | some n => rfl

theorem valueFrom_readerSection (node : Option Node) :
    readerSection.valueFrom node .initial =
      groupFrom "struct ParserConfig" readerGroup node .initial := by
  cases node with
  | none => rfl
  | some n => rfl

theorem Readable.oracle_of_ofLayers (h : Readable sources user project) {s : Settings}
    (hs : ofLayers (layersOf sources user project) = .ok s) :
    ∀ e ∈ oracleGroup,
      e.valueFrom (winning sources user project "oracle" e.key) .initial =
        .ok (e.get s.oracle) := by
  have hmem : oracleSection ∈ sections := List.mem_cons_self
  have hsection := Setting.valueFrom_of_readMembers pairwise_sections tidy_layersOf.sorted hs hmem
  rw [valueFrom_oracleSection] at hsection
  exact h.valueFrom_of_groupFrom List.mem_cons_self pairwise_oracleGroup refusesTables_oracleGroup
    hsection

theorem Readable.reader_of_ofLayers (h : Readable sources user project) {s : Settings}
    (hs : ofLayers (layersOf sources user project) = .ok s) :
    ∀ e ∈ readerGroup,
      e.valueFrom (winning sources user project "parser" e.key) .initial =
        .ok (e.get s.reader) := by
  have hmem : readerSection ∈ sections := List.mem_cons_of_mem _ List.mem_cons_self
  have hsection := Setting.valueFrom_of_readMembers pairwise_sections tidy_layersOf.sorted hs hmem
  rw [valueFrom_readerSection] at hsection
  exact h.valueFrom_of_groupFrom (List.mem_cons_of_mem _ List.mem_cons_self) pairwise_readerGroup
    refusesTables_readerGroup hsection

theorem Readable.spoils_of_ofLayers (h : Readable sources user project) {m : Misfit}
    (hm : ofLayers (layersOf sources user project) = .error m) : Spoils sources user project := by
  rw [ofLayers_eq] at hm
  obtain ⟨part, hpart, node, hnode, m', hm'⟩ :=
    Setting.exists_error_of_readMembers tidy_layersOf.sorted hm
  have herror : part.valueFrom (some node) .initial = .error m' := hm'
  rw [← hnode] at herror
  rcases List.mem_cons.mp hpart with rfl | hpart
  · rw [valueFrom_oracleSection] at herror
    obtain ⟨e, he, m'', hm''⟩ := h.exists_error_of_groupFrom List.mem_cons_self
      refusesTables_oracleGroup herror
    exact .oracle e he m'' hm''
  · obtain rfl := List.mem_singleton.mp hpart
    rw [valueFrom_readerSection] at herror
    obtain ⟨e, he, m'', hm''⟩ := h.exists_error_of_groupFrom
      (List.mem_cons_of_mem _ List.mem_cons_self) refusesTables_readerGroup herror
    exact .reader e he m'' hm''

/-! ## The key of the oracle -/

/-- Filling in the key puts what holds of it in its place and changes nothing else. -/
theorem withKey_eq (environment : List (String × String)) (s : Settings) :
    withKey environment s =
      { s with
        oracle := { s.oracle with
          apiKey :=
            if s.oracle.apiKey = "" then (environment.lookup keyVariable).getD ""
            else s.oracle.apiKey } } := by
  rw [withKey]
  by_cases hempty : s.oracle.apiKey = ""
  · have htrue : s.oracle.apiKey.isEmpty = true := String.isEmpty_iff.mpr hempty
    rw [if_pos htrue, if_pos hempty]
    cases environment.lookup keyVariable with
    | none =>
        rw [Option.getD_none, ← hempty]
    | some key => rfl
  · have hfalse : ¬s.oracle.apiKey.isEmpty = true := fun h => hempty (String.isEmpty_iff.mp h)
    rw [if_neg hfalse, if_neg hempty]

theorem validate_withKey (environment : List (String × String)) (s : Settings) :
    (withKey environment s).oracle.validate = s.oracle.validate := by
  rw [withKey_eq]
  rfl

theorem get_oracle_withKey (environment : List (String × String)) (s : Settings)
    {e : Setting OracleSettings} (he : e ∈ oracleGroup) (hkey : e.key ≠ keySetting.key) :
    e.get (withKey environment s).oracle = e.get s.oracle := by
  have hne : e ≠ keySetting := fun heq => hkey (congrArg Setting.key heq)
  rw [withKey_eq]
  exact (pairwise_oracleGroup.forall he keySetting_mem hne).2.1 _ s.oracle

/-! ## Loading -/

theorem Readable.follows_of_load (h : Readable sources user project) {s : Settings}
    (hs : load sources = .ok s) : Follows sources user project s := by
  rw [h.load_eq] at hs
  cases hlayers : ofLayers (layersOf sources user project) with
  | error m =>
      rw [hlayers] at hs
      cases hs
  | ok s₀ =>
      simp only [hlayers] at hs
      cases hvalid : (withKey sources.environment s₀).oracle.validate with
      | error e =>
          simp only [hvalid] at hs
          cases hs
      | ok done =>
          simp only [hvalid] at hs
          cases hs
          refine ⟨?_, ?_, ?_, hvalid⟩
          · intro e he hkey
            rw [get_oracle_withKey _ _ he hkey]
            exact h.oracle_of_ofLayers hlayers e he
          · have hreader := h.reader_of_ofLayers hlayers
            rw [withKey_eq]
            exact hreader
          · refine ⟨s₀.oracle.apiKey, h.oracle_of_ofLayers hlayers keySetting keySetting_mem, ?_⟩
            rw [withKey_eq]

theorem validate_eq_ok_iff {s : OracleSettings} :
    s.validate = .ok () ↔ s.timeoutSeconds ≠ 0 ∧ s.concurrency ≠ 0 := by
  rw [OracleSettings.validate]
  by_cases htimeout : s.timeoutSeconds = 0
  · simp [htimeout]
  · by_cases hconcurrency : s.concurrency = 0
    · simp [htimeout, hconcurrency]
    · simp [htimeout, hconcurrency]

theorem Readable.spoils_of_load (h : Readable sources user project) {fault : LoadFault}
    (hfault : load sources = .error fault) : Spoils sources user project := by
  rw [h.load_eq] at hfault
  cases hlayers : ofLayers (layersOf sources user project) with
  | error m => exact h.spoils_of_ofLayers hlayers
  | ok s =>
      have hvalues := h.oracle_of_ofLayers hlayers
      by_cases hzero : s.oracle.timeoutSeconds = 0
      · have htimeout := hvalues timeoutSetting (by simp [oracleGroup])
        exact .timeout (htimeout.trans (congrArg Except.ok hzero))
      · by_cases hzero' : s.oracle.concurrency = 0
        · have hconcurrency := hvalues concurrencySetting (by simp [oracleGroup])
          exact .concurrency (hconcurrency.trans (congrArg Except.ok hzero'))
        · have hvalid := validate_eq_ok_iff.mpr ⟨hzero, hzero'⟩
          simp only [hlayers, validate_withKey, hvalid] at hfault
          cases hfault

/-- Nothing spoils settings that follow what wins. -/
theorem Follows.not_spoils {s : Settings} (h : Follows sources user project s) :
    ¬Spoils sources user project := by
  obtain ⟨htimeout, hconcurrency⟩ := validate_eq_ok_iff.mp h.valid
  intro hspoils
  cases hspoils with
  | oracle e he m herror =>
      by_cases hkey : e.key = keySetting.key
      · obtain rfl : e = keySetting := by
          by_contra hne
          exact (pairwise_oracleGroup.forall he keySetting_mem hne).1 hkey
        obtain ⟨key, hok, -⟩ := h.apiKey
        have hclash := hok.symm.trans herror
        cases hclash
      · have hclash := (h.oracle e he hkey).symm.trans herror
        cases hclash
  | reader e he m herror =>
      have hclash := (h.reader e he).symm.trans herror
      cases hclash
  | timeout hzero =>
      have hvalue := h.oracle timeoutSetting (by simp [oracleGroup]) (by decide)
      exact htimeout (Except.ok.inj (hvalue.symm.trans hzero))
  | concurrency hzero =>
      have hvalue := h.oracle concurrencySetting (by simp [oracleGroup]) (by decide)
      exact hconcurrency (Except.ok.inj (hvalue.symm.trans hzero))

end Loading

/-- Settings are loaded from sources that give the two sections as tables or not at all as follows:
each has the value of the highest source that says something about it, and it is impossible exactly
if one of these values spoils it. -/
theorem load_by_precedence {sources : Sources} {user project : List (String × Value)}
    (h : Readable sources user project) :
    (∀ s, load sources = .ok s → Follows sources user project s) ∧
      ((∃ fault, load sources = .error fault) ↔ Spoils sources user project) ∧
      (∀ e ∈ oracleGroup, SaidByVariables sources.environment "oracle" e.key) ∧
      ∀ e ∈ readerGroup, SaidByVariables sources.environment "parser" e.key := by
  refine ⟨fun s hs => h.follows_of_load hs, ⟨?_, ?_⟩, ?_, ?_⟩
  · rintro ⟨fault, hfault⟩
    exact h.spoils_of_load hfault
  · intro hspoils
    cases hload : load sources with
    | error fault => exact ⟨fault, rfl⟩
    | ok s => exact absurd hspoils (h.follows_of_load hload).not_spoils
  · intro e he
    exact saidByVariables h.names (keysOf?_variableName_oracle _ (List.mem_map_of_mem he))
  · intro e he
    exact saidByVariables h.names (keysOf?_variableName_reader _ (List.mem_map_of_mem he))

/-- Sources that all say something about the model, and of which each says something else too. -/
def contested : Sources where
  user := ("user.toml", .text "[oracle]\nmodel = \"small\"\nendpoint = \"here\"\n")
  project := ("project.toml", .text "[oracle]\nmodel = \"medium\"\napi_key = \"\"\n")
  environment := [("DASHSCOPE_API_KEY", "secret"), ("Fmap_Oracle__Model", "large")]

/-- What the file of the user holds there. -/
def contestedByUser : List (String × Value) :=
  [("oracle", .table [("model", .text "small"), ("endpoint", .text "here")])]

/-- What the file of the project holds there. -/
def contestedByProject : List (String × Value) :=
  [("oracle", .table [("model", .text "medium"), ("api_key", .text "")])]

/-- The texts of a document that has two of them in one table under a header. -/
def pairOfTexts? : Option Toml.Members → Option (String × (String × String) × String × String)
  | some [(part, .table .headed [(k, .text a), (j, .text b)])] => some (part, (k, a), j, b)
  | _ => none

theorem eq_of_pairOfTexts? {found : Option Toml.Members} {part k a j b : String}
    (h : pairOfTexts? found = some (part, (k, a), j, b)) :
    found = some [(part, .table .headed [(k, .text a), (j, .text b)])] := by
  unfold pairOfTexts? at h
  split at h
  · cases h
    rfl
  · cases h

theorem readable_contested : Readable contested contestedByUser contestedByProject where
  holdsUser := ⟨_, eq_of_pairOfTexts? (by decide +kernel), rfl⟩
  holdsProject := ⟨_, eq_of_pairOfTexts? (by decide +kernel), rfl⟩
  tables := by decide +kernel
  names := by decide

theorem load_by_precedence_contested :
    Readable contested contestedByUser contestedByProject ∧
      ∃ s, load contested = .ok s ∧ Follows contested contestedByUser contestedByProject s ∧
        s.oracle.model = "large" ∧ s.oracle.endpoint = "here" ∧ s.oracle.apiKey = "secret" ∧
          s.oracle.concurrency = 4 := by
  have hload : load contested = .ok
      ⟨{ OracleSettings.initial with
          endpoint := "here", apiKey := "secret", model := "large" },
        .initial⟩ := by
    decide +kernel
  have hfollows := (load_by_precedence readable_contested).1 _ hload
  exact ⟨readable_contested, _, hload, hfollows, rfl, rfl, rfl, rfl⟩

end Settings
end FormulaMap
