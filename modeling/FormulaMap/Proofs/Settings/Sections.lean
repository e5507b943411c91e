import FormulaMap.Proofs.Settings.Groups

/-!
# The settings of the two sections

There are seven settings of the oracle and two of the reader of source texts.  In each section they
have keys of their own, do not touch each other, and are refused if a table stands in their place.
-/

namespace FormulaMap
namespace Settings

open FormulaMap.Settings.Setting (field Apart RefusesTables)

def endpointSetting : Setting OracleSettings :=
  ⟨"endpoint", nodeText, fun v s => { s with endpoint := v }, (·.endpoint), fun _ _ => rfl⟩

def keySetting : Setting OracleSettings :=
  ⟨"api_key", nodeText, fun v s => { s with apiKey := v }, (·.apiKey), fun _ _ => rfl⟩

def modelSetting : Setting OracleSettings :=
  ⟨"model", nodeText, fun v s => { s with model := v }, (·.model), fun _ _ => rfl⟩

def temperatureSetting : Setting OracleSettings :=
  ⟨"temperature", nodeSingle, fun v s => { s with temperature := v }, (·.temperature),
    fun _ _ => rfl⟩

def timeoutSetting : Setting OracleSettings :=
  ⟨"timeout_secs", nodeNatural "u64", fun v s => { s with timeoutSeconds := v },
    (·.timeoutSeconds), fun _ _ => rfl⟩

def concurrencySetting : Setting OracleSettings :=
  ⟨"max_concurrency", nodeNatural "usize", fun v s => { s with concurrency := v },
    (·.concurrency), fun _ _ => rfl⟩

def contractSetting : Setting OracleSettings :=
  ⟨"on_unknown_symbol",
    nodeVariant "enum ContractPolicy" ContractPolicy.ofName?
      [ContractPolicy.strip.name, ContractPolicy.reject.name],
    fun v s => { s with contract := v }, (·.contract), fun _ _ => rfl⟩

def policySetting : Setting ReaderSettings :=
  ⟨"variable_policy",
    nodeVariant "enum VariablePolicy" VariablePolicy.ofName?
      [VariablePolicy.numericTyped.name, VariablePolicy.allDeclared.name],
    fun v s => { s with policy := v }, (·.policy), fun _ _ => rfl⟩

def countersSetting : Setting ReaderSettings :=
  ⟨"include_loop_counters", nodeFlag, fun v s => { s with counters := v }, (·.counters),
    fun _ _ => rfl⟩

/-- The settings of the oracle. -/
def oracleGroup : List (Setting OracleSettings) :=
  [endpointSetting, keySetting, modelSetting, temperatureSetting, timeoutSetting,
    concurrencySetting, contractSetting]

theorem keySetting_mem : keySetting ∈ oracleGroup :=
  List.mem_cons_of_mem _ List.mem_cons_self

/-- The settings of the reader of source texts. -/
def readerGroup : List (Setting ReaderSettings) :=
  [policySetting, countersSetting]

def oracleSection : Setting Settings :=
  ⟨"oracle", nodeOracleSettings, fun v s => { s with oracle := v }, (·.oracle), fun _ _ => rfl⟩

def readerSection : Setting Settings :=
  ⟨"parser", nodeReaderSettings, fun v s => { s with reader := v }, (·.reader), fun _ _ => rfl⟩

/-- The two sections, as settings of the whole. -/
def sections : List (Setting Settings) :=
  [oracleSection, readerSection]

theorem ofLayers_eq (members : List (String × Node)) :
    ofLayers members = readMembers (sections.map field) members .initial :=
  rfl

theorem pairwise_oracleGroup : oracleGroup.Pairwise Apart := by
  simp [oracleGroup, Apart, endpointSetting, keySetting, modelSetting, temperatureSetting,
    timeoutSetting, concurrencySetting, contractSetting]

theorem pairwise_readerGroup : readerGroup.Pairwise Apart := by
  simp [readerGroup, Apart, policySetting, countersSetting]

theorem pairwise_sections : sections.Pairwise Apart := by
  simp [sections, Apart, oracleSection, readerSection]

theorem nodeVariant_table (typeName : String) (named? : String → Option α) (names : List String)
    (origin : Origin) (members : List (String × Node)) :
    ∃ m, nodeVariant typeName named? names (.table origin members) = .error m := by
  cases members with
  | nil => exact ⟨_, rfl⟩
  | cons first rest =>
      obtain ⟨key, n⟩ := first
      rw [nodeVariant]
      cases named? key with
      | none => exact ⟨_, rfl⟩
      | some v => exact ⟨_, rfl⟩

theorem refusesTables_oracleGroup : ∀ e ∈ oracleGroup, RefusesTables e := by
  intro e he origin members
  simp only [oracleGroup, List.mem_cons, List.not_mem_nil, or_false] at he
  rcases he with rfl | rfl | rfl | rfl | rfl | rfl | rfl
  · exact ⟨_, rfl⟩
  · exact ⟨_, rfl⟩
  · exact ⟨_, rfl⟩
  · exact ⟨_, rfl⟩
  · exact ⟨_, rfl⟩
  · exact ⟨_, rfl⟩
  · exact nodeVariant_table _ _ _ origin members

theorem refusesTables_readerGroup : ∀ e ∈ readerGroup, RefusesTables e := by
  intro e he origin members
  simp only [readerGroup, List.mem_cons, List.not_mem_nil, or_false] at he
  rcases he with rfl | rfl
  · exact nodeVariant_table _ _ _ origin members
  · exact ⟨_, rfl⟩

end Settings
end FormulaMap
