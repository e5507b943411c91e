import FormulaMap.Policy

/-!
# Settings

What a run is told about the oracle it asks and about which names count as candidate variables.
Settings have a default for every field; a run that asks the oracle needs three of them to be
filled in, and two limits to be at least one.
-/

namespace FormulaMap

/-- The settings of the oracle. -/
structure OracleSettings where
  /-- The address below which completions are found. -/
  endpoint : String
  /-- The secret that a request shows. -/
  apiKey : String
  model : String
  temperature : Binary.Value
  /-- How many seconds a request may take. -/
  timeoutSeconds : Nat
  /-- How many requests may be under way at once. -/
  concurrency : Nat
  contract : ContractPolicy
  deriving DecidableEq, Repr

/-- The settings of the reader of source texts. -/
structure ReaderSettings where
  policy : VariablePolicy
  /-- Whether the variables of loops count. -/
  counters : Bool
  deriving DecidableEq, Repr

/-- All settings. -/
structure Settings where
  oracle : OracleSettings
  reader : ReaderSettings
  deriving DecidableEq, Repr

/-- What is wrong with the settings of an oracle. -/
inductive SettingsFault where
  /-- A field that has to be filled in is empty; the names are those of variables that fill it. -/
  | unset (field names : String)
  /-- A limit is below the least that makes sense. -/
  | belowMinimum (field : String) (least found : Nat)
  deriving DecidableEq, Repr

/-- The wording of what is wrong. -/
def SettingsFault.message : SettingsFault → String
  | unset field names =>
    "oracle." ++ field ++ " is not set; provide " ++ names ++ " or `" ++ field ++
      "` under [oracle] in .fmap/config.toml"
  | belowMinimum field least found =>
    field ++ " = " ++ Decimal.text found ++ " is below the minimum of " ++ Decimal.text least

namespace OracleSettings

/-- The path of completions below an endpoint. -/
def completionsPath : List Char := "/chat/completions".toList

/-- The address of completions for an endpoint: its trailing slashes are dropped, and the path is
appended unless the endpoint ends in it already. -/
def completionsAddress (endpoint : List Char) : List Char :=
  let base := Text.trimEndOf '/' endpoint
  if completionsPath.isSuffixOf base then base else base ++ completionsPath

/-- The settings when nothing is said about them. -/
def initial : OracleSettings where
  endpoint := "https://dashscope.aliyuncs.com/compatible-mode/v1"
  apiKey := ""
  model := "qwen-max"
  temperature := .zero Binary.single false
  timeoutSeconds := 60
  concurrency := 4
  contract := .strip

/-- Whether all that a request needs is filled in. -/
def isConfigured (s : OracleSettings) : Bool :=
  !s.endpoint.isEmpty && !s.model.isEmpty && !s.apiKey.isEmpty

/-- The address to which requests go. -/
def completionsUrl (s : OracleSettings) : String :=
  String.ofList (completionsAddress s.endpoint.toList)

/-- Checks the two limits. -/
def validate (s : OracleSettings) : Except SettingsFault Unit :=
  if s.timeoutSeconds = 0 then .error (.belowMinimum "oracle.timeout_secs" 1 0)
  else if s.concurrency = 0 then .error (.belowMinimum "oracle.max_concurrency" 1 0)
  else .ok ()

/-- Checks the two limits and that all that a request needs is filled in. -/
def requireConfigured (s : OracleSettings) : Except SettingsFault Unit :=
  match s.validate with
  | .error e => .error e
  | .ok () =>
    if s.apiKey.isEmpty then
      .error (.unset "api_key" "FMAP_ORACLE__API_KEY or DASHSCOPE_API_KEY")
    else if s.endpoint.isEmpty then .error (.unset "endpoint" "FMAP_ORACLE__ENDPOINT")
    else if s.model.isEmpty then .error (.unset "model" "FMAP_ORACLE__MODEL")
    else .ok ()

/-- The settings as an object. -/
def toJson (s : OracleSettings) : Json.Value :=
  .object [
    ("endpoint", .string s.endpoint),
    ("api_key", .string s.apiKey),
    ("model", .string s.model),
    ("temperature", .ofSingle s.temperature),
    ("timeout_secs", .ofNat s.timeoutSeconds),
    ("max_concurrency", .ofNat s.concurrency),
    ("on_unknown_symbol", .string s.contract.name)]

/-- The shape of the settings in a document; every field may be missing. -/
def shape : Json.Shape OracleSettings where
  name := "struct OracleConfig"
  fields := [
    .of "endpoint" false Json.readText fun v s => { s with endpoint := v },
    .of "api_key" false Json.readText fun v s => { s with apiKey := v },
    .of "model" false Json.readText fun v s => { s with model := v },
    .of "temperature" false Json.readSingle fun v s => { s with temperature := v },
    .of "timeout_secs" false (Json.readNatural "u64") fun v s => { s with timeoutSeconds := v },
    .of "max_concurrency" false (Json.readNatural "usize") fun v s => { s with concurrency := v },
    .of "on_unknown_symbol" false ContractPolicy.reader fun v s => { s with contract := v }]
  initial := initial

end OracleSettings

namespace ReaderSettings

/-- The settings when nothing is said about them. -/
def initial : ReaderSettings := ⟨.numericTyped, false⟩

/-- The settings as an object. -/
def toJson (s : ReaderSettings) : Json.Value :=
  .object [
    ("variable_policy", .string s.policy.name),
    ("include_loop_counters", .bool s.counters)]

/-- The shape of the settings in a document; every field may be missing. -/
def shape : Json.Shape ReaderSettings where
  name := "struct ParserConfig"
  fields := [
    .of "variable_policy" false VariablePolicy.reader fun v s => { s with policy := v },
    .of "include_loop_counters" false Json.readBool fun v s => { s with counters := v }]
  initial := initial

end ReaderSettings

namespace Settings

/-- The settings when nothing is said about them. -/
def initial : Settings := ⟨.initial, .initial⟩

/-- The settings as an object. -/
def toJson (s : Settings) : Json.Value :=
  .object [("oracle", s.oracle.toJson), ("parser", s.reader.toJson)]

/-- The shape of the settings in a document; both parts may be missing. -/
def shape : Json.Shape Settings where
  name := "struct FmapConfig"
  fields := [
    .of "oracle" false OracleSettings.shape.read fun v s => { s with oracle := v },
    .of "parser" false ReaderSettings.shape.read fun v s => { s with reader := v }]
  initial := initial

/-- The settings that a document holds. -/
def ofJson (text : String) : Except Json.Fault Settings :=
  Json.documentOf shape.read text.toList

end Settings
end FormulaMap
