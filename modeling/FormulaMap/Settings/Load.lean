import FormulaMap.Settings.Layers
import FormulaMap.Settings.Variable
import FormulaMap.Settings.VariableFile
import FormulaMap.Toml.Document

/-!
# Loading settings

Settings come from the file of the user, the file of the project and the variables of the
environment, each laid over the one before.  A key that none of them gives may come from a
variable of its own.
-/

namespace FormulaMap
namespace Settings

mutual
/-- A value of a settings file as a raw setting.  A moment stands as a table with one member, under
a key that no setting has. -/
def Value.ofItem : Toml.Item → Value
  | .text s => .text s
  | .scalar (.integer n) => .integer n
  | .scalar (.real v) => .real v
  | .scalar (.truth b) => .flag b
  | .scalar (.moment s) => .table [("$__toml_private_datetime", .text s)]
  | .array elements => .sequence (ofElements elements)
  | .closed members => .table (ofMembers members)
  | .table _ members => .table (ofMembers members)
  | .tables elements => .sequence (ofTables elements)

/-- The elements of an array as raw settings. -/
def Value.ofElements : List Toml.Item → List Value
  | [] => []
  | item :: items => Value.ofItem item :: Value.ofElements items

/-- The members of a table as raw settings. -/
def Value.ofMembers : List (String × Toml.Item) → List (String × Value)
  | [] => []
  | (key, item) :: rest => (key, Value.ofItem item) :: Value.ofMembers rest

/-- Tables as raw settings. -/
def Value.ofTables : List (List (String × Toml.Item)) → List Value
  | [] => []
  | members :: rest => .table (Value.ofMembers members) :: Value.ofTables rest
end

/-- What is found where a settings file may be. -/
inductive Found where
  | nothing
  | text (content : String)
  /-- A file that cannot be read as a text. -/
  | locked (cause : String)
  deriving DecidableEq, Repr

/-- Where settings come from. -/
structure Sources where
  /-- The path of the file of the user, as messages name it, and what is found there. -/
  user : String × Found
  /-- The path of the file of the project, and what is found there. -/
  project : String × Found
  /-- The variables of the environment. -/
  environment : List (String × String)

/-- Why settings cannot be loaded. -/
inductive LoadFault where
  /-- A settings file is no text that can be read. -/
  | locked (path cause : String)
  /-- A settings file is faulty. -/
  | unreadable
  /-- A raw setting does not fit. -/
  | misfit (m : Misfit)
  /-- The settings make no sense together. -/
  | settings (e : SettingsFault)
  deriving DecidableEq, Repr

/-- The wording of the cause of a fault, where it has one of its own. -/
def LoadFault.cause? : LoadFault → Option String
  | locked path cause => some (cause ++ "\n in " ++ path ++ " TOML file")
  | unreadable => some "TOML parse error"
  | misfit m => some m.message
  | settings _ => none

/-- The wording of a fault. -/
def LoadFault.message : LoadFault → String
  | settings e => e.message
  | fault => "could not load fmap config: " ++ fault.cause?.getD ""

/-- The variable that gives the key of the oracle when nothing else does. -/
def keyVariable : String := "DASHSCOPE_API_KEY"

/-- The members that a settings file gives. -/
def fileLayer (file : String × Found) : Except LoadFault (List (String × Node)) :=
  match file.2 with
  | .nothing => .ok []
  | .locked cause => .error (.locked file.1 cause)
  | .text content =>
    match Toml.document? content with
    | none => .error .unreadable
    | some members => .ok (Node.ofMembers (.file file.1) (Value.ofMembers members))

/-- The members that the variables give, each laid over those of the variables before it. -/
def variableLayer (environment : List (String × String)) : List (String × Node) :=
  environment.foldl
    (fun members (name, text) =>
      match keysOf? name with
      | none => members
      | some keys =>
        match (Value.ofVariable text).beneath keys with
        | .table added => Node.mergeMembers members (Node.ofMembers .environment added)
        | _ => members)
    []

/-- Fills in the key of the oracle from its own variable if it is empty. -/
def withKey (environment : List (String × String)) (s : Settings) : Settings :=
  if s.oracle.apiKey.isEmpty then
    match environment.lookup keyVariable with
    | some key => { s with oracle := { s.oracle with apiKey := key } }
    | none => s
  else s

/-- The settings that all sources together give. -/
def load (sources : Sources) : Except LoadFault Settings := do
  let user ← fileLayer sources.user
  let project ← fileLayer sources.project
  let layers := Node.mergeMembers (Node.mergeMembers user project)
    (variableLayer sources.environment)
  match ofLayers layers with
  | .error m => .error (.misfit m)
  | .ok s =>
    let s := withKey sources.environment s
    match s.oracle.validate with
    | .error e => .error (.settings e)
    | .ok () => .ok s

end Settings
end FormulaMap
