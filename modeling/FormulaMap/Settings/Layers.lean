import FormulaMap.Settings.Basic
import FormulaMap.Settings.Value

/-!
# Layers of settings

Raw settings come in layers.  Two tables of different layers are merged member by member;
otherwise what the later layer says replaces what the earlier one said.  Every node remembers the
layer it comes from, so that a message about a value which does not fit can name it.
-/

namespace FormulaMap
namespace Settings

/-- Where a layer comes from. -/
inductive Origin where
  | file (path : String)
  | environment
  deriving DecidableEq, Repr

/-- A raw setting within the merged layers. -/
inductive Node where
  /-- Anything but a table. -/
  | plain (origin : Origin) (value : Value)
  /-- A table, with its keys in increasing order. -/
  | table (origin : Origin) (members : List (String × Node))
  deriving Repr

namespace Node

/-- Puts a node under a key, in place of what was there. -/
def put (key : String) (node : Node) : List (String × Node) → List (String × Node)
  | [] => [(key, node)]
  | (k, n) :: rest =>
    if key < k then (key, node) :: (k, n) :: rest
    else if key = k then (key, node) :: rest
    else (k, n) :: put key node rest

mutual
/-- A raw setting as part of a layer. -/
def ofValue (origin : Origin) : Value → Node
  | .table members => .table origin (ofMembers origin members)
  | value => .plain origin value

/-- The members of a table as part of a layer; of two with one key the later one counts. -/
def ofMembers (origin : Origin) : List (String × Value) → List (String × Node)
  | [] => []
  | (key, value) :: rest =>
    let others := ofMembers origin rest
    if (others.lookup key).isSome then others else put key (ofValue origin value) others
end

mutual
/-- What holds when a later layer is laid over an earlier one. -/
def merge (earlier : Node) : Node → Node
  | .plain origin value => .plain origin value
  | .table origin later =>
    match earlier with
    | .plain _ _ => .table origin later
    | .table _ members => .table origin (mergeMembers members later)

/-- Lays the members of a later table over those of an earlier one. -/
def mergeMembers (earlier : List (String × Node)) : List (String × Node) → List (String × Node)
  | [] => earlier
  | (key, node) :: rest =>
    let merged := match earlier.lookup key with
      | some before => merge before node
      | none => node
    mergeMembers (put key merged earlier) rest
end

/-- Where a node comes from. -/
def origin : Node → Origin
  | plain o _ => o
  | table o _ => o

/-- What messages call a node. -/
def found : Node → String
  | plain _ v => v.found
  | table _ _ => "map"

end Node

/-- Why a raw setting does not fit. -/
inductive Reason where
  | wrongType (found expected : String)
  | wrongValue (found expected : String)
  | unknownVariant (found : String) (names : List String)
  deriving DecidableEq, Repr

/-- The wording of a reason. -/
def Reason.message : Reason → String
  | wrongType found expected => "invalid type: found " ++ found ++ ", expected " ++ expected
  | wrongValue found expected => "invalid value " ++ found ++ ", expected " ++ expected
  | unknownVariant found names =>
    "unknown variant: found `" ++ found ++ "`, expected `" ++
      " or ".intercalate (names.map fun name => "`" ++ name ++ "`") ++ "`"

/-- A raw setting that does not fit: why, below which keys it stands, and where it comes from. -/
structure Misfit where
  reason : Reason
  path : List String
  origin : Origin
  deriving DecidableEq, Repr

namespace Misfit

/-- How a path of keys is written. -/
def pathText (origin : Origin) (path : List String) : String :=
  match origin with
  | .file _ => ".".intercalate ("default" :: path)
  | .environment =>
    ".".intercalate (path.map fun key => String.ofList (key.toList.map Text.asciiUpper))

/-- How an origin is named. -/
def originText : Origin → String
  | .file path => path ++ " TOML file"
  | .environment => "`FMAP_` environment variable(s)"

/-- The wording of a misfit. -/
def message (m : Misfit) : String :=
  m.reason.message ++
    (if m.path.isEmpty then "" else " for key " ++ Text.shown (pathText m.origin m.path)) ++
    " in " ++ originText m.origin

/-- The same misfit seen from one table further out. -/
def below (key : String) (m : Misfit) : Misfit :=
  { m with path := key :: m.path }

end Misfit

/-- Reads a node as a value of one type. -/
abbrev NodeReader (α : Type) := Node → Except Misfit α

/-- A node that is not of the expected type. -/
def wrongType (expected : String) (n : Node) : Misfit :=
  ⟨.wrongType n.found expected, [], n.origin⟩

/-- Reads a text. -/
def nodeText : NodeReader String
  | .plain _ (.text s) => .ok s
  | .plain _ (.character c) => .ok (String.ofList [c])
  | n => .error (wrongType "a string" n)

/-- Reads a truth value. -/
def nodeFlag : NodeReader Bool
  | .plain _ (.flag b) => .ok b
  | n => .error (wrongType "a boolean" n)

/-- Reads an integer without sign; the name is the one messages use for the type. -/
def nodeNatural (typeName : String) : NodeReader Nat
  | .plain _ (.natural n) => .ok n
  | .plain o (.integer n) =>
    if 0 ≤ n then .ok n.toNat
    else .error ⟨.wrongValue (Value.integer n).found typeName, [], o⟩
  | n => .error (wrongType typeName n)

/-- Reads a floating-point value of 32 bits. -/
def nodeSingle : NodeReader Binary.Value
  | .plain _ (.natural n) => .ok (.ofNat Binary.single n)
  | .plain _ (.integer n) =>
    let size := Binary.Value.ofNat Binary.single n.natAbs
    .ok (if n < 0 then size.neg else size)
  | .plain _ (.real v) => .ok (v.convert Binary.single)
  | n => .error (wrongType "f32" n)

/-- Reads the name of one of several variants.  A table stands for the variant its first key
names, but no value under that key is ever the right one. -/
def nodeVariant (typeName : String) (named? : String → Option α) (names : List String) :
    NodeReader α
  | .plain o (.text s) =>
    match named? s with
    | some v => .ok v
    | none => .error ⟨.unknownVariant s names, [], o⟩
  | .table o [] => .error ⟨.wrongType "map" "enum", [], o⟩
  | .table o ((key, n) :: _) =>
    match named? key with
    | some _ => .error ((wrongType "unit" n).below key)
    | none => .error ⟨.unknownVariant key names, [key], o⟩
  | n => .error (wrongType typeName n)

/-- A field of a group of settings: its key, and a reader that says how its value changes the
group. -/
structure NodeField (σ : Type) where
  key : String
  read : NodeReader (σ → σ)

/-- A field whose value is put into the group. -/
def NodeField.of (key : String) (reader : NodeReader α) (set : α → σ → σ) : NodeField σ :=
  ⟨key, fun n => (reader n).map set⟩

/-- Reads the members of a table into a group; members without a field are passed over. -/
def readMembers (fields : List (NodeField σ)) :
    List (String × Node) → σ → Except Misfit σ
  | [], s => .ok s
  | (key, n) :: rest, s =>
    match fields.find? fun f => f.key == key with
    | none => readMembers fields rest s
    | some field =>
      match field.read n with
      | .ok change => readMembers fields rest (change s)
      | .error m => .error (m.below key)

/-- Reads the elements of a sequence into the fields of a group in order. -/
def readElements (origin : Origin) :
    List (NodeField σ) → List Value → Nat → σ → Except Misfit σ
  | field :: fields, value :: values, place, s =>
    match field.read (Node.ofValue origin value) with
    | .ok change => readElements origin fields values (place + 1) (change s)
    | .error m => .error (m.below (Decimal.text place))
  | _, _, _, s => .ok s

/-- Reads a group of settings, a table or a sequence, starting from what holds when nothing is
said. -/
def nodeGroup (typeName : String) (fields : List (NodeField σ)) (initial : σ) : NodeReader σ
  | .table _ members => readMembers fields members initial
  | .plain o (.sequence values) => readElements o fields values 0 initial
  | n => .error (wrongType typeName n)

/-- Reads the settings of the oracle. -/
def nodeOracleSettings : NodeReader OracleSettings :=
  nodeGroup "struct OracleConfig" [
    .of "endpoint" nodeText fun v s => { s with endpoint := v },
    .of "api_key" nodeText fun v s => { s with apiKey := v },
    .of "model" nodeText fun v s => { s with model := v },
    .of "temperature" nodeSingle fun v s => { s with temperature := v },
    .of "timeout_secs" (nodeNatural "u64") fun v s => { s with timeoutSeconds := v },
    .of "max_concurrency" (nodeNatural "usize") fun v s => { s with concurrency := v },
    .of "on_unknown_symbol"
      (nodeVariant "enum ContractPolicy" ContractPolicy.ofName?
        [ContractPolicy.strip.name, ContractPolicy.reject.name])
      fun v s => { s with contract := v }] .initial

/-- Reads the settings of the reader of source texts. -/
def nodeReaderSettings : NodeReader ReaderSettings :=
  nodeGroup "struct ParserConfig" [
    .of "variable_policy"
      (nodeVariant "enum VariablePolicy" VariablePolicy.ofName?
        [VariablePolicy.numericTyped.name, VariablePolicy.allDeclared.name])
      fun v s => { s with policy := v },
    .of "include_loop_counters" nodeFlag fun v s => { s with counters := v }] .initial

/-- The settings that merged layers give. -/
def ofLayers (members : List (String × Node)) : Except Misfit Settings :=
  readMembers [
    .of "oracle" nodeOracleSettings fun v s => { s with oracle := v },
    .of "parser" nodeReaderSettings fun v s => { s with reader := v }] members .initial

end Settings
end FormulaMap
