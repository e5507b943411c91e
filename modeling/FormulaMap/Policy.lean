import FormulaMap.Json.Typed
import FormulaMap.Text.Blank

/-!
# Policies

Two switches decide what a run accepts.  A *variable policy* says which declared names become
candidate variables of a method; a *contract policy* says what happens to symbols of a reply
that the formula does not contain.
-/

namespace FormulaMap

/-- Which declared names become candidate variables. -/
inductive VariablePolicy where
  /-- Only names whose declared type is a scalar numeric type. -/
  | numericTyped
  /-- Every declared name. -/
  | allDeclared
  deriving DecidableEq, Repr

/-- What happens to symbols of a reply that the formula does not contain. -/
inductive ContractPolicy where
  /-- They are set aside and the rest of the reply is kept. -/
  | strip
  /-- They make the whole reply fail. -/
  | reject
  deriving DecidableEq, Repr

/-- A text that names no policy of its kind. -/
structure UnknownPolicy where
  /-- Which switch the text was meant for. -/
  kind : String
  /-- The text, trimmed and in lower case. -/
  text : String
  deriving DecidableEq, Repr

namespace UnknownPolicy

/-- The wording of the refusal. -/
def message (e : UnknownPolicy) : String :=
  "unknown " ++ e.kind ++ " policy: " ++ e.text

end UnknownPolicy

namespace VariablePolicy

/-- The name of a policy in settings and in output. -/
def name : VariablePolicy → String
  | numericTyped => "numeric_typed"
  | allDeclared => "all_declared"

/-- Whether a declaration counts, given whether its type is a scalar numeric type. -/
def admits : VariablePolicy → Bool → Bool
  | numericTyped, numeric => numeric
  | allDeclared, _ => true

/-- The policy with the given name, as settings spell it. -/
def ofName? (text : String) : Option VariablePolicy :=
  if text = numericTyped.name then some numericTyped
  else if text = allDeclared.name then some allDeclared
  else none

/-- Reads the name of a policy from a document. -/
def reader : Json.Reader VariablePolicy :=
  Json.readVariant ofName? [numericTyped.name, allDeclared.name]

/-- Reads a policy from the command line: surrounding blanks and case do not matter, a hyphen
may stand for a low line, and the first word alone is enough. -/
def read (text : String) : Except UnknownPolicy VariablePolicy :=
  let plain := (Text.trim text.toList).map Text.asciiLower
  let key := String.ofList (plain.map fun c => if c == '-' then '_' else c)
  if key = "numeric_typed" ∨ key = "numeric" then .ok numericTyped
  else if key = "all_declared" ∨ key = "all" then .ok allDeclared
  else .error ⟨"variable", key⟩

@[simp]
theorem admits_allDeclared (b : Bool) : allDeclared.admits b = true := rfl

@[simp]
theorem admits_numericTyped (b : Bool) : numericTyped.admits b = b := rfl

/-- A policy is found under its own name. -/
theorem ofName?_name (p : VariablePolicy) : ofName? p.name = some p := by
  cases p <;> decide

end VariablePolicy

namespace ContractPolicy

/-- The name of a policy in settings and in output. -/
def name : ContractPolicy → String
  | strip => "strip"
  | reject => "reject"

/-- The policy with the given name, as settings spell it. -/
def ofName? (text : String) : Option ContractPolicy :=
  if text = strip.name then some strip
  else if text = reject.name then some reject
  else none

/-- Reads the name of a policy from a document. -/
def reader : Json.Reader ContractPolicy :=
  Json.readVariant ofName? [strip.name, reject.name]

/-- Reads a policy from the command line: surrounding blanks and case do not matter. -/
def read (text : String) : Except UnknownPolicy ContractPolicy :=
  let key := String.ofList ((Text.trim text.toList).map Text.asciiLower)
  if key = "strip" then .ok strip
  else if key = "reject" then .ok reject
  else .error ⟨"contract", key⟩

/-- A policy is found under its own name. -/
theorem ofName?_name (p : ContractPolicy) : ofName? p.name = some p := by
  cases p <;> decide

end ContractPolicy
end FormulaMap
