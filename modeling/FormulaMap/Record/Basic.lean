import FormulaMap.Json.Typed
import FormulaMap.Record.NameSet

/-!
# Method records

What is known about one method declaration and goes into a request: its name, its formula text,
its candidate variables and calls, and its source text.
-/

namespace FormulaMap

/-- A summary of one method declaration. -/
structure MethodRecord where
  /-- The name as declared. -/
  name : String
  /-- The text of the doc comment, or a placeholder. -/
  documentation : String
  /-- The candidate variables. -/
  candidates : NameSet
  /-- The calls in the body, without their arguments. -/
  calls : NameSet
  /-- The source text of the declaration, or a placeholder. -/
  code : String
  /-- The line on which the declaration starts, counted from one. -/
  startLine : Nat
  deriving DecidableEq, Repr

namespace MethodRecord

/-- Stands for the documentation of a method without a doc comment. -/
def noComment : String := "No comment"

/-- Stands for the source text of a method when it cannot be recovered. -/
def extractionFailed : String := "// Extraction failed"

/-- A record as an object. -/
def toJson (r : MethodRecord) : Json.Value :=
  .object [
    ("name", .string r.name),
    ("documentation", .string r.documentation),
    ("variables", Json.Value.ofStrings r.candidates.toList),
    ("calls", Json.Value.ofStrings r.calls.toList),
    ("code", .string r.code),
    ("start_line", .ofNat r.startLine)]

/-- Reads a set of names from a list of strings. -/
def readNames : Json.Reader NameSet := fun depth cs => do
  let (xs, rest) ← Json.readList Json.readText depth cs
  .ok (NameSet.ofList xs, rest)

/-- The shape of a record in a document: six fields, all required. -/
def shape : Json.Shape MethodRecord where
  name := "struct MethodRecord"
  fields := [
    .of "name" true Json.readText fun v r => { r with name := v },
    .of "documentation" true Json.readText fun v r => { r with documentation := v },
    .of "variables" true readNames fun v r => { r with candidates := v },
    .of "calls" true readNames fun v r => { r with calls := v },
    .of "code" true Json.readText fun v r => { r with code := v },
    .of "start_line" true (Json.readNatural "usize") fun v r => { r with startLine := v }]
  initial := ⟨"", "", NameSet.empty, NameSet.empty, "", 0⟩

/-- The record that a document holds. -/
def ofJson (text : String) : Except Json.Fault MethodRecord :=
  Json.documentOf shape.read text.toList

end MethodRecord
end FormulaMap
