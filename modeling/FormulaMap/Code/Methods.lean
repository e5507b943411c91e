import FormulaMap.Code.Calls
import FormulaMap.Code.DocComment
import FormulaMap.Code.Fault
import FormulaMap.Code.Span
import FormulaMap.Record.Basic

/-!
# The methods of a source text

Every method declaration of a source text becomes a record, in the order of the text, one that
contains others before them.  A text with a syntax fault gives no records, and one without
methods gives none either; the two are told apart.
-/

namespace FormulaMap
namespace Code

/-- A method declaration with the number of the rows before it and the nodes before it, the
nearest first. -/
structure Method where
  node : Node
  rowsBefore : Nat
  earlier : List Node

namespace Forest

/-- The method declarations of a forest, given the number of the rows before it and the nodes
before it. -/
def methods (rows : Nat) (earlier : List Node) : Forest → List Method
  | .text _ => []
  | .node before _ kind inner after =>
    let here := rows + before.count '\n'
    let n : Node := ⟨kind, inner⟩
    let inside := inner.methods here []
    let behind := after.methods (here + inner.spelling.count '\n') (n :: earlier)
    if kind = .phrase .methodDeclaration then ⟨n, here, earlier⟩ :: (inside ++ behind)
    else inside ++ behind

end Forest

namespace Method

/-- The name of a method. -/
def name (m : Method) : String := ((m.node.part? .name).map Node.text).getD ""

/-- The line on which a method starts, counted from one. -/
def startLine (m : Method) : Nat := m.rowsBefore + 1

/-- The documentation of a method, or the words for none. -/
def documentation (m : Method) : String :=
  let doc := Code.documentation m.earlier
  if doc.isEmpty then MethodRecord.noComment else String.ofList doc

/-- The source text of a method, given the lines of the whole text, or the words for none. -/
def code (lines : List (List Char)) (m : Method) : String :=
  let code := bodyAmong lines m.startLine
  if (Text.trim code.toList).isEmpty then MethodRecord.extractionFailed else code

/-- The record of a method, given the lines of the whole text. -/
def record (lines : List (List Char)) (s : Selection) (m : Method) : MethodRecord where
  name := m.name
  documentation := m.documentation
  candidates := s.candidates m.node.declaredByMethod
  calls := m.node.calls
  code := m.code lines
  startLine := m.startLine

end Method

/-- Why a source text gives no records. -/
inductive ReadFailure where
  /-- It has a syntax fault. -/
  | faulty (fault : Fault)
  /-- It declares no methods. -/
  | noMethods
  deriving DecidableEq

namespace ReadFailure

/-- The wording of the failure. -/
def message : ReadFailure → String
  | .faulty fault => "Syntax Error: " ++ fault.message
  | .noMethods => "No methods found"

end ReadFailure

/-- The records of a source text whose syntax tree is given. -/
def recordsOfTree (source : String) (s : Selection) (tree : Forest) :
    Except ReadFailure (List MethodRecord) :=
  match tree.rootFault? with
  | some fault => .error (.faulty fault)
  | none =>
    match tree.methods 0 [] with
    | [] => .error .noMethods
    | ms => .ok (ms.map (Method.record (Text.splitAt '\n' source.toList) s))

/-- The records of a source text. -/
def records (source : String) (s : Selection) : Except ReadFailure (List MethodRecord) :=
  recordsOfTree source s (syntaxTree source.toList)

/-- The first fault of a source text. -/
def fault? (source : String) : Option Fault := (syntaxTree source.toList).rootFault?

end Code
end FormulaMap
