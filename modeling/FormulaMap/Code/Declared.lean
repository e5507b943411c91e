import FormulaMap.Code.Forest
import FormulaMap.Code.NumericType
import FormulaMap.Policy
import FormulaMap.Record.NameSet

/-!
# Declared names

The names a method declares: its parameters and the local variables anywhere in its body, also
those of classes inside it.  Of each name it is noted whether it is a single number and whether it
only counts a loop; which of them become candidate variables is a matter of the selection.
-/

namespace FormulaMap
namespace Code

/-- A declared name, whether it holds a single number, and whether it is a counter of a loop. -/
structure Declared where
  name : String
  numeric : Bool
  counter : Bool
  deriving DecidableEq

/-- Which declared names become candidate variables: by their types, and with or without the
counters of loops. -/
structure Selection where
  policy : VariablePolicy
  counters : Bool
  deriving DecidableEq

namespace Node

/-- The text of a node. -/
def text (n : Node) : String := String.ofList n.spelling

/-- Whether the type given in a declaration is a scalar numeric type. -/
def hasNumericType (n : Node) : Bool :=
  ((n.part? .type).map fun t => declaresNumeric t.text).getD false

/-- Whether brackets behind the name make what is declared an array. -/
def hasDimensions (n : Node) : Bool := (n.part? .dimensions).isSome

/-- What a node declares whose name and dimensions are parts of it. -/
def declared (n : Node) (numericType counter : Bool) : List Declared :=
  ((n.part? .name).map fun name =>
    (⟨name.text, numericType && !n.hasDimensions, counter⟩ : Declared)).toList

/-- The variables of a declaration. -/
def declarators (n : Node) : List Node :=
  n.children.filter fun child => child.kind == .phrase .variableDeclarator

/-- What a parameter declares.  One that takes any number of arguments is an array. -/
def declaredByParameter (n : Node) : List Declared :=
  if n.kind = .phrase .formalParameter then n.declared n.hasNumericType false
  else if n.kind = .phrase .spreadParameter then
    n.declarators.flatMap fun d => d.declared false false
  else []

/-- What a statement declares, given the kind of the node around it: local variables, which are
counters if they start a loop, or the counter of a loop over the elements of a collection. -/
def declaredByStatement (n : Node) (parent : Kind) : List Declared :=
  if n.kind = .phrase .localVariableDeclaration then
    n.declarators.flatMap fun d =>
      d.declared n.hasNumericType (parent == .phrase .forStatement)
  else if n.kind = .phrase .enhancedForStatement then n.declared n.hasNumericType true
  else []

end Node

namespace Forest

/-- All nodes of a forest with the kinds of the nodes around them, a node before those inside
it. -/
def descendants (parent : Kind) : Forest → List (Node × Kind)
  | .text _ => []
  | .node _ _ kind inner after =>
    (⟨kind, inner⟩, parent) :: (inner.descendants kind ++ after.descendants parent)

end Forest

namespace Node

/-- All nodes inside a node, with the kinds of the nodes around them. -/
def descendants (n : Node) : List (Node × Kind) := n.inner.descendants n.kind

/-- The names that a method declares. -/
def declaredByMethod (method : Node) : List Declared :=
  let parameters := ((method.part? .parameters).map children).getD []
  let statements := ((method.part? .body).map descendants).getD []
  parameters.flatMap declaredByParameter ++
    statements.flatMap fun (n, parent) => n.declaredByStatement parent

end Node

namespace Selection

/-- Whether a declared name becomes a candidate variable. -/
def admits (s : Selection) (d : Declared) : Bool :=
  (s.counters || !d.counter) && s.policy.admits d.numeric

/-- The candidate variables among declared names. -/
def candidates (s : Selection) (ds : List Declared) : NameSet :=
  NameSet.ofList ((ds.filter s.admits).map (·.name))

end Selection
end Code
end FormulaMap
