import FormulaMap.Code.Declared

/-!
# Calls

A call is shown as the name of the method, behind the object it is called on if that is a plain
name, and with dots in the place of its arguments.
-/

namespace FormulaMap
namespace Code

/-- Whether an object of this kind is shown in front of a call: names, fields, and the object
itself.  Calls on the result of another call, on casts and on new objects are shown without. -/
def isQualifier : Kind → Bool
  | .token .identifier => true
  | .token .thisWord => true
  | .token .superWord => true
  | .phrase .fieldAccess => true
  | .phrase .scopedIdentifier => true
  | _ => false

/-- Whether a list of arguments in parentheses has anything in it. -/
def hasArguments (list : List Char) : Bool :=
  let inside := Text.trimEndOf ')' (Text.trimStartOf '(' (Text.trim list))
  !(Text.trim inside).isEmpty

namespace Node

/-- What is shown in front of a call. -/
def qualifier (call : Node) : List Char :=
  match call.part? .object with
  | some object =>
    if isQualifier object.kind then Text.withoutBlanks object.spelling ++ ['.'] else []
  | none => []

/-- A call as it is shown. -/
def shownCall? (call : Node) : Option String :=
  (call.part? .name).map fun name =>
    let arguments := ((call.part? .arguments).map fun list => hasArguments list.spelling).getD false
    let dots := if arguments then "...".toList else []
    String.ofList (call.qualifier ++ name.spelling ++ '(' :: dots ++ [')'])

/-- The calls in the body of a method. -/
def calls (method : Node) : NameSet :=
  let inBody := ((method.part? .body).map descendants).getD []
  NameSet.ofList (inBody.filterMap fun (n, _) =>
    if n.kind = .phrase .methodInvocation then n.shownCall? else none)

end Node
end Code
end FormulaMap
