import FormulaMap.Json.Reader
import FormulaMap.Record.NameSet
import FormulaMap.Text.Blank

/-!
# Constructs

What a formula symbol maps to in the code of a method.  A value of a reply becomes a construct
when it is a string, a number or `null`: a string is trimmed and then is a variable of the method,
a numeric literal, or else an expression.
-/

namespace FormulaMap

/-- What a formula symbol maps to. -/
inductive Construct where
  /-- A candidate variable of the method. -/
  | named (name : String)
  /-- A call or another expression. -/
  | expression (text : String)
  /-- A numeric constant. -/
  | literal (n : Json.Number)
  /-- Nothing in the code. -/
  | unmapped
  deriving DecidableEq, Repr

namespace Construct

/-- The construct that a string of a reply names. -/
def ofText (candidates : NameSet) (s : String) : Construct :=
  let text := Text.trim s.toList
  let word := String.ofList text
  if text.isEmpty ∨ word = "null" then .unmapped
  else if candidates.contains word then .named word
  else
    match Json.numberOf? text with
    | some n => .literal n
    | none => .expression word

/-- The construct that a value of a reply names; only strings, numbers and `null` name one. -/
def classify? (candidates : NameSet) : Json.Value → Option Construct
  | .null => some .unmapped
  | .number n => some (.literal n)
  | .string s => some (ofText candidates s)
  | .bool _ => none
  | .array _ => none
  | .object _ => none

/-- Whether nothing in the code was found. -/
def isUnmapped : Construct → Bool
  | unmapped => true
  | _ => false

/-- A construct as a value of a document. -/
def toJson : Construct → Json.Value
  | named name => .string name
  | expression text => .string text
  | literal n => .number n
  | unmapped => .null

/-- A construct as plain text. -/
def text : Construct → String
  | named name => name
  | expression text => text
  | literal n => n.text
  | unmapped => "null"

/-- A value names a construct exactly when it is a string, a number or `null`. -/
theorem classify?_isSome (candidates : NameSet) (v : Json.Value) :
    (classify? candidates v).isSome = v.isScalar := by
  cases v <;> rfl

end Construct
end FormulaMap
