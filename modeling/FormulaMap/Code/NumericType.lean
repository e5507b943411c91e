import FormulaMap.Text.Blank
import FormulaMap.Text.Pieces

/-!
# Scalar numeric types

Which declared types hold one number: the primitive numeric types, their boxed counterparts and
the two types of unbounded precision.  A generic or array type never does, because it is compared
as a whole.
-/

namespace FormulaMap
namespace Code

/-- The names of the scalar numeric types. -/
def numericTypeNames : List String :=
  ["int", "long", "double", "float", "short", "byte",
   "Integer", "Long", "Double", "Float", "Short", "Byte",
   "BigDecimal", "BigInteger", "Number"]

/-- Whether a name is the name of a scalar numeric type; case matters. -/
def isNumericType (typeName : String) : Bool :=
  numericTypeNames.contains typeName

/-- The name to compare for a type as it is declared: generic and array types whole, of any
other type the last segment of its qualified name. -/
def declaredTypeName (typeText : String) : String :=
  let text := Text.trim typeText.toList
  if text.contains '<' || text.contains '[' then
    String.ofList text
  else
    String.ofList (Text.trim ((Text.splitAt '.' text).getLast?.getD text))

/-- Whether a type, as it is declared, is a scalar numeric type. -/
def declaresNumeric (typeText : String) : Bool :=
  isNumericType (declaredTypeName typeText)

end Code
end FormulaMap
