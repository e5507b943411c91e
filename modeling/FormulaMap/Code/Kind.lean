import FormulaMap.Code.Phrase
import FormulaMap.Code.Token

/-!
# Kinds of nodes

What a node of a syntax tree can be: a token, a phrase, the name of a type, or a stretch of
text that no rule accounts for.
-/

namespace FormulaMap
namespace Code

/-- The kind of a node. -/
inductive Kind where
  | token (t : Token)
  | phrase (p : Phrase)
  | typeIdentifier
  | fault
  deriving DecidableEq

end Code
end FormulaMap
