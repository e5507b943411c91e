import FormulaMap.Decimal.Digits
import FormulaMap.Decimal.Positional
import FormulaMap.Text.Shown

/-!
# Raw settings

What a settings file or a variable of the environment gives before it is known which setting it is
for.  Integers remember whether they were read as integers with or without a sign, because
messages tell the two apart.
-/

namespace FormulaMap
namespace Settings

/-- A raw setting. -/
inductive Value where
  | text (s : String)
  | character (c : Char)
  | flag (b : Bool)
  | natural (n : Nat)
  | integer (n : Int)
  | real (v : Binary.Value)
  | sequence (elements : List Value)
  | table (members : List (String × Value))
  deriving Repr

/-- An integer as text. -/
def integerText (n : Int) : String :=
  if n < 0 then "-" ++ Decimal.text n.natAbs else Decimal.text n.natAbs

/-- What messages call a raw setting. -/
def Value.found : Value → String
  | text s => "string " ++ Text.shown s
  | character c => "string " ++ Text.shown (String.ofList [c])
  | flag b => "bool " ++ (if b then "true" else "false")
  | natural n => "unsigned int `" ++ Decimal.text n ++ "`"
  | integer n => "signed int `" ++ integerText n ++ "`"
  | real v => "float `" ++ v.positionalText Binary.double ++ "`"
  | sequence _ => "sequence"
  | table _ => "map"

end Settings
end FormulaMap
