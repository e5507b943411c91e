import FormulaMap.Text.CharacterRange
import FormulaMap.Text.Pieces

/-!
# Listings

Long tables of characters are written as lines of text: groups with commas between them, each of
words with spaces between them.  A character is written as the hexadecimal digits of its code
point.
-/

namespace FormulaMap
namespace Text

/-- The number that hexadecimal digits denote. -/
def hexNumber (digits : List Char) : Nat :=
  digits.foldl (fun n c => 16 * n + hexValue c) 0

/-- The character that is written as hexadecimal digits. -/
def listedChar (digits : List Char) : Char :=
  Char.ofNat (hexNumber digits)

/-- The groups of a listing, as their words. -/
def listedGroups (lines : List String) : List (List (List Char)) :=
  lines.flatMap fun line =>
    (splitAt ',' line.toList).map fun group => (splitAt ' ' group).filter (!·.isEmpty)

end Text
end FormulaMap
