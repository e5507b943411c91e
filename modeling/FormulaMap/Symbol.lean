import FormulaMap.Text.Alphabetic
import FormulaMap.Text.Pieces

/-!
# Symbols of a formula

Formulas write symbols side by side, so a symbol may stand inside a longer run of letters.  Only
a symbol that starts with a number has to stand alone: `0` is not found in `v0`.
-/

namespace FormulaMap
namespace Symbol

/-- Whether a neighbouring character, if there is one, leaves a symbol standing alone. -/
def isBoundary : Option Char → Bool
  | none => true
  | some c => !Text.isNameCharacter c

/-- Looks from left to right for a symbol that stands alone.  After an occurrence that does not,
the search goes on behind it.  `before` is the character ahead of the text, `skip` the number of
characters that still belong to the last occurrence. -/
def standsAloneIn (symbol : List Char) (before : Option Char) (skip : Nat) : List Char → Bool
  | [] => false
  | c :: rest =>
    match skip with
    | skip + 1 => standsAloneIn symbol (some c) skip rest
    | 0 =>
      match Text.after? symbol (c :: rest) with
      | none => standsAloneIn symbol (some c) 0 rest
      | some tail =>
        if isBoundary before && isBoundary tail.head? then true
        else standsAloneIn symbol (some c) (symbol.length - 1) rest

/-- Whether a symbol occurs in a text.  The empty symbol never does; one that starts with a
number must stand alone. -/
def containedIn (text symbol : String) : Bool :=
  match symbol.toList with
  | [] => false
  | first :: more =>
    if Text.isNumeric first then standsAloneIn (first :: more) none 0 text.toList
    else Text.occursIn (first :: more) text.toList

end Symbol
end FormulaMap
