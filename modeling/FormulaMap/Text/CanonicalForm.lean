import FormulaMap.Text.CombiningClass
import FormulaMap.Text.Composition

/-!
# Canonical form

The one way of writing, among those that count as the same text, in which marks stand in the order
of their classes and characters are composed where they can be.  Characters that merely stand for
one other character are left as they are.
-/

namespace FormulaMap
namespace Text

/-- A character taken apart.  What stands for two characters may stand in the first place of
another pair; the number bounds how often. -/
def takenApart : Nat → Char → List Char
  | 0, c => [c]
  | depth + 1, c =>
    match parts? c with
    | some (first, second) => takenApart depth first ++ [second]
    | none => [c]

/-- Puts a character before others, but behind the marks of lower classes that they start with. -/
def putMark (c : Char) : List Char → List Char
  | [] => [c]
  | d :: rest =>
    if 0 < combiningClass d ∧ combiningClass d < combiningClass c then d :: putMark c rest
    else c :: d :: rest

/-- Puts marks that follow each other into the order of their classes. -/
def ordered (cs : List Char) : List Char :=
  cs.foldr putMark []

/-- Composes a character with those behind it as far as nothing in between stands in the way.  The
marks in between are those that could not be composed. -/
def composeFrom (first : Char) (between : List Char) : List Char → List Char
  | [] => first :: between
  | c :: rest =>
    let isFree := between.getLast?.all fun d => combiningClass d < combiningClass c
    match if isFree then composition? first c else none with
    | some both => composeFrom both between rest
    | none =>
      if combiningClass c = 0 then first :: between ++ composeFrom c [] rest
      else composeFrom first (between ++ [c]) rest

/-- Composes characters where they can be. -/
def composed : List Char → List Char
  | [] => []
  | c :: rest => if combiningClass c = 0 then composeFrom c [] rest else c :: composed rest

/-- The canonical form of a text. -/
def canonicalForm (cs : List Char) : List Char :=
  if cs.all isAscii then cs else composed (ordered (cs.flatMap (takenApart 4)))

end Text
end FormulaMap
