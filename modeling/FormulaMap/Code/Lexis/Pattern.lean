import FormulaMap.Text.CharacterRange
import FormulaMap.Text.Identifier

/-!
# Text patterns

Regular patterns over characters.  A pattern is matched by taking, character by character, the
patterns for what may follow; a text matches if one of those for the end of the text admits the
empty text.
-/

namespace FormulaMap
namespace Code
namespace Lexis

/-- A set of characters. -/
inductive CharacterSet where
  /-- The characters of the ranges, both ends included. -/
  | among (ranges : List (Char × Char))
  /-- All characters but those of the ranges and the one with the code zero. -/
  | outside (ranges : List (Char × Char))
  /-- The characters that may begin a name. -/
  | nameStart
  /-- The characters that may stand inside a name. -/
  | namePart
  deriving DecidableEq

/-- Whether a character lies in one of the ranges. -/
def inSomeRange (c : Char) (ranges : List (Char × Char)) : Bool :=
  ranges.any fun (low, high) => low ≤ c && c ≤ high

/-- Whether a set has a character.  Besides the letters and signs of identifiers, a name may hold
the dollar sign and the low line, and behind its first character the cent sign. -/
def CharacterSet.contains : CharacterSet → Char → Bool
  | .among ranges, c => inSomeRange c ranges
  | .outside ranges, c => c.toNat != 0 && !inSomeRange c ranges
  | .nameStart, c => c == '_' || c == '$' || Text.isIdentifierStart c
  | .namePart, c => c == '_' || c == '$' || c == '¢' || Text.isIdentifierPart c

/-- A pattern. -/
inductive Pattern where
  /-- The empty text. -/
  | empty
  /-- One character of a set. -/
  | one (set : CharacterSet)
  /-- One pattern behind another. -/
  | sequence (first second : Pattern)
  /-- Either of two patterns. -/
  | either (first second : Pattern)
  /-- A pattern any number of times. -/
  | many (body : Pattern)
  deriving DecidableEq

namespace Pattern

/-- Whether the empty text matches. -/
def admitsEmpty : Pattern → Bool
  | .empty => true
  | .one _ => false
  | .sequence p q => p.admitsEmpty && q.admitsEmpty
  | .either p q => p.admitsEmpty || q.admitsEmpty
  | .many _ => true

/-- One pattern behind another, without the empty pattern. -/
def followedBy (p q : Pattern) : Pattern :=
  match p with
  | .empty => q
  | p => .sequence p q

/-- The patterns for what may follow a character. -/
def after (c : Char) : Pattern → List Pattern
  | .empty => []
  | .one set => if set.contains c then [.empty] else []
  | .sequence p q =>
    let through := (p.after c).map (·.followedBy q)
    if p.admitsEmpty then through ++ q.after c else through
  | .either p q => p.after c ++ q.after c
  | .many p => (p.after c).map (·.followedBy (.many p))

/-- One character out of one range. -/
def range (low high : Char) : Pattern := .one (.among [(low, high)])

/-- One of the given characters. -/
def anyOf (cs : List Char) : Pattern := .one (.among (cs.map fun c => (c, c)))

/-- A character that is none of the given ones. -/
def noneOf (cs : List Char) : Pattern := .one (.outside (cs.map fun c => (c, c)))

/-- Patterns one behind another. -/
def seq : List Pattern → Pattern
  | [] => .empty
  | [p] => p
  | p :: ps => .sequence p (seq ps)

/-- One of several patterns. -/
def oneOf : List Pattern → Pattern
  | [] => .empty
  | [p] => p
  | p :: ps => .either p (oneOf ps)

/-- A given text. -/
def exactly (cs : List Char) : Pattern := seq (cs.map fun c => anyOf [c])

/-- A pattern or nothing. -/
def optional (p : Pattern) : Pattern := .either p .empty

/-- A pattern once or more often. -/
def many1 (p : Pattern) : Pattern := .sequence p (.many p)

/-- A pattern once or more often with another between. -/
def listOf (separator p : Pattern) : Pattern := .sequence p (.many (.sequence separator p))

/-- The patterns for what may follow a text behind one of several patterns. -/
def afterText (ps : List Pattern) : List Char → List Pattern
  | [] => ps
  | c :: cs => afterText (ps.flatMap (after c)) cs

/-- Whether a text as a whole matches. -/
def isMatch (p : Pattern) (cs : List Char) : Bool := (afterText [p] cs).any admitsEmpty

end Pattern
end Lexis
end Code
end FormulaMap
