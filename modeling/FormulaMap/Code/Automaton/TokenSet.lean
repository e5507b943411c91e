/-!
# Sets of tokens

A set of tokens is a number whose binary digits tell which tokens, by their positions, are in it.
The position behind the last token stands for the end of the text.
-/

namespace FormulaMap
namespace Code

/-- A set of positions. -/
abbrev TokenSet := Nat

namespace TokenSet

/-- The set of one position. -/
def single (n : Nat) : TokenSet := 1 <<< n

/-- Whether a position is in a set. -/
def has (s : TokenSet) (n : Nat) : Bool := s.testBit n

/-- Whether two sets have a position in common. -/
def meets (s t : TokenSet) : Bool := s &&& t != 0

/-- The positions of the first set that are not in the second. -/
def without (s t : TokenSet) : TokenSet := s ^^^ (s &&& t)

/-- The positions below a bound that are in a set, in increasing order. -/
def members (bound : Nat) (s : TokenSet) : List Nat := (List.range bound).filter s.has

/-- The union of several sets. -/
def union (sets : List TokenSet) : TokenSet := sets.foldl (· ||| ·) 0

/-- The set of several positions. -/
def ofList (ns : List Nat) : TokenSet := union (ns.map single)

end TokenSet
end Code
end FormulaMap
