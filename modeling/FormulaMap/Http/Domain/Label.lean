import FormulaMap.Http.Domain.Mapping
import FormulaMap.Http.Domain.Refused
import FormulaMap.Http.Punycode
import FormulaMap.Text.CanonicalForm
import FormulaMap.Text.Direction
import FormulaMap.Text.Joining

/-!
# Labels of a domain

The parts of a domain between its points.  A label outside ASCII is written in ASCII behind a mark;
a label with the mark has to be the written form of a label outside ASCII.
-/

namespace FormulaMap
namespace Http
namespace Domain

/-- The mark of a label that is the written form of another. -/
def encodedMark : List Char := "xn--".toList

/-- How long a label may be that is to be written in ASCII. -/
def plainLimit : Nat := 1000

/-- How long the written form of a label may be, without its mark. -/
def encodedLimit : Nat := 2000

/-- Whether a label stands for itself character by character. -/
def isKept (label : List Char) : Bool :=
  label.all fun c => (replacement? c).isNone && !isRefused c

/-- Whether a joiner may stand behind some characters, which are given from the last to the first,
and before some.  One that joins stands behind a virama, and so may one that separates; that one may
also stand between letters that would be joined. -/
def mayJoin (joiner : Char) (before after : List Char) : Bool :=
  let followsVirama := before.head?.any Text.isVirama
  if joiner == '\u200d' then followsVirama
  else if joiner == '\u200c' then
    followsVirama ||
      ((before.dropWhile Text.isTransparent).head?.any Text.joinsForward &&
        (after.dropWhile Text.isTransparent).head?.any Text.joinsBackward)
  else true

/-- Whether every joiner of a text may stand where it does behind some characters. -/
def joinersFit : List Char → List Char → Bool
  | _, [] => true
  | before, c :: rest => mayJoin c before rest && joinersFit (c :: before) rest

/-- Whether a label is well formed: it starts with no mark, and its joiners fit. -/
def isWellFormed (label : List Char) : Bool :=
  !label.head?.any Text.isMark && joinersFit [] label

/-- The label that a part of a domain stands for. -/
def label? (part : List Char) : Option (List Char) :=
  match Text.after? encodedMark part with
  | some written =>
    if encodedLimit < written.length then none
    else do
      let label ← Punycode.decode? written
      if label.all Text.isAscii then none
      else if isKept label && Text.canonicalForm label == label && isWellFormed label then
        some label
      else none
  | none =>
    if part.all Text.isAscii then some part
    else if part.length ≤ plainLimit && isWellFormed part then some part
    else none

/-- A part of a domain in ASCII. -/
def asciiPart (part : List Char) : List Char :=
  if part.all Text.isAscii then part else encodedMark ++ Punycode.encode part

/-- Whether a direction is from the right. -/
def isFromRight (d : Text.Direction) : Bool :=
  d == .right || d == .arabic

/-- Whether a domain with such a character is written in both directions. -/
def mixes (d : Text.Direction) : Bool :=
  isFromRight d || d == .arabicNumber

/-- Whether the directions of a label go together: it starts with a letter, all others are of the
same direction, it ends in a letter or a number, and the two kinds of numbers do not meet. -/
def isOrderly (label : List Char) : Bool :=
  let directions := label.map Text.direction
  let last := (directions.reverse.dropWhile (· == .attached)).head?
  match directions.head? with
  | none => true
  | some .left =>
    directions.all (fun d => !mixes d) && last.any fun d => d == .left || d == .number
  | some first =>
    isFromRight first && directions.all (· != .left) &&
      last.any (fun d => mixes d || d == .number) &&
      !(directions.contains .number && directions.contains .arabicNumber)

end Domain
end Http
end FormulaMap
