import FormulaMap.Decimal.Binary
import FormulaMap.Decimal.Digits
import FormulaMap.Text.CharacterRange

/-!
# Floating-point numerals

The texts that denote floating-point values: an optional sign, digits with an optional point among
or beside them, and an optional exponent; or, in any case of letters, the words for infinity and
for what is not a number.  The value is the one nearest to the decimal.
-/

namespace FormulaMap
namespace Binary

/-- The exponent that a whole text denotes: an optional sign and at least one digit. -/
def readExponent? (cs : List Char) : Option Int :=
  let (negative, digits) := match cs with
    | '-' :: rest => (true, rest)
    | '+' :: rest => (false, rest)
    | rest => (false, rest)
  if digits.isEmpty || !digits.all Text.isAsciiDigit then none
  else
    let n : Int := Decimal.value digits
    some (if negative then -n else n)

/-- The value that an unsigned numeral denotes. -/
def readUnsigned? (f : Format) (negative : Bool) (cs : List Char) : Option Value :=
  let whole := cs.takeWhile Text.isAsciiDigit
  let rest := cs.dropWhile Text.isAsciiDigit
  let (fraction, rest) := match rest with
    | '.' :: more => (more.takeWhile Text.isAsciiDigit, more.dropWhile Text.isAsciiDigit)
    | more => ([], more)
  let exponent? := match rest with
    | [] => some 0
    | c :: more => if c == 'e' || c == 'E' then readExponent? more else none
  let all := whole ++ fraction
  if all.isEmpty then none
  else exponent?.map fun e =>
    let significand := Decimal.value all
    Value.ofDecimal f negative significand (Decimal.digits significand).length
      (e - fraction.length)

/-- The value that a text denotes. -/
def readValue? (f : Format) (cs : List Char) : Option Value :=
  let (negative, cs) := match cs with
    | '-' :: rest => (true, rest)
    | '+' :: rest => (false, rest)
    | rest => (false, rest)
  let word := cs.map Text.asciiLower
  if word = "inf".toList ∨ word = "infinity".toList then some (.infinite negative)
  else if word = "nan".toList then some .nan
  else readUnsigned? f negative cs

end Binary
end FormulaMap
