import FormulaMap.Decimal.Shortest

/-!
# JSON numbers

A number that is written as an integer and fits 64 bits stays an integer; every other number is a
binary floating-point value.  Only finite values have a numeral.  A floating-point numeral holds
the fewest digits that read back, with a point for decimal exponents from -5 to 15 and an
exponent otherwise.
-/

namespace FormulaMap
namespace Json

/-- A number of a JSON document. -/
inductive Number where
  /-- An integer from zero to `2 ^ 64 - 1`. -/
  | natural (n : Nat)
  /-- The integer `-n`, for an `n` from one to `2 ^ 63`. -/
  | negative (n : Nat)
  /-- A floating-point value of some format. -/
  | floating (format : Binary.Format) (value : Binary.Value)
  deriving DecidableEq, Repr

namespace Number

/-- A floating-point numeral from its digits and the place of the last one. -/
def numeral (digits : List Char) (place : Int) : List Char :=
  let count : Int := digits.length
  let exponent := count - 1 + place
  if -5 ≤ exponent ∧ exponent < 16 then
    if 0 ≤ place then
      digits ++ List.replicate place.toNat '0' ++ ['.', '0']
    else if 0 ≤ exponent then
      let whole := (exponent + 1).toNat
      digits.take whole ++ '.' :: digits.drop whole
    else
      '0' :: '.' :: (List.replicate (-exponent - 1).toNat '0' ++ digits)
  else
    let fraction := match digits.drop 1 with
      | [] => []
      | more => '.' :: more
    let power := Decimal.digits exponent.natAbs
    digits.take 1 ++ fraction ++ 'e' :: (if exponent < 0 then '-' else '+') :: power

/-- The numeral of a finite value; the others have none. -/
def floatingText? (f : Binary.Format) : Binary.Value → Option (List Char)
  | .finite minus mantissa exponent =>
    let (n, place) := Decimal.shortest f mantissa exponent
    let body := numeral (Decimal.digits n) place
    some (if minus then '-' :: body else body)
  | _ => none

/-- How a number is written; what has no numeral is written as `null`. -/
def chars : Number → List Char
  | natural n => Decimal.digits n
  | negative n => '-' :: Decimal.digits n
  | floating format value => (floatingText? format value).getD "null".toList

/-- How a number is written. -/
def text (n : Number) : String :=
  String.ofList n.chars

end Number
end Json
end FormulaMap
