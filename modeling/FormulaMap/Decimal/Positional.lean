import FormulaMap.Decimal.Shortest

/-!
# Positional numerals of binary values

The shortest decimal of a binary value written without an exponent, however large or small the
value is, and without a point when it is whole.
-/

namespace FormulaMap
namespace Binary

/-- A positional numeral from its digits and the place of the last one. -/
def positional (digits : List Char) (place : Int) : List Char :=
  if 0 ≤ place then digits ++ List.replicate place.toNat '0'
  else
    let behind := (-place).toNat
    if behind < digits.length then
      digits.take (digits.length - behind) ++ '.' :: digits.drop (digits.length - behind)
    else '0' :: '.' :: List.replicate (behind - digits.length) '0' ++ digits

/-- The positional numeral of a value. -/
def Value.positionalText (f : Format) : Value → String
  | .nan => "NaN"
  | .infinite minus => if minus then "-inf" else "inf"
  | .finite minus mantissa exponent =>
    let (n, place) := Decimal.shortest f mantissa exponent
    let body := positional (Decimal.digits n) place
    String.ofList (if minus then '-' :: body else body)

end Binary
end FormulaMap
