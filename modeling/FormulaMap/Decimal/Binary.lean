/-!
# Binary floating-point values

A finite value is a signed multiple `mantissa * 2 ^ exponent` in the normal form of its format:
the mantissa fills the precision, unless the exponent is already the least one.  Operations are
exact in `Nat` and then rounded once, to the nearest value and from halfway to the even mantissa.
-/

namespace FormulaMap
namespace Binary

/-- A binary floating-point format: how many bits a mantissa has, and the range of exponents. -/
structure Format where
  /-- The number of bits of a full mantissa. -/
  precision : Nat
  /-- The exponent of the least positive value. -/
  least : Int
  /-- The exponent of the greatest value. -/
  greatest : Int
  deriving DecidableEq, Repr

/-- The format of 64 bits. -/
def double : Format := ⟨53, -1074, 971⟩

/-- The format of 32 bits. -/
def single : Format := ⟨24, -149, 104⟩

/-- A floating-point value. -/
inductive Value where
  | finite (negative : Bool) (mantissa : Nat) (exponent : Int)
  | infinite (negative : Bool)
  | nan
  deriving DecidableEq, Repr

/-- The nearest integer to a quotient; from halfway, the even one. -/
def roundDiv (num den : Nat) : Nat :=
  let quotient := num / den
  let twice := 2 * (num % den)
  if twice < den then quotient
  else if den < twice then quotient + 1
  else if quotient % 2 == 0 then quotient else quotient + 1

/-- A quotient divided by a power of two. -/
def descale (num den : Nat) (exponent : Int) : Nat × Nat :=
  if 0 ≤ exponent then (num, den * Nat.pow 2 exponent.toNat)
  else (num * Nat.pow 2 (-exponent).toNat, den)

namespace Value

/-- Zero, of either sign. -/
def zero (f : Format) (negative : Bool) : Value :=
  .finite negative 0 f.least

/-- The value of a format nearest to a quotient; beyond the greatest value, infinity. -/
def ofRatio (f : Format) (negative : Bool) (num den : Nat) : Value :=
  if num = 0 then zero f negative
  else
    let below := max ((num.log2 : Int) - den.log2 - f.precision) f.least
    let (n, d) := descale num den below
    let exponent := if Nat.pow 2 f.precision ≤ n / d then below + 1 else below
    let (n, d) := descale num den exponent
    let mantissa := roundDiv n d
    let full := mantissa = Nat.pow 2 f.precision
    let exponent := if full then exponent + 1 else exponent
    let mantissa := if full then mantissa / 2 else mantissa
    if f.greatest < exponent then .infinite negative
    else .finite negative mantissa exponent

/-- The value nearest to a natural number. -/
def ofNat (f : Format) (n : Nat) : Value :=
  ofRatio f false n 1

/-- The nearest value of another format. -/
def convert (f : Format) : Value → Value
  | finite negative mantissa exponent =>
    let (num, den) := descale mantissa 1 (-exponent)
    ofRatio f negative num den
  | infinite negative => .infinite negative
  | nan => .nan

/-- The opposite value. -/
def neg : Value → Value
  | finite negative mantissa exponent => .finite (!negative) mantissa exponent
  | infinite negative => .infinite (!negative)
  | nan => .nan

/-- A finite value times a finite value, rounded. -/
def mulFinite (f : Format) (m₁ : Nat) (e₁ : Int) (m₂ : Nat) (e₂ : Int) : Value :=
  let (num, den) := descale (m₁ * m₂) 1 (-(e₁ + e₂))
  ofRatio f false num den

/-- A finite value divided by a finite value other than zero, rounded. -/
def divFinite (f : Format) (m₁ : Nat) (e₁ : Int) (m₂ : Nat) (e₂ : Int) : Value :=
  let (num, den) := descale m₁ m₂ (e₂ - e₁)
  ofRatio f false num den

/-- The value nearest to `significand * 10 ^ exponent`, for a significand of `length` digits. -/
def ofDecimal (f : Format) (negative : Bool) (significand length : Nat) (exponent : Int) :
    Value :=
  if significand = 0 ∨ length + exponent < -400 then zero f negative
  else if 400 < length + exponent then .infinite negative
  else if 0 ≤ exponent then ofRatio f negative (significand * Nat.pow 10 exponent.toNat) 1
  else ofRatio f negative significand (Nat.pow 10 (-exponent).toNat)

/-- Whether a value is finite. -/
def isFinite : Value → Bool
  | finite .. => true
  | _ => false

/-- Whether a value is zero, of either sign. -/
def isZero : Value → Bool
  | finite _ mantissa _ => mantissa == 0
  | _ => false

end Value
end Binary
end FormulaMap
