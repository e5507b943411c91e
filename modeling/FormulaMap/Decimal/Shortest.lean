import FormulaMap.Decimal.Binary
import FormulaMap.Decimal.Digits

/-!
# The shortest decimal of a binary value

Of the decimals that round to a binary floating-point value, the shortest is written, and of
several of that length the one nearest to the value.  The decimals with a given last place form a
grid; the grids are tried from coarse to fine, and on each only the two neighbours of the value
can be nearest.
-/

namespace FormulaMap
namespace Decimal

/-- A positive quotient of natural numbers, compared by cross multiplication. -/
structure Ratio where
  num : Nat
  den : Nat

namespace Ratio

def lt (a b : Ratio) : Bool := a.num * b.den < b.num * a.den

def le (a b : Ratio) : Bool := a.num * b.den ≤ b.num * a.den

/-- `n * 2 ^ e`. -/
def binary (n : Nat) (e : Int) : Ratio :=
  let (num, den) := Binary.descale n 1 (-e)
  ⟨num, den⟩

/-- `n * 10 ^ e`. -/
def decimal (n : Nat) (e : Int) : Ratio :=
  if 0 ≤ e then ⟨n * Nat.pow 10 e.toNat, 1⟩ else ⟨n, Nat.pow 10 (-e).toNat⟩

end Ratio

/-- The decimals that round to a value: those between two bounds, which belong to them when the
mantissa is even. -/
structure Interval where
  low : Ratio
  high : Ratio
  closed : Bool

namespace Interval

/-- The decimals that round to `m * 2 ^ e`.  Below a power of two the values lie twice as dense. -/
def around (f : Binary.Format) (m : Nat) (e : Int) : Interval :=
  let dense := m = Nat.pow 2 (f.precision - 1) ∧ f.least < e
  ⟨Ratio.binary (if dense then 4 * m - 1 else 4 * m - 2) (e - 2),
    Ratio.binary (4 * m + 2) (e - 2), m % 2 == 0⟩

def contains (i : Interval) (x : Ratio) : Bool :=
  if i.closed then i.low.le x && x.le i.high else i.low.lt x && x.lt i.high

end Interval

/-- The neighbour of `x` on the grid of the multiples of `10 ^ place` that lies in the interval;
of two the nearer, and from halfway the even one. -/
def gridPoint? (i : Interval) (x : Ratio) (place : Int) : Option Nat :=
  let unit := Ratio.decimal 1 place
  let below := x.num * unit.den / (x.den * unit.num)
  let inside (n : Nat) := n != 0 && i.contains (Ratio.decimal n place)
  match inside below, inside (below + 1) with
  | true, true =>
    let half := Ratio.decimal (10 * below + 5) (place - 1)
    if x.lt half then some below
    else if half.lt x then some (below + 1)
    else if below % 2 == 0 then some below else some (below + 1)
  | true, false => some below
  | false, true => some (below + 1)
  | false, false => none

/-- Tries the grids from a place on downwards. -/
def searchGrids (i : Interval) (x : Ratio) : Nat → Int → Nat × Int
  | 0, place => (0, place)
  | tries + 1, place =>
    match gridPoint? i x place with
    | some n => (n, place)
    | none => searchGrids i x tries (place - 1)

/-- The digits of the shortest decimal of `m * 2 ^ e`, as a number, and the place of the last. -/
def shortest (f : Binary.Format) (m : Nat) (e : Int) : Nat × Int :=
  if m = 0 then (0, 0)
  else
    let magnitude : Int := (m.log2 : Int) + e + 1
    let top := (magnitude * 30103).fdiv 100000 + 2
    searchGrids (Interval.around f m e) (Ratio.binary m e) 40 top

end Decimal
end FormulaMap
