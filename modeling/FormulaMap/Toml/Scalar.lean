import FormulaMap.Decimal.Numeral

/-!
# Numbers and moments of TOML

Scalars without quotes: integers in four bases, floating-point numbers, truth values and moments
in time.  A scalar reaches up to the next blank, comma, closing bracket or comment, and is read as
a whole.
-/

namespace FormulaMap
namespace Toml

/-- A scalar without quotes. -/
inductive Scalar where
  | integer (n : Int)
  | real (v : Binary.Value)
  | truth (b : Bool)
  | moment (text : String)
  deriving DecidableEq, Repr

/-- Whether a character ends a scalar. -/
def endsScalar (c : Char) : Bool :=
  c == ' ' || c == '\t' || c == '\n' || c == '\r' || c == ',' || c == ']' || c == '}' || c == '#'

/-- The digits of a run in which single low lines stand between digits. -/
def digitsOf? (isDigit : Char → Bool) : List Char → Option (List Char)
  | [] => none
  | [c] => if isDigit c then some [c] else none
  | c :: '_' :: rest => if isDigit c then (digitsOf? isDigit rest).map (c :: ·) else none
  | c :: rest => if isDigit c then (digitsOf? isDigit rest).map (c :: ·) else none

/-- The number that digits of some base denote. -/
def valueIn (base : Nat) (digits : List Char) : Nat :=
  digits.foldl (fun n c => base * n + Text.hexValue c) 0

/-- An integer of 64 bits. -/
def integerOf? (negative : Bool) (size : Nat) : Option Scalar :=
  if negative then if size ≤ Nat.pow 2 63 then some (.integer (-size)) else none
  else if size < Nat.pow 2 63 then some (.integer size) else none

/-- The digits of a decimal number without sign and without leading zeros. -/
def plainDigits? (cs : List Char) : Option (List Char) :=
  match digitsOf? Text.isAsciiDigit cs with
  | some ('0' :: _ :: _) => none
  | result => result

/-- A number that is no integer, from the parts before and after its point and its exponent. -/
def realOf? (negative : Bool) (whole fraction exponent : List Char) : Option Scalar := do
  let sign := if negative then ['-'] else []
  let value ← Binary.readValue? Binary.double (sign ++ whole ++ '.' :: fraction ++ 'e' :: exponent)
  if value = .infinite false then none else some (.real value)

/-- The digits of an exponent, with its sign. -/
def exponentOf? : List Char → Option (List Char)
  | '+' :: rest => digitsOf? Text.isAsciiDigit rest
  | '-' :: rest => (digitsOf? Text.isAsciiDigit rest).map ('-' :: ·)
  | rest => digitsOf? Text.isAsciiDigit rest

/-- Whether a character separates the exponent. -/
def isExponentMark (c : Char) : Bool :=
  c == 'e' || c == 'E'

/-- A decimal number without its sign. -/
def unsigned? (negative : Bool) (cs : List Char) : Option Scalar := do
  let mantissa := cs.takeWhile fun c => !isExponentMark c
  let whole ← plainDigits? (mantissa.takeWhile (· != '.'))
  let fraction ← match mantissa.dropWhile (· != '.') with
    | [] => some none
    | _ :: rest => (digitsOf? Text.isAsciiDigit rest).map some
  let exponent ← match cs.dropWhile fun c => !isExponentMark c with
    | [] => some none
    | _ :: rest => (exponentOf? rest).map some
  match fraction, exponent with
  | none, none => integerOf? negative (valueIn 10 whole)
  | fraction, exponent => realOf? negative whole (fraction.getD ['0']) (exponent.getD ['0'])

/-- A number. -/
def number? : List Char → Option Scalar
  | '0' :: 'x' :: rest => do integerOf? false (valueIn 16 (← digitsOf? Text.isHexDigit rest))
  | '0' :: 'o' :: rest => do
    integerOf? false (valueIn 8 (← digitsOf? (fun c => '0' ≤ c && c ≤ '7') rest))
  | '0' :: 'b' :: rest => do
    integerOf? false (valueIn 2 (← digitsOf? (fun c => c == '0' || c == '1') rest))
  | '+' :: rest => signed false rest
  | '-' :: rest => signed true rest
  | cs => signed false cs
where
  /-- A decimal number or one of the two words. -/
  signed (negative : Bool) (cs : List Char) : Option Scalar :=
    if cs = "inf".toList then some (.real (.infinite negative))
    else if cs = "nan".toList then some (.real .nan)
    else unsigned? negative cs

/-- The number that exactly so many digits denote, within bounds. -/
def field? (count low high : Nat) (cs : List Char) : Option (Nat × List Char) :=
  let digits := cs.take count
  let n := Decimal.value digits
  if digits.length = count ∧ digits.all Text.isAsciiDigit ∧ low ≤ n ∧ n ≤ high then
    some (n, cs.drop count)
  else none

/-- What remains after a certain character. -/
def after? (x : Char) : List Char → Option (List Char)
  | c :: rest => if c == x then some rest else none
  | [] => none

/-- The number of days of a month. -/
def daysOf (year month : Nat) : Nat :=
  if month = 2 then
    if year % 4 = 0 ∧ (year % 100 ≠ 0 ∨ year % 400 = 0) then 29 else 28
  else if month = 4 ∨ month = 6 ∨ month = 9 ∨ month = 11 then 30 else 31

/-- What remains after a date. -/
def afterDate? (cs : List Char) : Option (List Char) := do
  let (year, cs) ← field? 4 0 9999 cs
  let (month, cs) ← field? 2 1 12 (← after? '-' cs)
  let (_, cs) ← field? 2 1 (daysOf year month) (← after? '-' cs)
  some cs

/-- What remains after a time of day. -/
def afterTime? (cs : List Char) : Option (List Char) := do
  let (_, cs) ← field? 2 0 23 cs
  let (_, cs) ← field? 2 0 59 (← after? ':' cs)
  let (_, cs) ← field? 2 0 60 (← after? ':' cs)
  match cs with
  | '.' :: c :: rest =>
    if Text.isAsciiDigit c then some (rest.dropWhile Text.isAsciiDigit) else none
  | '.' :: [] => none
  | cs => some cs

/-- What remains after an offset from universal time, if there is one. -/
def afterOffset? (cs : List Char) : Option (List Char) :=
  let offset (rest : List Char) : Option (List Char) := do
    let (_, rest) ← field? 2 0 23 rest
    let (_, rest) ← field? 2 0 59 (← after? ':' rest)
    some rest
  match cs with
  | 'Z' :: rest => some rest
  | 'z' :: rest => some rest
  | '+' :: rest => offset rest
  | '-' :: rest => offset rest
  | cs => some cs

/-- What remains after a moment: a date, a time of day, or both. -/
def afterMoment? (cs : List Char) : Option (List Char) :=
  match after? ':' (cs.drop 2) with
  | some _ => afterTime? cs
  | none => do
    let rest ← afterDate? cs
    match rest with
    | 'T' :: more => afterOffset? (← afterTime? more)
    | 't' :: more => afterOffset? (← afterTime? more)
    | ' ' :: c :: more =>
      if Text.isAsciiDigit c then afterOffset? (← afterTime? (c :: more)) else some rest
    | rest => some rest

/-- Whether a text starts like a moment: with four digits and a hyphen, or two and a colon. -/
def isMomentLike (cs : List Char) : Bool :=
  ((cs.take 4).all Text.isAsciiDigit && (after? '-' (cs.drop 4)).isSome) ||
    ((cs.take 2).all Text.isAsciiDigit && (after? ':' (cs.drop 2)).isSome)

/-- A scalar without quotes. -/
def readScalar? (cs : List Char) : Option (Scalar × List Char) := do
  if isMomentLike cs then
    let rest ← afterMoment? cs
    some (.moment (String.ofList (cs.take (cs.length - rest.length))), rest)
  else
    let token := cs.takeWhile fun c => !endsScalar c
    let rest := cs.dropWhile fun c => !endsScalar c
    if token = "true".toList then some (.truth true, rest)
    else if token = "false".toList then some (.truth false, rest)
    else (number? token).map fun scalar => (scalar, rest)

end Toml
end FormulaMap
