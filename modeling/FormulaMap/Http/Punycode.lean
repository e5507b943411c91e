import FormulaMap.Text.CharacterRange

/-!
# Punycode

How a label of a domain that holds characters outside ASCII is written in ASCII (RFC 3492), and how
it is read again.  The characters of ASCII come first; the others follow in increasing order, each
as the distance from the one before in a variable number of digits, whose thresholds adapt to the
distances so far.
-/

namespace FormulaMap
namespace Http
namespace Punycode

/-- The digit for a number below thirty-six. -/
def digit (n : Nat) : Char :=
  if n < 26 then Char.ofNat (97 + n) else Char.ofNat (22 + n)

/-- The number for which a digit stands. -/
def digitValue? (c : Char) : Option Nat :=
  if 'a' ≤ c ∧ c ≤ 'z' then some (c.toNat - 97)
  else if Text.isAsciiDigit c then some (c.toNat - 22)
  else none

/-- The threshold of the digit at a position. -/
def threshold (position bias : Nat) : Nat :=
  if position ≤ bias then 1 else if bias + 26 ≤ position then 26 else position - bias

/-- Divides a distance until it is small, and counts the positions passed. -/
def shrink (delta position : Nat) : Nat × Nat :=
  if 455 < delta then shrink (delta / 35) (position + 36) else (delta, position)
termination_by delta

/-- The bias after a distance has been written. -/
def adapt (delta count : Nat) (first : Bool) : Nat :=
  let halved := if first then delta / 700 else delta / 2
  let (small, position) := shrink (halved + halved / count) 0
  position + 36 * small / (small + 38)

/-- The digits of a distance. -/
def distance (bias : Nat) : Nat → Nat → Nat → List Char
  | 0, _, _ => []
  | fuel + 1, position, n =>
    let t := threshold position bias
    if n < t then [digit n]
    else digit (t + (n - t) % (36 - t)) :: distance bias fuel (position + 36) ((n - t) / (36 - t))

/-- How far a label has been written. -/
structure Progress where
  written : List Char
  delta : Nat
  bias : Nat
  count : Nat

/-- Goes past one character of the label while the character `m` is being written. -/
def pass (basic m : Nat) (p : Progress) (c : Char) : Progress :=
  if c.toNat < m then { p with delta := p.delta + 1 }
  else if c.toNat = m then
    ⟨p.written ++ distance p.bias (p.delta + 1) 36 p.delta, 0,
      adapt p.delta (p.count + 1) (p.count == basic), p.count + 1⟩
  else p

/-- Writes the characters outside ASCII in increasing order. -/
def writeRest (label : List Char) (basic : Nat) : List Nat → Nat → Progress → Progress
  | [], _, p => p
  | m :: rest, n, p =>
    let p := { p with delta := p.delta + (m - n) * (p.count + 1) }
    let p := label.foldl (pass basic m) p
    writeRest label basic rest (m + 1) { p with delta := p.delta + 1 }

/-- A label in ASCII, without the mark that tells it from other labels. -/
def encode (label : List Char) : List Char :=
  let basic := label.filter Text.isAscii
  let others := ((label.filter fun c => !Text.isAscii c).map Char.toNat).mergeSort.eraseReps
  let start : Progress := ⟨[], 0, 72, basic.length⟩
  basic ++ (if basic.isEmpty then [] else ['-']) ++
    (writeRest label basic.length others 128 start).written

/-- The distance that a text starts with, given the weight of its next digit and what the digits
before it amount to, and what follows it. -/
def readDistance? (bias : Nat) : Nat → Nat → Nat → List Char → Option (Nat × List Char)
  | _, _, _, [] => none
  | position, weight, n, c :: rest =>
    match digitValue? c with
    | none => none
    | some d =>
      let t := threshold position bias
      let n := n + d * weight
      if d < t then some (n, rest)
      else readDistance? bias (position + 36) (weight * (36 - t)) n rest

/-- A distance takes up at least one digit. -/
theorem length_lt_of_readDistance? {bias position weight n : Nat} {cs : List Char}
    {r : Nat × List Char} (h : readDistance? bias position weight n cs = some r) :
    r.2.length < cs.length := by
  induction cs generalizing position weight n with
  | nil => simp [readDistance?] at h
  | cons c rest ih =>
    rw [readDistance?] at h
    split at h
    · simp at h
    · simp only at h
      split at h
      · simp [← Option.some.inj h]
      · have := ih h
        simp only [List.length_cons]
        omega

/-- Reads the distances that follow a label and puts the characters where they belong, given the
code point of the last one and the place behind it. -/
def readRest? (bias code place : Nat) (label cs : List Char) : Option (List Char) :=
  if cs.isEmpty then some label
  else
    match _h : readDistance? bias 36 1 place cs with
    | none => none
    | some (n, rest) =>
      let count := label.length + 1
      let code := code + n / count
      if code.isValidChar then
        let front := label.take (n % count)
        let back := label.drop (n % count)
        readRest? (adapt (n - place) count (place == 0)) code (n % count + 1)
          (front ++ Char.ofNat code :: back) rest
      else none
termination_by cs.length
decreasing_by exact length_lt_of_readDistance? _h

/-- The label that is written so in ASCII, without the mark.  The last hyphen stands behind the
characters of ASCII, unless nothing stands before it. -/
def decode? (cs : List Char) : Option (List Char) :=
  let tail := (cs.reverse.takeWhile (· != '-')).reverse
  let basic := cs.take (cs.length - tail.length - 1)
  if basic.isEmpty then readRest? 72 128 0 [] cs else readRest? 72 128 0 basic tail

end Punycode
end Http
end FormulaMap
