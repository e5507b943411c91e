/-!
# Character ranges

A character class is written as the increasing list of the ranges of code points it consists
of, both ends included.
-/

namespace FormulaMap
namespace Text

/-- Whether a code point lies in one of the ranges; they are listed in increasing order, so the
search stops at the first range that does not end before it. -/
def inRanges (n : Nat) : List (Nat × Nat) → Bool
  | [] => false
  | (low, high) :: ranges =>
    if high < n then inRanges n ranges else low ≤ n

/-- The entry of the range in which a code point lies; the ranges are listed in increasing
order. -/
def entryAt? (n : Nat) : List (Nat × Nat × α) → Option α
  | [] => none
  | (low, high, entry) :: ranges =>
    if high < n then entryAt? n ranges else if low ≤ n then some entry else none

/-- The letters of the Latin alphabet without marks. -/
def isAsciiLetter (c : Char) : Bool :=
  ('a' ≤ c && c ≤ 'z') || ('A' ≤ c && c ≤ 'Z')

/-- The ten decimal digits of ASCII. -/
def isAsciiDigit (c : Char) : Bool :=
  '0' ≤ c && c ≤ '9'

/-- The digits of a hexadecimal numeral, in either case. -/
def isHexDigit (c : Char) : Bool :=
  isAsciiDigit c || ('a' ≤ c && c ≤ 'f') || ('A' ≤ c && c ≤ 'F')

/-- Whether the code point is below 128. -/
def isAscii (c : Char) : Bool :=
  c.toNat < 128

/-- The value of a decimal digit. -/
def digitValue (c : Char) : Nat :=
  c.toNat - 48

/-- The value of a hexadecimal digit. -/
def hexValue (c : Char) : Nat :=
  if isAsciiDigit c then c.toNat - 48
  else if 'a' ≤ c then c.toNat - 87
  else c.toNat - 55

/-- The number of bytes of a text in UTF-8. -/
def byteLength (cs : List Char) : Nat :=
  cs.foldr (fun c n => c.utf8Size + n) 0

/-- Lower case for the letters of ASCII, every other character as it is. -/
def asciiLower (c : Char) : Char :=
  if 'A' ≤ c && c ≤ 'Z' then Char.ofNat (c.toNat + 32) else c

/-- Upper case for the letters of ASCII, every other character as it is. -/
def asciiUpper (c : Char) : Char :=
  if 'a' ≤ c && c ≤ 'z' then Char.ofNat (c.toNat - 32) else c

end Text
end FormulaMap
