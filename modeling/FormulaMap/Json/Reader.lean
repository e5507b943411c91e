import FormulaMap.Json.Fault

/-!
# Reading JSON

A reader takes the unread text and gives a value with the text behind it, or a fault.  Integers
that fit 64 bits stay integers.  The digits of any other number are gathered into a significand
of 64 bits for as long as they fit; the rest only counts towards the exponent, and the value is
the significand times or divided by one rounded power of ten.
-/

namespace FormulaMap
namespace Json

/-- The blanks of JSON. -/
def isJsonBlank (c : Char) : Bool :=
  c == ' ' || c == '\n' || c == '\t' || c == '\r'

/-- The text behind any blanks. -/
def skipBlanks (cs : List Char) : List Char :=
  cs.dropWhile isJsonBlank

/-- Reads the rest of a fixed word. -/
def readWord : List Char → List Char → Except Fault (List Char)
  | [], cs => .ok cs
  | _ :: _, [] => .error (.here .endInValue [])
  | x :: xs, c :: cs => if x == c then readWord xs cs else .error (.next .expectedIdent (c :: cs))

/-! ## Strings -/

/-- The number that four hexadecimal digits denote. -/
def readHex (cs : List Char) : Except Fault Nat :=
  if Text.byteLength cs < 4 then .error (.here .endInString [])
  else
    let four := cs.take 4
    if four.all Text.isHexDigit then .ok (four.foldl (fun n c => 16 * n + Text.hexValue c) 0)
    else .error (.at .invalidEscape (Text.byteLength cs - 4))

/-- Reads the second half of a pair of escapes for a character outside the basic plane, and how
many characters it takes. -/
def readTrailing (lead : Nat) : List Char → Except Fault (Char × Nat)
  | [] => .error (.here .endInString [])
  | '\\' :: [] => .error (.here .endInString [])
  | '\\' :: 'u' :: rest => do
    let low ← readHex rest
    if low < 0xDC00 ∨ 0xDFFF < low then .error (.here .loneSurrogate (rest.drop 4))
    else .ok (Char.ofNat ((lead - 0xD800) * 1024 + (low - 0xDC00) + 0x10000), 6)
  | '\\' :: rest => .error (.next .hexEscapeEnd rest)
  | rest => .error (.next .hexEscapeEnd rest)

/-- Reads what follows a backslash: the character it stands for and how many characters it
takes. -/
def readEscape : List Char → Except Fault (Char × Nat)
  | [] => .error (.here .endInString [])
  | c :: rest =>
    match c with
    | '"' => .ok ('"', 1)
    | '\\' => .ok ('\\', 1)
    | '/' => .ok ('/', 1)
    | 'b' => .ok (Char.ofNat 8, 1)
    | 'f' => .ok (Char.ofNat 12, 1)
    | 'n' => .ok ('\n', 1)
    | 'r' => .ok ('\r', 1)
    | 't' => .ok ('\t', 1)
    | 'u' => do
      let n ← readHex rest
      if 0xDC00 ≤ n ∧ n ≤ 0xDFFF then .error (.here .loneSurrogate (rest.drop 4))
      else if n < 0xD800 ∨ 0xDBFF < n then .ok (Char.ofNat n, 5)
      else do
        let (x, taken) ← readTrailing n (rest.drop 4)
        .ok (x, taken + 5)
    | _ => .error (.next .invalidEscape (c :: rest))

/-- Reads a string behind its opening quote.  The first `skip` characters belong to an escape
that was read already. -/
def readString (skip : Nat) : List Char → Except Fault (List Char × List Char)
  | [] => .error (.here .endInString [])
  | c :: rest =>
    match skip with
    | skip + 1 => readString skip rest
    | 0 =>
      if c == '"' then .ok ([], rest)
      else if c == '\\' then do
        let (x, taken) ← readEscape rest
        let (xs, rest) ← readString taken rest
        .ok (x :: xs, rest)
      else if c.toNat < 32 then .error (.here .controlCharacter rest)
      else do
        let (xs, rest) ← readString 0 rest
        .ok (c :: xs, rest)

/-! ## Numbers -/

/-- The greatest integer of 64 bits. -/
def maxNatural : Nat := Nat.pow 2 64 - 1

/-- Gathers digits into a significand for as long as it fits 64 bits: the significand, the number
of digits taken and the text behind them. -/
def gather (significand taken : Nat) : List Char → Nat × Nat × List Char
  | [] => (significand, taken, [])
  | c :: rest =>
    let grown := significand * 10 + Text.digitValue c
    if Text.isAsciiDigit c && grown ≤ maxNatural then gather grown (taken + 1) rest
    else (significand, taken, c :: rest)

/-- Whether a text starts with a digit. -/
def startsWithDigit : List Char → Bool
  | [] => false
  | c :: _ => Text.isAsciiDigit c

/-- The digits a text starts with are passed over and counted. -/
def passDigits (cs : List Char) : Nat × List Char :=
  ((cs.takeWhile Text.isAsciiDigit).length, cs.dropWhile Text.isAsciiDigit)

/-- Scales a significand by a power of ten.  Powers up to `10 ^ 308` are applied in one rounded
step; a smaller scale is reached by dividing by `10 ^ 308` first. -/
def scale (tries mantissa : Nat) (exponent10 exponent2 : Int) : Option Binary.Value :=
  if exponent10.natAbs ≤ 308 then
    match Binary.Value.ofNat Binary.double (Nat.pow 10 exponent10.natAbs) with
    | .finite _ m e =>
      if 0 ≤ exponent10 then
        let product := Binary.Value.mulFinite Binary.double mantissa exponent2 m e
        if product.isFinite then some product else none
      else some (Binary.Value.divFinite Binary.double mantissa exponent2 m e)
    | _ => none
  else if mantissa = 0 then some (.zero Binary.double false)
  else if 0 ≤ exponent10 then none
  else
    match tries, Binary.Value.ofNat Binary.double (Nat.pow 10 308) with
    | tries + 1, .finite _ m e =>
      match Binary.Value.divFinite Binary.double mantissa exponent2 m e with
      | .finite _ mantissa exponent2 => scale tries mantissa (exponent10 + 308) exponent2
      | other => some other
    | _, _ => some (.zero Binary.double false)

/-- A floating-point number from its parts, or none beyond the greatest one. -/
def ofParts (negative : Bool) (significand : Nat) (exponent : Int) : Option Number :=
  match Binary.Value.ofNat Binary.double significand with
  | .finite _ m e =>
    (scale 8 m exponent e).map fun v =>
      .floating Binary.double (if negative then v.neg else v)
  | _ => none

/-- The number with the given parts, in front of the text behind it. -/
def finishNumber (negative : Bool) (significand : Nat) (exponent : Int) (rest : List Char) :
    Except Fault (Number × List Char) :=
  match ofParts negative significand exponent with
  | some n => .ok (n, rest)
  | none => .error (.here .numberOutOfRange rest)

/-- Gathers the digits of an exponent up to the 32-bit limit; beyond it gives none and the text
behind the digit that went too far. -/
def gatherExponent (exponent : Nat) : List Char → Option Nat × List Char
  | [] => (some exponent, [])
  | c :: rest =>
    if Text.isAsciiDigit c then
      let grown := exponent * 10 + Text.digitValue c
      if grown ≤ 2147483647 then gatherExponent grown rest else (none, rest)
    else (some exponent, c :: rest)

/-- Reads an exponent behind its letter. -/
def readExponent (negative : Bool) (significand : Nat) (start : Int) (cs : List Char) :
    Except Fault (Number × List Char) :=
  let (down, cs) := match cs with
    | '+' :: rest => (false, rest)
    | '-' :: rest => (true, rest)
    | rest => (false, rest)
  match cs with
  | [] => .error (.here .endInValue [])
  | c :: rest =>
    if Text.isAsciiDigit c then
      match gatherExponent (Text.digitValue c) rest with
      | (some n, rest) =>
        finishNumber negative significand (if down then start - n else start + n) rest
      | (none, rest) =>
        if significand ≠ 0 ∧ !down then .error (.here .numberOutOfRange rest)
        else .ok (.floating Binary.double (.zero Binary.double negative), (passDigits rest).2)
    else .error (.next .invalidNumber (c :: rest))

/-- Reads what may follow the digits of a number that is not an integer. -/
def readScale (negative : Bool) (significand : Nat) (exponent : Int) :
    List Char → Except Fault (Number × List Char)
  | 'e' :: rest => readExponent negative significand exponent rest
  | 'E' :: rest => readExponent negative significand exponent rest
  | rest => finishNumber negative significand exponent rest

/-- Reads the fraction behind a point. -/
def readFraction (negative : Bool) (significand : Nat) (exponent : Int) (cs : List Char) :
    Except Fault (Number × List Char) :=
  let (significand, taken, rest) := gather significand 0 cs
  if startsWithDigit rest then
    readScale negative significand (exponent - taken) (passDigits rest).2
  else if taken = 0 then
    .error (.next (if rest.isEmpty then .endInValue else .invalidNumber) rest)
  else readScale negative significand (exponent - taken) rest

/-- The integer with the given digits; below the least integer, and for minus zero, a
floating-point value. -/
def ofInteger (negative : Bool) (significand : Nat) : Number :=
  if !negative then .natural significand
  else if significand = 0 ∨ Nat.pow 2 63 < significand then
    .floating Binary.double (Binary.Value.ofNat Binary.double significand).neg
  else .negative significand

/-- Reads what may follow the integer part of a number. -/
def readTail (negative : Bool) (significand : Nat) :
    List Char → Except Fault (Number × List Char)
  | '.' :: rest => readFraction negative significand 0 rest
  | 'e' :: rest => readExponent negative significand 0 rest
  | 'E' :: rest => readExponent negative significand 0 rest
  | rest => .ok (ofInteger negative significand, rest)

/-- Reads a number behind its sign. -/
def readNumber (negative : Bool) : List Char → Except Fault (Number × List Char)
  | [] => .error (.here .endInValue [])
  | c :: rest =>
    if c == '0' then
      if startsWithDigit rest then .error (.next .invalidNumber rest)
      else readTail negative 0 rest
    else if Text.isAsciiDigit c then
      let (significand, _, rest) := gather (Text.digitValue c) 0 rest
      if startsWithDigit rest then
        let (more, rest) := passDigits rest
        match rest with
        | '.' :: rest => readFraction negative significand more rest
        | rest => readScale negative significand more rest
      else readTail negative significand rest
    else .error (.next .invalidNumber (c :: rest))

/-- Reads a number with its sign. -/
def readSigned : List Char → Except Fault (Number × List Char)
  | '-' :: rest => readNumber true rest
  | rest => readNumber false rest

/-- The number that a whole text denotes: nothing may surround it. -/
def numberOf? (cs : List Char) : Option Number :=
  match readSigned cs with
  | .ok (n, []) => some n
  | _ => none

/-! ## Values -/

/-- How deep containers may be nested, plus one. -/
def depthLimit : Nat := 128

/-- Reads the colon between a key and its value. -/
def readColon (cs : List Char) : Except Fault (List Char) :=
  match skipBlanks cs with
  | ':' :: rest => .ok rest
  | [] => .error (.next .endInObject [])
  | rest => .error (.next .expectedColon rest)

/-- Looks for the next element of a list: the text at which it starts, or none and the text
behind the closing bracket. -/
def nextElement (first : Bool) (cs : List Char) : Except Fault (Bool × List Char) :=
  match skipBlanks cs with
  | [] => .error (.next .endInList [])
  | ']' :: rest => .ok (false, rest)
  | c :: rest =>
    if first then .ok (true, c :: rest)
    else if c == ',' then
      match skipBlanks rest with
      | [] => .error (.next .endInValue [])
      | ']' :: more => .error (.next .trailingComma (']' :: more))
      | more => .ok (true, more)
    else .error (.next .expectedListEnd (c :: rest))

/-- Looks for the next key of an object: the text behind its opening quote, or none and the text
that starts with the closing brace. -/
def nextKey (first : Bool) (cs : List Char) : Except Fault (Bool × List Char) :=
  match skipBlanks cs with
  | [] => .error (.next .endInObject [])
  | '\x7d' :: rest => .ok (false, '\x7d' :: rest)
  | c :: rest =>
    if first then
      if c == '"' then .ok (true, rest) else .error (.next .keyNotString (c :: rest))
    else if c == ',' then
      match skipBlanks rest with
      | [] => .error (.next .endInValue [])
      | '"' :: more => .ok (true, more)
      | '\x7d' :: more => .error (.next .trailingComma ('\x7d' :: more))
      | more => .error (.next .keyNotString more)
    else .error (.next .expectedObjectEnd (c :: rest))

mutual
/-- Reads a value.  Every call takes a step of `fuel`, and a container one of `depth`. -/
def readValue (fuel depth : Nat) (cs : List Char) : Except Fault (Value × List Char) :=
  match fuel with
  | 0 => .error (.next .recursionLimit cs)
  | fuel + 1 =>
    match skipBlanks cs with
    | [] => .error (.next .endInValue [])
    | c :: rest =>
      if c == 'n' then do
        let rest ← readWord "ull".toList rest
        .ok (.null, rest)
      else if c == 't' then do
        let rest ← readWord "rue".toList rest
        .ok (.bool true, rest)
      else if c == 'f' then do
        let rest ← readWord "alse".toList rest
        .ok (.bool false, rest)
      else if c == '-' || Text.isAsciiDigit c then do
        let (n, rest) ← readSigned (c :: rest)
        .ok (.number n, rest)
      else if c == '"' then do
        let (s, rest) ← readString 0 rest
        .ok (.string (String.ofList s), rest)
      else if c == '[' then
        if depth ≤ 1 then .error (.next .recursionLimit (c :: rest))
        else do
          let (vs, rest) ← readElements fuel (depth - 1) true rest
          .ok (.array vs, rest)
      else if c == '\x7b' then
        if depth ≤ 1 then .error (.next .recursionLimit (c :: rest))
        else do
          let (ms, rest) ← readMembers fuel (depth - 1) true rest
          .ok (.object ms, rest)
      else .error (.next .expectedValue (c :: rest))

/-- Reads the elements of a list and the bracket that closes it. -/
def readElements (fuel depth : Nat) (first : Bool) (cs : List Char) :
    Except Fault (List Value × List Char) :=
  match fuel with
  | 0 => .error (.next .recursionLimit cs)
  | fuel + 1 => do
    let (more, cs) ← nextElement first cs
    if more then
      let (v, cs) ← readValue fuel depth cs
      let (vs, cs) ← readElements fuel depth false cs
      .ok (v :: vs, cs)
    else .ok ([], cs)

/-- Reads the members of an object and the brace that closes it. -/
def readMembers (fuel depth : Nat) (first : Bool) (cs : List Char) :
    Except Fault (List (String × Value) × List Char) :=
  match fuel with
  | 0 => .error (.next .recursionLimit cs)
  | fuel + 1 => do
    let (more, cs) ← nextKey first cs
    if more then
      let (key, cs) ← readString 0 cs
      let cs ← readColon cs
      let (v, cs) ← readValue fuel depth cs
      let (ms, cs) ← readMembers fuel depth false cs
      .ok ((String.ofList key, v) :: ms, cs)
    else .ok ([], cs.drop 1)
end

/-- A bound for the number of nested calls that reading a text can take. -/
def enoughFuel (cs : List Char) : Nat :=
  2 * cs.length + 4

/-- Nothing but blanks may follow a document. -/
def finish (result : Except Fault (α × List Char)) : Except Fault α := do
  let (v, rest) ← result
  match skipBlanks rest with
  | [] => .ok v
  | rest => .error (.next .trailingCharacters rest)

/-- The value that a document holds. -/
def valueOf (cs : List Char) : Except Fault Value :=
  finish (readValue (enoughFuel cs) depthLimit cs)

end Json
end FormulaMap
