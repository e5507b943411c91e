import FormulaMap.Json.Reader

/-!
# Passing over JSON

The members of an object that nothing asks for are passed over.  They must be well formed, but
their numbers may be as large and their containers as deep as they like.
-/

namespace FormulaMap
namespace Json

/-- Passes over what follows a backslash and gives the number of characters it takes. -/
def passEscape : List Char → Except Fault Nat
  | [] => .error (.here .endInString [])
  | c :: rest =>
    if c == 'u' then do
      let _ ← readHex rest
      .ok 5
    else if ['"', '\\', '/', 'b', 'f', 'n', 'r', 't'].contains c then .ok 1
    else .error (.next .invalidEscape (c :: rest))

/-- Passes over a string behind its opening quote. -/
def passString (skip : Nat) : List Char → Except Fault (List Char)
  | [] => .error (.here .endInString [])
  | c :: rest =>
    match skip with
    | skip + 1 => passString skip rest
    | 0 =>
      if c == '"' then .ok rest
      else if c == '\\' then do
        let taken ← passEscape rest
        passString taken rest
      else if c.toNat < 32 then .error (.here .controlCharacter (c :: rest))
      else passString 0 rest

/-- Passes over an exponent behind its letter. -/
def passExponent (cs : List Char) : Except Fault (List Char) :=
  let cs := match cs with
    | '+' :: rest => rest
    | '-' :: rest => rest
    | rest => rest
  if startsWithDigit cs then .ok (passDigits cs).2
  else .error (.next .invalidNumber cs)

/-- Passes over what may follow the digits of a number. -/
def passScale : List Char → Except Fault (List Char)
  | 'e' :: rest => passExponent rest
  | 'E' :: rest => passExponent rest
  | rest => .ok rest

/-- Passes over a number behind its sign. -/
def passNumber (cs : List Char) : Except Fault (List Char) :=
  if startsWithDigit cs then
    let zero := cs.head? == some '0'
    let rest := if zero then cs.drop 1 else (passDigits cs).2
    if zero && startsWithDigit rest then .error (.next .invalidNumber rest)
    else
      match rest with
      | '.' :: rest =>
        if startsWithDigit rest then passScale (passDigits rest).2
        else .error (.next .invalidNumber rest)
      | rest => passScale rest
  else .error (.next .invalidNumber cs)

/-- Passes over a key with the colon behind it. -/
def passKey (cs : List Char) : Except Fault (List Char) :=
  match skipBlanks cs with
  | [] => .error (.next .endInObject [])
  | '"' :: rest => do
    let rest ← passString 0 rest
    readColon rest
  | rest => .error (.next .keyNotString rest)

mutual
/-- Passes over a value.  Every call takes a step of `fuel`. -/
def passValue (fuel : Nat) (cs : List Char) : Except Fault (List Char) :=
  match fuel with
  | 0 => .error (.next .recursionLimit cs)
  | fuel + 1 =>
    match skipBlanks cs with
    | [] => .error (.next .endInValue [])
    | c :: rest =>
      if c == 'n' then readWord "ull".toList rest
      else if c == 't' then readWord "rue".toList rest
      else if c == 'f' then readWord "alse".toList rest
      else if c == '-' then passNumber rest
      else if Text.isAsciiDigit c then passNumber (c :: rest)
      else if c == '"' then passString 0 rest
      else if c == '[' then passElements fuel true rest
      else if c == '\x7b' then passMembers fuel true rest
      else .error (.next .expectedValue (c :: rest))

/-- Passes over the elements of a list and the bracket that closes it. -/
def passElements (fuel : Nat) (first : Bool) (cs : List Char) : Except Fault (List Char) :=
  match fuel with
  | 0 => .error (.next .recursionLimit cs)
  | fuel + 1 =>
    match skipBlanks cs with
    | [] => .error (.next .endInList [])
    | ']' :: rest => .ok rest
    | c :: rest =>
      if first then do
        let rest ← passValue fuel (c :: rest)
        passElements fuel false rest
      else if c == ',' then do
        let rest ← passValue fuel rest
        passElements fuel false rest
      else .error (.next .expectedListEnd (c :: rest))

/-- Passes over the members of an object and the brace that closes it. -/
def passMembers (fuel : Nat) (first : Bool) (cs : List Char) : Except Fault (List Char) :=
  match fuel with
  | 0 => .error (.next .recursionLimit cs)
  | fuel + 1 =>
    match skipBlanks cs with
    | [] => .error (.next .endInObject [])
    | '\x7d' :: rest => .ok rest
    | c :: rest =>
      if first then do
        let rest ← passKey (c :: rest)
        let rest ← passValue fuel rest
        passMembers fuel false rest
      else if c == ',' then do
        let rest ← passKey rest
        let rest ← passValue fuel rest
        passMembers fuel false rest
      else .error (.next .expectedObjectEnd (c :: rest))
end

end Json
end FormulaMap
