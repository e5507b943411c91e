import FormulaMap.Decimal.Numeral
import FormulaMap.Settings.Value
import FormulaMap.Text.Blank
import FormulaMap.Text.Bytes
import FormulaMap.Text.Pieces

/-!
# Settings in variables

How the text of a variable is read as a raw setting, and how the name of a variable says where in
the settings it stands.  A text is read as a truth value, a number, a quoted text, a sequence
between brackets or a table between braces if all of it has that form; otherwise the text stands
for itself.
-/

namespace FormulaMap
namespace Settings

/-- Whether a character is a blank of ASCII. -/
def isAsciiBlank (c : Char) : Bool :=
  c == ' ' || c == '\t' || c == '\n' || c == '\r' || c == '\x0c'

/-- Drops the blanks of ASCII. -/
def skipAsciiBlanks (cs : List Char) : List Char :=
  cs.dropWhile isAsciiBlank

/-- Whether a character ends a value without quotes. -/
def isSeparator (c : Char) : Bool :=
  c == ',' || c == '{' || c == '}' || c == '[' || c == ']'

/-- Whether a character may stand in a key without quotes. -/
def isKeyChar (c : Char) : Bool :=
  Text.isAsciiLetter c || Text.isAsciiDigit c || c == '_' || c == '-'

/-- The character with a hexadecimal code of so many digits. -/
def readCode? (count : Nat) (cs : List Char) : Option (Char × List Char) :=
  let digits := cs.take count
  if digits.length = count ∧ digits.all Text.isHexDigit then
    let n := digits.foldl (fun n c => 16 * n + Text.hexValue c) 0
    if h : n.isValidChar then some (Char.ofNatAux n h, cs.drop count) else none
  else none

/-- The characters of a quoted text up to its closing quote, with escapes replaced. -/
def readCharacters? : Nat → List Char → Option (List Char × List Char)
  | 0, _ => none
  | fuel + 1, cs =>
    match cs with
    | [] => none
    | '"' :: rest => some ([], rest)
    | '\\' :: rest => do
      let (c, rest) ← match rest with
        | '"' :: rest => some ('"', rest)
        | '\\' :: rest => some ('\\', rest)
        | 'b' :: rest => some ('\x08', rest)
        | 'f' :: rest => some ('\x0c', rest)
        | 'n' :: rest => some ('\n', rest)
        | 'r' :: rest => some ('\r', rest)
        | 't' :: rest => some ('\t', rest)
        | 'u' :: rest => readCode? 4 rest
        | 'U' :: rest => readCode? 8 rest
        | _ => none
      let (s, rest) ← readCharacters? fuel rest
      some (c :: s, rest)
    | c :: rest =>
      if c == '\t' || (32 ≤ c.toNat && c.toNat != 127) then do
        let (s, rest) ← readCharacters? fuel rest
        some (c :: s, rest)
      else none

/-- The rest of a quoted text.  Of what stands before the first escape only as many bytes are kept
as it has characters. -/
def readQuoted? (fuel : Nat) (cs : List Char) : Option (List Char × List Char) := do
  let (s, rest) ← readCharacters? fuel cs
  let lead := cs.takeWhile fun c => c != '"' && c != '\\'
  if Text.opensWith ['\\'] (cs.drop lead.length) then
    some (Text.takeBytes lead.length lead ++ s.drop lead.length, rest)
  else some (s, rest)

/-- The integer of 64 bits without sign that a text denotes. -/
def naturalOf? (cs : List Char) : Option Nat :=
  let digits := match cs with
    | '+' :: rest => rest
    | rest => rest
  if digits.isEmpty || !digits.all Text.isAsciiDigit then none
  else
    let n := Decimal.value digits
    if n < Nat.pow 2 64 then some n else none

/-- The negative integer of 64 bits that a text denotes. -/
def negativeOf? : List Char → Option Int
  | '-' :: digits =>
    if digits.isEmpty || !digits.all Text.isAsciiDigit then none
    else
      let n := Decimal.value digits
      if n ≤ Nat.pow 2 63 then some (-n) else none
  | _ => none

/-- What a text without quotes stands for: a number, or itself.  Only a text with a point is read
as a number that is no integer. -/
def plainValue (cs : List Char) : Value :=
  let real? := if cs.contains '.' then Binary.readValue? Binary.double cs else none
  match real?, naturalOf? cs, negativeOf? cs with
  | some v, _, _ => .real v
  | none, some n, _ => .natural n
  | none, none, some n => .integer n
  | none, none, none => .text (String.ofList cs)

/-- A key of a table between braces. -/
def readKey? (fuel : Nat) : List Char → Option (String × List Char)
  | '"' :: rest => (readQuoted? fuel rest).map fun (s, rest) => (String.ofList s, rest)
  | cs =>
    match cs.takeWhile isKeyChar with
    | [] => none
    | key => some (String.ofList key, cs.dropWhile isKeyChar)

mutual
/-- The value a text starts with, and the blanks around it. -/
def readValue? : Nat → List Char → Option (Value × List Char)
  | 0, _ => none
  | fuel + 1, cs => do
    let cs := skipAsciiBlanks cs
    let (value, rest) ←
      match Text.after? "true".toList cs, Text.after? "false".toList cs, cs with
      | some rest, _, _ => some (Value.flag true, rest)
      | _, some rest, _ => some (Value.flag false, rest)
      | _, _, '{' :: rest => (readTable? fuel rest).map fun (ms, rest) => (.table ms, rest)
      | _, _, '[' :: rest => (readSequence? fuel rest).map fun (vs, rest) => (.sequence vs, rest)
      | _, _, '"' :: rest =>
        (readQuoted? fuel rest).map fun (s, rest) => (.text (String.ofList s), rest)
      | _, _, '\'' :: rest =>
        match rest with
        | c :: '\'' :: rest => some (.character c, rest)
        | _ => none
      | _, _, cs =>
        some (plainValue (Text.trim (cs.takeWhile fun c => !isSeparator c)),
          cs.dropWhile fun c => !isSeparator c)
    some (value, skipAsciiBlanks rest)

/-- The elements of a sequence up to its closing bracket; a comma may stand behind the last. -/
def readSequence? : Nat → List Char → Option (List Value × List Char)
  | 0, _ => none
  | fuel + 1, cs =>
    match cs with
    | ']' :: rest => some ([], rest)
    | cs => do
      let (value, rest) ← readValue? fuel cs
      match rest with
      | ',' :: rest =>
        let (values, rest) ← readSequence? fuel rest
        some (value :: values, rest)
      | ']' :: rest => some ([value], rest)
      | _ => none

/-- The members of a table up to its closing brace; a comma may stand behind the last. -/
def readTable? : Nat → List Char → Option (List (String × Value) × List Char)
  | 0, _ => none
  | fuel + 1, cs =>
    match cs with
    | '}' :: rest => some ([], rest)
    | cs => do
      let (key, rest) ← readKey? fuel (skipAsciiBlanks cs)
      let rest ← Text.after? ['='] (skipAsciiBlanks rest)
      let (value, rest) ← readValue? fuel rest
      match rest with
      | ',' :: rest =>
        let (members, rest) ← readTable? fuel rest
        some ((key, value) :: members, rest)
      | '}' :: rest => some ([(key, value)], rest)
      | _ => none
end

/-- What the text of a variable stands for. -/
def Value.ofVariable (text : String) : Value :=
  match readValue? (2 * text.length + 3) text.toList with
  | some (value, []) => value
  | _ => .text text

/-- The part of a name after a beginning in which case does not matter. -/
def afterFolded? (beginning name : List Char) : Option (List Char) :=
  if (name.take beginning.length).map Text.asciiLower = beginning.map Text.asciiLower then
    some (name.drop beginning.length)
  else none

/-- Puts a point wherever two low lines follow each other. -/
def pointed : List Char → List Char
  | '_' :: '_' :: rest => '.' :: pointed rest
  | c :: rest => c :: pointed rest
  | [] => []

/-- The keys that the name of a variable stands for, if it is the name of a setting.  Blanks around
the name and around what stands behind its beginning do not count; no key may be empty. -/
def keysOf? (name : String) : Option (List String) := do
  let rest ← afterFolded? "FMAP_".toList (Text.trim name.toList)
  let keys := Text.splitAt '.' ((Text.trim (pointed rest)).map Text.asciiLower)
  if keys.any (·.isEmpty) then none else some (keys.map String.ofList)

/-- A value below some keys. -/
def Value.beneath (value : Value) : List String → Value
  | [] => value
  | key :: keys => .table [(key, value.beneath keys)]

end Settings
end FormulaMap
