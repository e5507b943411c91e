import FormulaMap.Json.Number

/-!
# JSON values

The values of JSON documents, and their two written forms.  The compact form has no blanks; the
indented form puts every element on a line of its own, two spaces deeper than its container.
-/

namespace FormulaMap
namespace Json

/-- A JSON value; the members of an object keep their order. -/
inductive Value where
  | null
  | bool (b : Bool)
  | number (n : Number)
  | string (s : String)
  | array (elements : List Value)
  | object (members : List (String × Value))
  deriving Repr

/-- The hexadecimal digit for a number below sixteen, in lower case. -/
def hexDigit (n : Nat) : Char :=
  if n < 10 then Char.ofNat (48 + n) else Char.ofNat (87 + n)

/-- How a character stands inside a string: quotes, backslashes and control characters are
escaped, and nothing else is. -/
def escape (c : Char) : List Char :=
  if c == '"' then ['\\', '"']
  else if c == '\\' then ['\\', '\\']
  else if c.toNat = 8 then ['\\', 'b']
  else if c.toNat = 9 then ['\\', 't']
  else if c.toNat = 10 then ['\\', 'n']
  else if c.toNat = 12 then ['\\', 'f']
  else if c.toNat = 13 then ['\\', 'r']
  else if c.toNat < 32 then ['\\', 'u', '0', '0', hexDigit (c.toNat / 16), hexDigit (c.toNat % 16)]
  else [c]

/-- A string between quotes. -/
def quote (cs : List Char) : List Char :=
  '"' :: cs.flatMap escape ++ ['"']

/-- The written form of a string. -/
def quoted (s : String) : String :=
  String.ofList (quote s.toList)

namespace Value

mutual
/-- The compact form. -/
def compactChars : Value → List Char
  | null => "null".toList
  | bool true => "true".toList
  | bool false => "false".toList
  | number n => n.chars
  | string s => quote s.toList
  | array elements => '[' :: compactElements elements
  | object members => '{' :: compactMembers members

/-- The elements of an array and the bracket that closes it. -/
def compactElements : List Value → List Char
  | [] => [']']
  | [v] => v.compactChars ++ [']']
  | v :: vs => v.compactChars ++ ',' :: compactElements vs

/-- The members of an object and the brace that closes it. -/
def compactMembers : List (String × Value) → List Char
  | [] => ['}']
  | [(key, v)] => quote key.toList ++ ':' :: v.compactChars ++ ['}']
  | (key, v) :: rest => quote key.toList ++ ':' :: v.compactChars ++ ',' :: compactMembers rest
end

/-- The compact form as text. -/
def compact (v : Value) : String :=
  String.ofList v.compactChars

/-- The start of a line at some depth. -/
def newline (depth : Nat) : List Char :=
  '\n' :: List.replicate (2 * depth) ' '

mutual
/-- The indented form of a value that stands at some depth. -/
def indentedChars (depth : Nat) : Value → List Char
  | array [] => ['[', ']']
  | array (v :: vs) =>
    '[' :: indentedElements (depth + 1) (v :: vs) ++ newline depth ++ [']']
  | object [] => ['{', '}']
  | object (m :: ms) =>
    '{' :: indentedMembers (depth + 1) (m :: ms) ++ newline depth ++ ['}']
  | v => v.compactChars

/-- The elements of an array, each on a line of its own. -/
def indentedElements (depth : Nat) : List Value → List Char
  | [] => []
  | [v] => newline depth ++ indentedChars depth v
  | v :: vs => newline depth ++ indentedChars depth v ++ ',' :: indentedElements depth vs

/-- The members of an object, each on a line of its own. -/
def indentedMembers (depth : Nat) : List (String × Value) → List Char
  | [] => []
  | [(key, v)] =>
    newline depth ++ quote key.toList ++ ':' :: ' ' :: indentedChars depth v
  | (key, v) :: rest =>
    newline depth ++ quote key.toList ++ ':' :: ' ' :: indentedChars depth v ++
      ',' :: indentedMembers depth rest
end

/-- The indented form as text. -/
def indented (v : Value) : String :=
  String.ofList (indentedChars 0 v)

/-- A natural number as a value. -/
def ofNat (n : Nat) : Value :=
  .number (.natural n)

/-- A floating-point value of 32 bits as a value. -/
def ofSingle (v : Binary.Value) : Value :=
  .number (.floating Binary.single v)

/-- A list of strings as a value. -/
def ofStrings (texts : List String) : Value :=
  .array (texts.map .string)

/-- Whether a value is a string, a number or `null`. -/
def isScalar : Value → Bool
  | array _ => false
  | object _ => false
  | bool _ => false
  | _ => true

end Value
end Json
end FormulaMap
