import FormulaMap.Text.CharacterRange

/-!
# Texts and keys of TOML

The four kinds of strings, and keys.  Every function takes what remains of a document and gives
what it has read together with what remains then, or nothing if the document is faulty there.
-/

namespace FormulaMap
namespace Toml

/-- Drops spaces and tabs. -/
def skipBlanks (cs : List Char) : List Char :=
  cs.dropWhile fun c => c == ' ' || c == '\t'

/-- What remains after the end of a line. -/
def afterNewline? : List Char → Option (List Char)
  | '\n' :: rest => some rest
  | '\r' :: '\n' :: rest => some rest
  | _ => none

/-- Whether a character may stand in a comment. -/
def isCommentChar (c : Char) : Bool :=
  c == '\t' || (32 ≤ c.toNat && c.toNat != 127)

/-- Drops a comment, if there is one. -/
def skipComment : List Char → List Char
  | '#' :: rest => rest.dropWhile isCommentChar
  | cs => cs

/-- What remains after blanks, an optional comment and the end of the line or document. -/
def endLine? (cs : List Char) : Option (List Char) :=
  match skipComment (skipBlanks cs) with
  | [] => some []
  | rest => afterNewline? rest

/-- Drops blanks, comments and ends of lines. -/
def skipSpace : Nat → List Char → List Char
  | 0, cs => cs
  | fuel + 1, cs =>
    match skipBlanks cs with
    | '#' :: rest => skipSpace fuel (rest.dropWhile isCommentChar)
    | rest =>
      match afterNewline? rest with
      | some more => skipSpace fuel more
      | none => rest

/-- Whether a character may stand for itself between double quotes. -/
def isBasicChar (c : Char) : Bool :=
  c == '\t' || (32 ≤ c.toNat && c.toNat != 127 && c != '"' && c != '\\')

/-- Whether a character may stand between single quotes. -/
def isLiteralChar (c : Char) : Bool :=
  c == '\t' || (32 ≤ c.toNat && c.toNat != 127 && c != '\'')

/-- The character with a hexadecimal code of so many digits. -/
def readCode? (count : Nat) (cs : List Char) : Option (Char × List Char) :=
  let digits := cs.take count
  if digits.length = count ∧ digits.all Text.isHexDigit then
    let n := digits.foldl (fun n c => 16 * n + Text.hexValue c) 0
    if h : n.isValidChar then some (Char.ofNatAux n h, cs.drop count) else none
  else none

/-- The character that an escape stands for; its backslash has been read. -/
def readEscape? : List Char → Option (Char × List Char)
  | 'b' :: rest => some ('\x08', rest)
  | 't' :: rest => some ('\t', rest)
  | 'n' :: rest => some ('\n', rest)
  | 'f' :: rest => some ('\x0c', rest)
  | 'r' :: rest => some ('\r', rest)
  | '"' :: rest => some ('"', rest)
  | '\\' :: rest => some ('\\', rest)
  | 'u' :: rest => readCode? 4 rest
  | 'U' :: rest => readCode? 8 rest
  | _ => none

/-- The rest of a string between double quotes. -/
def readBasic? : Nat → List Char → Option (List Char × List Char)
  | 0, _ => none
  | fuel + 1, cs =>
    match cs with
    | '"' :: rest => some ([], rest)
    | '\\' :: rest => do
      let (c, rest) ← readEscape? rest
      let (s, rest) ← readBasic? fuel rest
      some (c :: s, rest)
    | c :: rest =>
      if isBasicChar c then do
        let (s, rest) ← readBasic? fuel rest
        some (c :: s, rest)
      else none
    | [] => none

/-- The rest of a string between single quotes. -/
def readLiteral? (cs : List Char) : Option (List Char × List Char) :=
  match cs.dropWhile isLiteralChar with
  | '\'' :: rest => some (cs.takeWhile isLiteralChar, rest)
  | _ => none

/-- Drops blanks and ends of lines. -/
def skipLines : Nat → List Char → List Char
  | 0, cs => cs
  | fuel + 1, cs =>
    match afterNewline? (skipBlanks cs) with
    | some rest => skipLines fuel rest
    | none => skipBlanks cs

/-- The end of a string of several lines, if the text starts with at least three of its quotes;
up to two more belong to the string. -/
def closing? (quote : Char) (cs : List Char) : Option (List Char × List Char) :=
  let count := min 5 (cs.takeWhile (· == quote)).length
  if count < 3 then none else some (List.replicate (count - 3) quote, cs.drop count)

/-- The rest of a string of several lines between double quotes. -/
def readLongBasic? : Nat → List Char → Option (List Char × List Char)
  | 0, _ => none
  | fuel + 1, cs =>
    match closing? '"' cs with
    | some result => some result
    | none =>
      match afterNewline? cs with
      | some rest => do
        let (s, rest) ← readLongBasic? fuel rest
        some ('\n' :: s, rest)
      | none =>
        match cs with
        | '\\' :: rest =>
          match afterNewline? (skipBlanks rest) with
          | some more => readLongBasic? fuel (skipLines more.length more)
          | none => do
            let (c, rest) ← readEscape? rest
            let (s, rest) ← readLongBasic? fuel rest
            some (c :: s, rest)
        | c :: rest =>
          if c == '"' || isBasicChar c then do
            let (s, rest) ← readLongBasic? fuel rest
            some (c :: s, rest)
          else none
        | [] => none

/-- The rest of a string of several lines between single quotes. -/
def readLongLiteral? : Nat → List Char → Option (List Char × List Char)
  | 0, _ => none
  | fuel + 1, cs =>
    match closing? '\'' cs with
    | some result => some result
    | none =>
      match afterNewline? cs with
      | some rest => do
        let (s, rest) ← readLongLiteral? fuel rest
        some ('\n' :: s, rest)
      | none =>
        match cs with
        | c :: rest =>
          if c == '\'' || isLiteralChar c then do
            let (s, rest) ← readLongLiteral? fuel rest
            some (c :: s, rest)
          else none
        | [] => none

/-- A string of any kind. -/
def readString? (cs : List Char) : Option (List Char × List Char) :=
  let fuel := cs.length + 1
  match cs with
  | '"' :: '"' :: '"' :: rest => readLongBasic? fuel ((afterNewline? rest).getD rest)
  | '"' :: rest => readBasic? fuel rest
  | '\'' :: '\'' :: '\'' :: rest => readLongLiteral? fuel ((afterNewline? rest).getD rest)
  | '\'' :: rest => readLiteral? rest
  | _ => none

/-- Whether a character may stand in a key without quotes. -/
def isKeyChar (c : Char) : Bool :=
  Text.isAsciiLetter c || Text.isAsciiDigit c || c == '_' || c == '-'

/-- One part of a key. -/
def readKeyPart? (cs : List Char) : Option (String × List Char) :=
  match cs with
  | '"' :: rest => (readBasic? (cs.length + 1) rest).map fun (s, rest) => (String.ofList s, rest)
  | '\'' :: rest => (readLiteral? rest).map fun (s, rest) => (String.ofList s, rest)
  | _ =>
    match cs.takeWhile isKeyChar with
    | [] => none
    | part => some (String.ofList part, cs.dropWhile isKeyChar)

/-- How deep arrays and tables between braces may be nested, and how many parts a key may have:
fewer than this. -/
def depthLimit : Nat := 80

/-- The parts of a key, with points between them; blanks around it and its parts are dropped. -/
def readKeyParts? : Nat → List Char → Option (List String × List Char)
  | 0, _ => none
  | fuel + 1, cs => do
    let (part, rest) ← readKeyPart? (skipBlanks cs)
    match skipBlanks rest with
    | '.' :: more =>
      let (parts, rest) ← readKeyParts? fuel more
      some (part :: parts, rest)
    | rest => some ([part], rest)

/-- A key: its parts, if they are not too many. -/
def readKey? (cs : List Char) : Option (List String × List Char) := do
  let (parts, rest) ← readKeyParts? (cs.length + 1) cs
  if parts.length < depthLimit then some (parts, rest) else none

end Toml
end FormulaMap
