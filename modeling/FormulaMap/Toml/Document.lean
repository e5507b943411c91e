import FormulaMap.Toml.Table
import FormulaMap.Toml.Text

/-!
# Documents of TOML

Values, the lines of a document, and the table that a whole document gives.
-/

namespace FormulaMap
namespace Toml

mutual
/-- The value a text starts with. -/
def readItem? : Nat → Nat → List Char → Option (Item × List Char)
  | 0, _, _ => none
  | fuel + 1, depth, cs =>
    match cs with
    | '"' :: _ => (readString? cs).map fun (s, rest) => (.text (String.ofList s), rest)
    | '\'' :: _ => (readString? cs).map fun (s, rest) => (.text (String.ofList s), rest)
    | '[' :: rest =>
      if depth + 1 < depthLimit then
        (readElements? fuel (depth + 1) rest).map fun (items, rest) => (.array items, rest)
      else none
    | '{' :: rest =>
      if depth + 1 < depthLimit then
        match skipBlanks rest with
        | '}' :: more => some (.closed [], more)
        | _ => (readMembers? fuel (depth + 1) [] rest).map fun (ms, rest) => (.closed ms, rest)
      else none
    | _ => (readScalar? cs).map fun (s, rest) => (.scalar s, rest)

/-- The elements of an array up to its closing bracket. -/
def readElements? : Nat → Nat → List Char → Option (List Item × List Char)
  | 0, _, _ => none
  | fuel + 1, depth, cs =>
    match skipSpace cs.length cs with
    | ']' :: rest => some ([], rest)
    | start => do
      let (item, rest) ← readItem? fuel depth start
      match skipSpace rest.length rest with
      | ',' :: more =>
        let (items, rest) ← readElements? fuel depth more
        some (item :: items, rest)
      | ']' :: more => some ([item], more)
      | _ => none

/-- The members of a table between braces up to its closing brace. -/
def readMembers? : Nat → Nat → Members → List Char → Option (Members × List Char)
  | 0, _, _, _ => none
  | fuel + 1, depth, ms, cs => do
    let (path, rest) ← readKey? cs
    let rest ← after? '=' rest
    let (item, rest) ← readItem? fuel depth (skipBlanks rest)
    let ms ← ms.set path.dropLast (path.getLast?.getD "") item
    match skipBlanks rest with
    | ',' :: more => readMembers? fuel depth ms more
    | '}' :: more => some (ms, more)
    | _ => none
end

/-- A document as far as it has been read: its table, and the path of the last header. -/
structure Draft where
  members : Members
  header : List String

/-- Reads one header and what stands behind it on its line. -/
def readHeader? (d : Draft) (cs : List Char) : Option (Draft × List Char) := do
  let (isElement, cs) := match cs with
    | '[' :: rest => (true, rest)
    | rest => (false, rest)
  let (path, rest) ← readKey? cs
  let rest ← after? ']' rest
  let rest ← if isElement then after? ']' rest else some rest
  let rest ← endLine? rest
  let key := path.getLast?.getD ""
  let members ←
    if isElement then d.members.openElement path.dropLast key
    else d.members.openTable path.dropLast key
  some (⟨members, path⟩, rest)

/-- Reads one key, its value and what stands behind it on its line. -/
def readPair? (d : Draft) (cs : List Char) : Option (Draft × List Char) := do
  let (path, rest) ← readKey? cs
  let rest ← after? '=' rest
  let (item, rest) ← readItem? (rest.length + 1) 0 (skipBlanks rest)
  let rest ← endLine? rest
  let members ← d.members.setWithin d.header path.dropLast (path.getLast?.getD "") item
  some (⟨members, d.header⟩, rest)

/-- Reads lines up to the end of the document. -/
def readLines? : Nat → Draft → List Char → Option Members
  | 0, _, _ => none
  | fuel + 1, d, cs =>
    match skipSpace cs.length cs with
    | [] => some d.members
    | '[' :: rest => do
      let (d, rest) ← readHeader? d rest
      readLines? fuel d rest
    | rest => do
      let (d, rest) ← readPair? d rest
      readLines? fuel d rest

/-- The table that a document gives, unless it is faulty; a byte order mark at its start is
passed over. -/
def document? (text : String) : Option Members :=
  let cs := match text.toList with
    | '\uFEFF' :: rest => rest
    | cs => cs
  readLines? (cs.length + 1) ⟨[], []⟩ cs

end Toml
end FormulaMap
