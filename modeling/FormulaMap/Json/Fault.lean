import FormulaMap.Json.Value
import FormulaMap.Text.Shown

/-!
# Faults of JSON documents

Why a text is not the JSON document that was asked for, and where.  A place is kept as the number
of bytes that were not read yet; the line and the column follow from it once the whole text is
known.  A fault that a reader of typed values finds has no place of its own: it is placed where
the enclosing value ends.
-/

namespace FormulaMap
namespace Json

/-- What was found where something of another type was expected. -/
inductive Found where
  | null
  | bool (b : Bool)
  | natural (n : Nat)
  | negative (n : Nat)
  | floating (value : Binary.Value)
  | string (s : String)
  | sequence
  | map
  deriving Repr

/-- The reason why a text is refused. -/
inductive Reason where
  | endInList
  | endInObject
  | endInString
  | endInValue
  | expectedColon
  | expectedListEnd
  | expectedObjectEnd
  | expectedIdent
  | expectedValue
  | invalidEscape
  | invalidNumber
  | numberOutOfRange
  | controlCharacter
  | keyNotString
  | loneSurrogate
  | trailingComma
  | trailingCharacters
  | hexEscapeEnd
  | recursionLimit
  | invalidType (found : Found) (expected : String)
  | invalidValue (found : Found) (expected : String)
  | invalidLength (length : Nat) (expected : String)
  | missingField (field : String)
  | duplicateField (field : String)
  | unknownVariant (variant : String) (expected : List String)
  deriving Repr

/-- A reason and its place. -/
inductive Fault where
  /-- At a place that this many bytes follow. -/
  | at (reason : Reason) (left : Nat)
  /-- Inside a value of which this much is still to be read. -/
  | within (reason : Reason) (rest : List Char)
  deriving Repr

namespace Found

/-- The description of what was found. -/
def message : Found → String
  | null => "null"
  | bool b => "boolean `" ++ (if b then "true" else "false") ++ "`"
  | natural n => "integer `" ++ Decimal.text n ++ "`"
  | negative n => "integer `-" ++ Decimal.text n ++ "`"
  | floating v => "floating point `" ++ (Number.floating Binary.double v).text ++ "`"
  | string s => "string " ++ Text.shown s
  | sequence => "sequence"
  | map => "map"

/-- A number that was found. -/
def ofNumber : Number → Found
  | .natural n => natural n
  | .negative n => negative n
  | .floating _ v => floating v

end Found

/-- Names as a message lists them. -/
def oneOf : List String → String
  | [] => "there are no variants"
  | [a] => "expected `" ++ a ++ "`"
  | [a, b] => "expected `" ++ a ++ "` or `" ++ b ++ "`"
  | names => "expected one of " ++ ", ".intercalate (names.map fun n => "`" ++ n ++ "`")

namespace Reason

/-- The wording of a reason. -/
def message : Reason → String
  | endInList => "EOF while parsing a list"
  | endInObject => "EOF while parsing an object"
  | endInString => "EOF while parsing a string"
  | endInValue => "EOF while parsing a value"
  | expectedColon => "expected `:`"
  | expectedListEnd => "expected `,` or `]`"
  | expectedObjectEnd => "expected `,` or `\x7d`"
  | expectedIdent => "expected ident"
  | expectedValue => "expected value"
  | invalidEscape => "invalid escape"
  | invalidNumber => "invalid number"
  | numberOutOfRange => "number out of range"
  | controlCharacter => "control character (\\u0000-\\u001F) found while parsing a string"
  | keyNotString => "key must be a string"
  | loneSurrogate => "lone leading surrogate in hex escape"
  | trailingComma => "trailing comma"
  | trailingCharacters => "trailing characters"
  | hexEscapeEnd => "unexpected end of hex escape"
  | recursionLimit => "recursion limit exceeded"
  | invalidType found expected => "invalid type: " ++ found.message ++ ", expected " ++ expected
  | invalidValue found expected => "invalid value: " ++ found.message ++ ", expected " ++ expected
  | invalidLength length expected =>
    "invalid length " ++ Decimal.text length ++ ", expected " ++ expected
  | missingField field => "missing field `" ++ field ++ "`"
  | duplicateField field => "duplicate field `" ++ field ++ "`"
  | unknownVariant variant expected =>
    "unknown variant `" ++ variant ++ "`, " ++ oneOf expected

end Reason

/-- The line, counted from one, and the column, in bytes since the last newline, of the place
that follows the first `read` bytes of a text. -/
def positionAfter (read line column : Nat) : List Char → Nat × Nat
  | [] => (line, column)
  | c :: rest =>
    if read = 0 then (line, column)
    else if read < c.utf8Size then (line, column + read)
    else if c == '\n' then positionAfter (read - 1) (line + 1) 0 rest
    else positionAfter (read - c.utf8Size) line (column + c.utf8Size) rest

namespace Fault

/-- The reason of a fault. -/
def reason : Fault → Reason
  | .at reason _ => reason
  | .within reason _ => reason

/-- The number of bytes behind the place of a fault. -/
def left : Fault → Nat
  | .at _ left => left
  | .within _ rest => Text.byteLength rest

/-- The wording of a fault found in a text. -/
def message (source : List Char) (e : Fault) : String :=
  let (line, column) := positionAfter (Text.byteLength source - e.left) 1 0 source
  e.reason.message ++ " at line " ++ Decimal.text line ++ " column " ++ Decimal.text column

/-- A fault at the place where the unread text starts. -/
def here (reason : Reason) (rest : List Char) : Fault :=
  .at reason (Text.byteLength rest)

/-- A fault one byte behind the place where the unread text starts, if there is such a byte. -/
def next (reason : Reason) (rest : List Char) : Fault :=
  .at reason (Text.byteLength rest - 1)

/-- Places a fault that has no place yet at the end of the value it lies in, given what is left
to read there. -/
def settle (close : List Char → List Char) : Fault → Fault
  | .at reason left => .at reason left
  | .within reason rest => here reason (close rest)

end Fault
end Json
end FormulaMap
