import FormulaMap.Text.Alphabetic
import FormulaMap.Text.Blank
import FormulaMap.Text.Numeric
import FormulaMap.Text.Pieces

/-!
# Files of variables

A file of variables has one assignment on each line, or on several lines when a quote stays open.
Reading stops at the first fault; what was assigned before it counts.  A value may refer to
variables by their names, those of the environment first and then those assigned before.
-/

namespace FormulaMap
namespace VariableFile

/-- The variables of an environment. -/
abbrev Variables := List (String × String)

/-- How far a physical line has come: what its last character leaves open. -/
inductive Ending where
  | complete
  | blank
  | escape
  | single
  | singleEscape
  | double
  | doubleEscape
  deriving DecidableEq, Repr

/-- What one more character leaves open; nothing if it starts a comment. -/
def Ending.next? (c : Char) : Ending → Option Ending
  | .complete =>
    if Text.isBlank c && c != '\n' && c != '\r' then some .blank
    else some (opened c)
  | .blank => if c == '#' then none else some (opened c)
  | .escape => some .complete
  | .single => some (if c == '\\' then .singleEscape else if c == '\'' then .complete else .single)
  | .singleEscape => some .single
  | .double => some (if c == '\\' then .doubleEscape else if c == '"' then .complete else .double)
  | .doubleEscape => some .double
where
  /-- What a character leaves open outside quotes. -/
  opened (c : Char) : Ending :=
    if c == '\\' then .escape
    else if c == '"' then .double
    else if c == '\'' then .single
    else .complete

/-- What a line leaves open, or how many of its characters stand before a comment. -/
def scanLine : Ending → Nat → List Char → Ending ⊕ Nat
  | ending, _, [] => .inl ending
  | ending, count, c :: rest =>
    match ending.next? c with
    | none => .inr count
    | some ending => scanLine ending (count + 1) rest

/-- Cuts a text behind each of its newlines. -/
def physicalLines : List Char → List (List Char)
  | [] => []
  | c :: rest =>
    if c == '\n' then [c] :: physicalLines rest
    else
      match physicalLines rest with
      | [] => [[c]]
      | line :: lines => (c :: line) :: lines

/-- A line without the newline it ends with. -/
def withoutNewline (line : List Char) : List Char :=
  match Text.before? ['\n'] line with
  | some body => Text.dropReturn body
  | none => line

/-- Joins physical lines as long as a quote stays open.  The last entry is nothing if the text
ends with one open. -/
def logicalLines : Ending → List Char → List (List Char) → List (Option (List Char))
  | ending, _, [] => if ending = .complete then [] else [none]
  | ending, begun, line :: rest =>
    let whole := begun ++ line
    if Text.opensWith ['#'] (Text.trimStart whole) then
      some [] :: logicalLines .complete [] rest
    else
      match scanLine ending 0 line with
      | .inr count => some (begun ++ line.take count) :: logicalLines .complete [] rest
      | .inl .complete => some (withoutNewline whole) :: logicalLines .complete [] rest
      | .inl ending => logicalLines ending whole rest

/-- What is known when a value is read: the environment, and what was assigned before. -/
structure Known where
  environment : Variables
  assigned : Variables

/-- What a reference to a variable stands for. -/
def Known.resolve (k : Known) (name : List Char) : List Char :=
  let name := String.ofList name
  ((k.environment.lookup name).getD ((k.assigned.lookup name).getD "")).toList

/-- How a reference is written: not at all, with its name only, or with braces. -/
inductive Reference where
  | none
  | bare
  | braced
  deriving DecidableEq, Repr

/-- How far a value has been read. -/
structure Progress where
  output : List Char
  single : Bool
  double : Bool
  escaped : Bool
  ended : Bool
  reference : Reference
  name : List Char

namespace Progress

/-- The start of a value. -/
def start : Progress := ⟨[], false, false, false, false, .none, []⟩

/-- Adds a character to the value. -/
def push (p : Progress) (c : Char) : Progress := { p with output := p.output ++ [c] }

/-- Adds what the reference stands for. -/
def resolved (k : Known) (p : Progress) : Progress :=
  { p with output := p.output ++ k.resolve p.name, name := [], reference := .none }

/-- One character behind the start of a reference. -/
def refer (k : Known) (p : Progress) (c : Char) : Progress :=
  if Text.isAlphabetic c || Text.isNumeric c then { p with name := p.name ++ [c] }
  else
    match p.reference with
    | .braced =>
      if c == '}' then p.resolved k else { p with name := p.name ++ [c] }
    | _ =>
      if c == '{' && p.name.isEmpty then { p with reference := .braced }
      else if c == '$' then { p.resolved k with reference := .bare }
      else (p.resolved k).push c

/-- One more character of a value; nothing if it cannot stand there, and whether the value ends
before a comment. -/
def step? (k : Known) (p : Progress) (c : Char) : Option (Progress × Bool) :=
  if p.ended then
    if c == ' ' || c == '\t' then some (p, false)
    else if c == '#' then some (p, true)
    else none
  else if p.escaped then
    let plain := { p with escaped := false }
    if c == '\\' || c == '\'' || c == '"' || c == '$' || c == ' ' then some (plain.push c, false)
    else if c == 'n' then some (plain.push '\n', false)
    else none
  else if p.single then
    some (if c == '\'' then { p with single := false } else p.push c, false)
  else if p.reference ≠ .none then some (p.refer k c, false)
  else if c == '$' then some ({ p with reference := .bare }, false)
  else if p.double then
    some (if c == '"' then { p with double := false }
      else if c == '\\' then { p with escaped := true } else p.push c, false)
  else if c == '\'' then some ({ p with single := true }, false)
  else if c == '"' then some ({ p with double := true }, false)
  else if c == '\\' then some ({ p with escaped := true }, false)
  else if c == ' ' || c == '\t' then some ({ p with ended := true }, false)
  else some (p.push c, false)

/-- Reads the characters of a value. -/
def run? (k : Known) : Progress → List Char → Option Progress
  | p, [] => some p
  | p, c :: rest =>
    match p.step? k c with
    | none => none
    | some (p, true) => some p
    | some (p, false) => run? k p rest

end Progress

/-- The value that the text behind an equals sign stands for. -/
def value? (k : Known) (cs : List Char) : Option (List Char) := do
  let p ← Progress.start.run? k cs
  if p.reference = .braced ∨ p.single ∨ p.double then none
  else some (p.resolved k).output

/-- Whether a character may stand in the name of a variable. -/
def isNameChar (c : Char) : Bool :=
  Text.isAsciiLetter c || Text.isAsciiDigit c || c == '_' || c == '.'

/-- The name a line starts with. -/
def name? : List Char → Option (List Char × List Char)
  | [] => none
  | c :: rest =>
    if Text.isAsciiLetter c || c == '_' then
      some ((c :: rest).takeWhile isNameChar, Text.trimStart ((c :: rest).dropWhile isNameChar))
    else none

/-- The name that a line assigns to and the text behind its equals sign.  The word `export` may
stand in front. -/
def assignment? (line : List Char) : Option (List Char × List Char) := do
  let (name, rest) ← name? line
  if name = "export".toList then
    match Text.after? ['='] rest with
    | some rest => some (name, Text.trimStart rest)
    | none =>
      let (name, rest) ← name? rest
      some (name, Text.trimStart (← Text.after? ['='] rest))
  else some (name, Text.trimStart (← Text.after? ['='] rest))

/-- What a line assigns, if anything; nothing at all if the line is faulty. -/
def readLine? (k : Known) (line : List Char) : Option (Option (String × String)) :=
  let body := Text.trimStart (Text.trimEnd line)
  if body.isEmpty || Text.opensWith ['#'] body then some none
  else do
    let (name, rest) ← assignment? body
    if rest.isEmpty || Text.opensWith ['#'] rest then some (some (String.ofList name, ""))
    else
      let value ← value? k rest
      some (some (String.ofList name, String.ofList value))

/-- Reads logical lines one after another up to the first fault.  A variable that the environment
has already keeps its value there. -/
def readLines (k : Known) : List (Option (List Char)) → Variables
  | [] => k.environment
  | none :: _ => k.environment
  | some line :: rest =>
    match readLine? k line with
    | none => k.environment
    | some none => readLines k rest
    | some (some (name, value)) =>
      let environment :=
        if (k.environment.lookup name).isSome then k.environment
        else k.environment ++ [(name, value)]
      readLines ⟨environment, (name, value) :: k.assigned⟩ rest

/-- The environment with the variables of a file added; a byte order mark at its start is passed
over. -/
def extend (environment : Variables) (text : String) : Variables :=
  let cs := match text.toList with
    | '\uFEFF' :: rest => rest
    | cs => cs
  readLines ⟨environment, []⟩ (logicalLines .complete [] (physicalLines cs))

end VariableFile
end FormulaMap
