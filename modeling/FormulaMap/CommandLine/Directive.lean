import FormulaMap.CommandLine.Log
import FormulaMap.CommandLine.ValuePattern
import FormulaMap.Text.Alphabetic
import FormulaMap.Text.Blank
import FormulaMap.Text.Bytes
import FormulaMap.Text.Numeric
import FormulaMap.Text.Pieces

/-!
# Directives

One part of a filter of the log.  A directive names the level up to which events are let through.
In front of an equals sign it may say for which events that holds: those whose target has a
beginning, and, between brackets, those inside a span of a name or those with values of some names.
Blanks at its ends count for nothing when its parts are told apart, but the parts are cut out of
the text with the blanks, at the same distance in bytes from its start.
-/

namespace FormulaMap
namespace CommandLine

/-- A value that a directive asks for: its name, and whether it also says what the value is. -/
structure Wanted where
  name : String
  hasValue : Bool
  deriving DecidableEq, Repr

/-- A directive: what it asks of an event, and the highest rank it lets through. -/
structure Directive where
  target : Option String
  span : Option String
  values : List Wanted
  rank : Nat
  deriving DecidableEq, Repr

namespace Directive

/-- The directive that asks for nothing and lets everything through. -/
def any : Directive := ⟨none, none, [], 5⟩

/-- The rank that a text names. -/
def rank? (cs : List Char) : Option Nat :=
  let digits := match cs with
    | '+' :: rest => rest
    | rest => rest
  let word := String.ofList (cs.map Text.asciiLower)
  if !digits.isEmpty && digits.all Text.isAsciiDigit then
    let n := digits.foldl (fun n c => 10 * n + Text.digitValue c) 0
    if n ≤ 5 then some n else none
  else if word = "error" then some 1
  else if word = "warn" then some 2
  else if word = "info" then some 3
  else if word = "debug" then some 4
  else if word = "trace" then some 5
  else if word = "off" then some 0
  else none

/-- Where in a directive a character stands.  The number is where the part begins. -/
inductive Place where
  | start
  /-- In a level, or in the beginning of targets. -/
  | word (start : Nat)
  | span (start : Nat)
  | value (start : Nat)
  /-- Behind the closing brace. -/
  | afterValues
  /-- Behind the closing bracket. -/
  | afterSpan
  | level (start : Nat)
  deriving DecidableEq, Repr

/-- The value that a text asks for: a name, and behind an equals sign what the value is, up to
another equals sign.  A text is needed. -/
def wanted? (cs : List Char) : Option Wanted :=
  let name := cs.takeWhile (· != '=')
  match cs.drop name.length with
  | [] => if cs.isEmpty then none else some ⟨String.ofList name, false⟩
  | _ :: value =>
    if saysValue (value.takeWhile (· != '=')) then some ⟨String.ofList name, true⟩ else none

/-- What one more character leads to, given what has been read up to a place; nothing if it cannot
stand there. -/
def step? (part : Nat → List Char) (next : Nat) (c : Char) :
    Place × Directive → Option (Place × Directive)
  | (.start, d) =>
    if c == '[' then some (.span next, d)
    else if c == '-' || c == ':' || c == '_' || Text.isAlphabetic c || Text.isNumeric c then
      some (.word 0, d)
    else none
  | (.word start, d) =>
    let target := some (String.ofList (part start))
    if c == '=' then some (.level next, { d with target := target })
    else if c == '[' then some (.span next, { d with target := target })
    else some (.word start, d)
  | (.span start, d) =>
    let name := String.ofList (part start)
    if c == ']' then some (.afterSpan, { d with span := some name })
    else if c == '{' then
      some (.value next, { d with span := if name.isEmpty then none else some name })
    else some (.span start, d)
  | (.value start, d) =>
    if c == '}' then
      (wanted? (part start)).map fun value =>
        (.afterValues, { d with values := d.values ++ [value] })
    else some (.value start, d)
  | (.afterValues, d) => if c == ']' then some (.afterSpan, d) else none
  | (.afterSpan, d) => if c == '=' then some (.level next, d) else none
  | (.level start, d) => some (.level start, d)

/-- Reads characters, of which the first stands at a distance from the start. -/
def run? (whole : List Char) : Nat → Place × Directive → List Char → Option (Place × Directive)
  | _, s, [] => some s
  | here, s, c :: rest =>
    let next := here + c.utf8Size
    let part := fun start => Text.takeBytes (here - start) (Text.dropBytes start whole)
    (step? part next c s).bind fun s => run? whole next s rest

/-- The directive at the end of a text.  A level that is left out lets everything through, and a
word that names no level is the beginning of targets. -/
def finish? (whole : List Char) : Place × Directive → Option Directive
  | (.word start, d) =>
    let word := Text.dropBytes start whole
    match rank? word with
    | some rank => some { d with rank := rank }
    | none => some { d with target := some (String.ofList word) }
  | (.level start, d) =>
    let word := Text.dropBytes start whole
    if word.isEmpty then some d else (rank? word).map fun rank => { d with rank := rank }
  | (.afterSpan, d) => some d
  | _ => none

/-- The directive that a text stands for. -/
def read? (whole : List Char) : Option Directive :=
  (run? whole 0 (.start, any) (Text.trim whole)).bind (finish? whole)

/-- Whether a directive can be about events: those about spans and about what values are cannot. -/
def isAboutEvents (d : Directive) : Bool :=
  d.span.isNone && d.values.all (!·.hasValue)

/-- Whether a directive about events is about this one. -/
def concerns (d : Directive) (e : Event) : Bool :=
  d.target.all (fun target => Text.opensWith target.toList e.target.toList) &&
    d.values.all fun value => e.valueNames.contains value.name

/-- The order of lists of names. -/
def namesOrder : List String → List String → Ordering
  | [], [] => .eq
  | [], _ :: _ => .lt
  | _ :: _, [] => .gt
  | a :: as, b :: bs => (compare a b).then (namesOrder as bs)

/-- The order of directives by how much they ask for: the longer beginning of targets counts first,
then the number of values, then the order of names. -/
def order (a b : Directive) : Ordering :=
  let size := fun (d : Directive) => d.target.elim 0 (·.utf8ByteSize + 1)
  let names := fun (d : Directive) => d.target.toList ++ d.values.map (·.name)
  (compare (size a) (size b)).then <|
    (compare a.values.length b.values.length).then (namesOrder (names a) (names b))

end Directive
end CommandLine
end FormulaMap
