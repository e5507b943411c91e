import FormulaMap.Code.SyntaxTree
import FormulaMap.Text.Blank
import FormulaMap.Text.Pieces

/-!
# Syntax faults

A source text is refused if its syntax tree has a stretch of text that no rule accounts for, or a
token that was not there.  The first of them in the order of the text is reported.
-/

namespace FormulaMap
namespace Code

/-- A place in a text: its row and its column, both counted from one. -/
structure Place where
  row : Nat
  column : Nat
  deriving DecidableEq

namespace Place

/-- The start of a text. -/
def start : Place := ⟨1, 1⟩

/-- The place behind a character. -/
def step (p : Place) (c : Char) : Place :=
  if c = '\n' then ⟨p.row + 1, 1⟩ else ⟨p.row, p.column + 1⟩

/-- The place behind a text. -/
def behind (p : Place) (cs : List Char) : Place := cs.foldl step p

end Place

/-- A syntax fault: a stretch of text, or a token that is missing, at a place. -/
inductive Fault where
  | unexpected (text : List Char) (place : Place)
  | missing (kind : Kind) (place : Place)
  deriving DecidableEq

/-- The most characters of a stretch of text that are shown. -/
def snippetLength : Nat := 40

/-- What is shown of a stretch of text: its first line, trimmed and, if it is long, cut. -/
def snippet (text : List Char) : List Char :=
  let line := Text.trim ((Text.lines text).headD [])
  if snippetLength < line.length then line.take snippetLength ++ "...".toList else line

/-- The name of a kind of node in a message. -/
def Kind.name : Kind → String
  | .token t => t.name
  | .phrase _ => "phrase"
  | .typeIdentifier => "type_identifier"
  | .fault => "ERROR"

namespace Fault

/-- The place of a fault. -/
def place : Fault → Place
  | .unexpected _ p => p
  | .missing _ p => p

/-- The words for a fault. -/
def describe : Fault → String
  | .unexpected text _ => "unexpected `" ++ String.ofList (snippet text) ++ "`"
  | .missing kind _ => "missing `" ++ kind.name ++ "`"

/-- The message for a fault. -/
def message (f : Fault) : String :=
  f.describe ++ " at line " ++ toString f.place.row ++ ", column " ++ toString f.place.column

end Fault

/-- What is wrong with a node that is not the root: it is a fault itself, or a token without
text. -/
def Node.fault? (n : Node) (place : Place) : Option Fault :=
  if n.kind = .fault then some (.unexpected n.spelling place)
  else if n.inner.nodes.isEmpty && n.spelling.isEmpty then some (.missing n.kind place)
  else none

/-- Goes through a forest whose nodes are not the root, up to the first fault, or else to the place
behind the forest. -/
def Forest.inspect (place : Place) : Forest → Except Fault Place
  | .text cs => .ok (place.behind cs)
  | .node before _ kind inner after =>
    let here := place.behind before
    match Node.fault? ⟨kind, inner⟩ here with
    | some fault => .error fault
    | none => (inner.inspect here).bind fun place => after.inspect place

/-- The first fault of a syntax tree.  The root is at fault only if it is no source text at
all. -/
def Forest.rootFault? : Forest → Option Fault
  | .text _ => none
  | .node before _ kind inner _ =>
    let here := Place.start.behind before
    if kind = .fault then some (.unexpected inner.spelling here)
    else match inner.inspect here with
      | .error fault => some fault
      | .ok _ => none

end Code
end FormulaMap
