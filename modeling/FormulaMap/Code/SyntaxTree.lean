import FormulaMap.Code.Forest
import FormulaMap.Code.Reader.Run

/-!
# Syntax trees

The syntax tree of a source text.  Phrases that only group others, and repetitions, leave no node
of their own: what is inside them stands in their place.
-/

namespace FormulaMap
namespace Code

open Reader

/-- The kind of the node a label stands for. -/
def kindOf : Label → Kind
  | .token n => match Token.all[n]? with
    | some t => .token t
    | none => .fault
  | .phrase head => match Phrase.all[head]? with
    | some p => .phrase p
    | none => .fault
  | .fault | .faultRun => .fault

/-- The forest of a tree whose parts have been planted: the tree as a node, behind the blank text
before it, or its parts alone. -/
def enclose (label : Label) (shownAs : Option Kind) (gap : Nat) (inner : Forest) : Forest :=
  if shownAs.isSome || label.isShown then
    .node (inner.takeBefore gap) none (shownAs.getD (kindOf label)) (inner.dropBefore gap)
      (.text [])
  else inner

mutual

/-- The forest of a tree, shown as a given kind if there is one. -/
def plant (shownAs : Option Kind) : Growth → Forest
  | .leaf facts blank text =>
    enclose facts.label shownAs blank.length (.text (blank ++ text))
  | .branch facts production children =>
    enclose facts.label shownAs facts.gap.characters
      (plantAll (Growth.stepsOf production) children)

/-- The forest of several trees one behind the other, given the steps of the production they are
the symbols of; those that may stand anywhere are none of its symbols. -/
def plantAll (steps : List Grammar.Step) : List Growth → Forest
  | [] => .text []
  | g :: rest =>
    if g.facts.extra then (plant none g).append (plantAll steps rest)
    else
      let step := steps.head?
      ((plant (step.bind (·.kind)) g).nameFirst (step.bind (·.part))).append
        (plantAll (steps.drop 1) rest)

end

/-- The syntax tree of a source text.  Its root is a node, whatever that stands for. -/
def syntaxTree (source : List Char) : Forest :=
  match read source with
  | some g => plant (some (kindOf g.label)) g
  | none => .node [] none .fault (.text source) (.text [])

end Code
end FormulaMap
