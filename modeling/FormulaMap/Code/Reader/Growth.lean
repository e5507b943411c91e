import FormulaMap.Code.Automaton.Table
import FormulaMap.Text.CharacterRange

/-!
# Trees under construction

What a reader has put together so far: tokens with their texts, phrases, and stretches of text
that no rule accounts for.  Every tree knows its extent and what it costs: a tree without faults
costs nothing, and of two readings of one text the cheaper is kept.
-/

namespace FormulaMap
namespace Code
namespace Reader

open Automaton

/-- The extent of a text in characters, bytes and rows. -/
structure Extent where
  characters : Nat
  bytes : Nat
  rows : Nat
  deriving DecidableEq

namespace Extent

/-- The extent of no text. -/
def zero : Extent := ⟨0, 0, 0⟩

/-- The extent of two texts one behind the other. -/
def add (a b : Extent) : Extent :=
  ⟨a.characters + b.characters, a.bytes + b.bytes, a.rows + b.rows⟩

/-- The extent of a text. -/
def ofText (cs : List Char) : Extent := ⟨cs.length, Text.byteLength cs, cs.count '\n'⟩

end Extent

/-- What a tree stands for: a token or the end of the text, by its position; a phrase, by its
number; a stretch of text that no rule accounts for; or a part of such a stretch that may still
grow. -/
inductive Label where
  | token (position : Nat)
  | phrase (head : Nat)
  | fault
  | faultRun
  deriving DecidableEq

namespace Label

/-- Whether a tree of this sort is a node of its own. -/
def isShown : Label → Bool
  | .token n => (Token.all[n]?.map fun t => !t.isHidden).getD false
  | .phrase head => isNamed head || head == Phrase.textBlockFragment.index
  | .fault => true
  | .faultRun => false

/-- Whether a tree stands for text that no rule accounts for. -/
def isFaulty (l : Label) : Bool := l == .fault || l == .faultRun

/-- The place of a label in the order that decides between readings that are equal otherwise: the
end of the text, names, the other tokens, phrases, faults. -/
def place : Label → Nat
  | .token n =>
    if n = endPosition then 0 else if n = Token.identifier.index then 1 else n + 2
  | .phrase head => tokenCount + 2 + head
  | .fault => tokenCount + 2 + Grammar.headCount
  | .faultRun => tokenCount + 3 + Grammar.headCount

end Label

/-- What is known of a tree: its label, the extents of the blank text before it and of its own
text, its cost and weight, the numbers of nodes below it and directly below it, whether it may
stand anywhere, as a comment may, whether it was put in because it was missing, and whether it is
a keyword. -/
structure Facts where
  label : Label
  gap : Extent
  size : Extent
  cost : Nat
  weight : Int
  below : Nat
  directlyBelow : Nat
  extra : Bool
  missing : Bool
  keyword : Bool

/-- A tree under construction: a token with the blank text before it and its own text, or a row
of trees put together, by a production unless it is a fault. -/
inductive Growth where
  | leaf (facts : Facts) (blank text : List Char)
  | branch (facts : Facts) (production : Option Nat) (children : List Growth)

namespace Growth

/-- What is known of a tree. -/
def facts : Growth → Facts
  | .leaf facts _ _ => facts
  | .branch facts _ _ => facts

/-- The trees a tree is put together from. -/
def children : Growth → List Growth
  | .leaf _ _ _ => []
  | .branch _ _ children => children

/-- The label of a tree. -/
def label (g : Growth) : Label := g.facts.label

/-- The extent of a tree with the blank text before it. -/
def extent (g : Growth) : Extent := g.facts.gap.add g.facts.size

/-- The cost of a token that was put in because it was missing. -/
def missingCost : Nat := 610

/-- The cost of a fault, without that of its extent. -/
def faultCost : Nat := 500

/-- The cost of a node that is passed over in a fault. -/
def skippedCost : Nat := 100

/-- The cost of a row inside a fault. -/
def rowCost : Nat := 30

/-- The cost of a tree. -/
def cost (g : Growth) : Nat := if g.facts.missing then missingCost else g.facts.cost

/-- The same tree, as one that may stand anywhere. -/
def asExtra : Growth → Growth
  | .leaf facts blank text => .leaf { facts with extra := true } blank text
  | .branch facts production children =>
    .branch { facts with extra := true } production children

/-- The number of nodes of a tree. -/
def nodeCount (g : Growth) : Nat :=
  g.facts.below + (if g.label.isShown then 1 else 0) + (if g.label = .faultRun then 1 else 0)

/-- A token with its texts. -/
def token (label : Label) (blank text : List Char) (keyword : Bool) : Growth :=
  .leaf ⟨label, .ofText blank, .ofText text, 0, 0, 0, 0, false, false, keyword⟩ blank text

/-- A token that was missing. -/
def missing (position : Nat) : Growth :=
  .leaf ⟨.token position, .zero, .zero, 0, 0, 0, 0, false, true, false⟩ [] []

/-- Which children of a production's phrase are shown as another kind; those that may stand
anywhere are none of its symbols. -/
def renamings : List Growth → List Grammar.Step → List Bool
  | [], _ => []
  | g :: rest, steps =>
    if g.facts.extra then false :: renamings rest steps
    else (steps.head?.any (·.kind.isSome)) :: renamings rest (steps.drop 1)

/-- The steps of a production. -/
def stepsOf (production : Option Nat) : List Grammar.Step :=
  ((production.bind fun n => Grammar.productions[n]?).map (·.steps)).getD []

/-- What a child adds to the cost of a fault it is in. -/
def costInFault (g : Growth) : Nat :=
  if g.facts.extra || g.label = .fault && g.children.isEmpty then 0
  else if g.label.isShown then skippedCost
  else if g.children.isEmpty then 0
  else skippedCost * g.facts.directlyBelow

/-- The sum of what the elements of a list contribute. -/
def total (share : α → Nat) (xs : List α) : Nat :=
  xs.foldr (fun x n => share x + n) 0

/-- What is known of a tree put together from others. -/
def join (label : Label) (production : Option Nat) (children : List Growth) : Facts :=
  let gap := (children.head?.map (·.facts.gap)).getD .zero
  let size := match children with
    | [] => Extent.zero
    | first :: rest => rest.foldl (fun size g => size.add g.extent) first.facts.size
  let own := total (fun g => if g.label = .faultRun then 0 else g.cost) children
  let shown := (children.zip (renamings children (stepsOf production))).map fun (g, renamed) =>
    (g, renamed && g.label != Label.token endPosition || g.label.isShown)
  let below := total (fun (g, shown) => g.facts.below + if shown then 1 else 0) shown
  let directlyBelow := total
    (fun (g, shown) =>
      if shown then 1 else if g.children.isEmpty then 0 else g.facts.directlyBelow)
    shown
  let inFault := if label.isFaulty then
      total costInFault children + faultCost + size.bytes + rowCost * size.rows
    else 0
  let weight := children.foldr (fun g n => g.facts.weight + n) 0
  ⟨label, gap, size, own + inFault, weight, below, directlyBelow, false, false, false⟩

/-- A tree put together from others. -/
def node (label : Label) (production : Option Nat) (children : List Growth) : Growth :=
  .branch (join label production children) production children

/-- The same tree with a weight added. -/
def weigh (weight : Int) : Growth → Growth
  | .leaf facts blank text => .leaf { facts with weight := facts.weight + weight } blank text
  | .branch facts production children =>
    .branch { facts with weight := facts.weight + weight } production children

mutual

/-- Compares two trees by their labels, their numbers of children and then their children. -/
def compare : Growth → Growth → Ordering
  | .leaf a _ _, h => (Ord.compare a.label.place h.label.place).then
      (Ord.compare 0 h.children.length)
  | .branch a _ children, h => (Ord.compare a.label.place h.label.place).then
      ((Ord.compare children.length h.children.length).then (compareAll children h.children))

/-- Compares the trees of two lists one after another. -/
def compareAll : List Growth → List Growth → Ordering
  | g :: gs, h :: hs => (compare g h).then (compareAll gs hs)
  | _, _ => .eq

end

/-- Whether the second of two readings is to be kept: it is cheaper, or it costs the same and
weighs more, or, of two without faults and of equal weight, its labels come first. -/
def prefersSecond (g h : Growth) : Bool :=
  if h.cost < g.cost then true
  else if g.cost < h.cost then false
  else if g.facts.weight < h.facts.weight then true
  else if h.facts.weight < g.facts.weight then false
  else if g.cost > 0 then true
  else compare g h == .gt

end Growth
end Reader
end Code
end FormulaMap
