import FormulaMap.Code.Automaton.Edge

/-!
# Items

An item is a production with a place in it: what stands before the place has been read.  Two
items of one phrase are the same if the rest, the marks of what was read and the rank and side
at the place agree; which symbols were read makes no difference.
-/

namespace FormulaMap
namespace Code
namespace Automaton

open Grammar

/-- What tells an item from another. -/
structure ItemKey where
  head : Nat
  place : Nat
  length : Nat
  weight : Int
  rank : Option Int
  side : Option Side
  marks : List (Option Kind × Option Field)
  rest : List Step
  deriving DecidableEq

/-- The item of a production at a place. -/
def itemKey (p : Production) (place : Nat) : ItemKey :=
  let done := p.steps.take place
  let before := done.getLast?
  ⟨p.head, place, p.steps.length, p.weight, before.bind (·.rank), before.bind (·.side),
    done.map fun s => (s.kind, s.part), p.steps.drop place⟩

/-- An item: its phrase, its place, the length and weight of its production, the rank and side at
the place, the symbol behind it, one of its productions, and the item one place further. -/
structure Item where
  head : Nat
  place : Nat
  length : Nat
  weight : Int
  rank : Int
  side : Option Side
  next : Option Symbol
  production : Nat
  advance : Nat

/-- The items numbered so far: the keys of each phrase with their numbers, all items, and the
numbers of the items of each production. -/
structure Numbering where
  known : Array (List (ItemKey × Nat))
  items : Array Item
  ofProduction : Array (Array Nat)

/-- Numbers the item of a production at a place, unless it is known.  What follows it is filled
in when the next place is numbered. -/
def Numbering.add (n : Numbering) (p : Production) (numbers : Array Nat) (place : Nat) :
    Numbering × Array Nat :=
  let key := itemKey p place
  match (n.known.getD p.head []).lookup key with
  | some i => (n, numbers.push i)
  | none =>
    let i := n.items.size
    let item : Item :=
      ⟨p.head, place, key.length, key.weight, key.rank.getD 0, key.side,
        key.rest.head?.map (·.symbol), p.number, 0⟩
    ({ n with known := n.known.modify p.head ((key, i) :: ·), items := n.items.push item },
      numbers.push i)

/-- Numbers the items of a production. -/
def Numbering.addProduction (n : Numbering) (p : Production) : Numbering :=
  let (n, numbers) := (List.range (p.steps.length + 1)).foldl
    (fun (n, numbers) place => n.add p numbers place) (n, #[])
  { n with ofProduction := n.ofProduction.push numbers }

/-- Fills in what follows each item of a production. -/
def linkItems (items : Array Item) (numbers : Array Nat) : Array Item :=
  (numbers.toList.zip (numbers.toList.drop 1)).foldl
    (fun items (i, next) => items.modify i fun item => { item with advance := next }) items

/-- The numbering of all items. -/
def numbering : Numbering :=
  let n := productions.foldl Numbering.addProduction ⟨Array.replicate headCount [], #[], #[]⟩
  { n with items := n.ofProduction.foldl linkItems n.items }

/-- The number of the item with which reading starts: a whole source text is to come. -/
def startItem : Nat := numbering.items.size

/-- The head of the items for a whole source text. -/
def wholeText : Nat := headCount

/-- All items; the last two are those before and behind a whole source text. -/
def items : Array Item :=
  numbering.items.push
      ⟨wholeText, 0, 1, 0, 0, none, some (.phrase Phrase.program.index), 0, startItem + 1⟩
    |>.push ⟨wholeText, 1, 1, 0, 0, none, none, 0, 0⟩

/-- What is in the place of an item that there is not. -/
def noItem : Item := ⟨0, 0, 0, 0, 0, none, none, 0, 0⟩

/-- The item of a number. -/
def item (i : Nat) : Item := items.getD i noItem

/-- The item of a production at a place. -/
def itemAt (production place : Nat) : Nat :=
  (numbering.ofProduction.getD production #[]).getD place 0

/-- The order in which the items at whose end a reading stands are considered. -/
def Item.isBefore (i j : Item × Nat) : Bool :=
  let a := i.1
  let b := j.1
  if a.place != b.place then a.place < b.place
  else if a.head != b.head then a.head < b.head
  else if a.weight != b.weight then a.weight < b.weight
  else if a.length != b.length then a.length < b.length
  else if a.rank != b.rank then a.rank < b.rank
  else i.2 < j.2

end Automaton
end Code
end FormulaMap
