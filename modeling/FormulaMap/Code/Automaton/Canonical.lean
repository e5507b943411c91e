import FormulaMap.Code.Automaton.Item

/-!
# States

A state of the reader is a set of items, its core, with the tokens that may follow each of them.
All states are found from the first by following every symbol that may come next.  What follows
the items of the next state is computed once for each core, in terms of what follows its own.
-/

namespace FormulaMap
namespace Code
namespace Automaton

open Grammar

/-- What may follow an item of the next core: tokens known from the core alone, and whatever
follows the items of this core at certain positions. -/
structure Inherited where
  item : Nat
  inside : TokenSet
  sources : TokenSet
  deriving DecidableEq

/-- The way from a core under a symbol. -/
structure Transition where
  symbol : Symbol
  target : Nat
  follow : Array (TokenSet × List Nat)

/-- An item at whose end a core stands, with what may follow it: tokens known from the core
alone, and whatever follows the items of the core at certain positions. -/
structure Ending where
  item : Nat
  inside : TokenSet
  sources : List Nat

/-- What follows from a core: the items that end in it, in the order of consideration, and the
ways from it. -/
structure Outlook where
  endings : List Ending
  ways : Array Transition

/-- A core: its items in increasing order, and what follows from it, once that is known. -/
structure Core where
  items : Array Nat
  outlook : Option Outlook

/-- A state: its core, what may follow each item, and the next states, in the order of the ways
from the core. -/
structure State where
  core : Nat
  follow : Array TokenSet
  targets : Array Nat

/-- The cores and states found so far.  Cores are looked up by their first item, and states by
their core. -/
structure Collection where
  cores : Array Core
  coresByItem : Array (List Nat)
  states : Array State
  statesByCore : Array (List Nat)

/-- Adds what follows an item to what is known of others, in increasing order of items. -/
def insertInherited (i : Inherited) : List Inherited → List Inherited
  | [] => [i]
  | j :: rest =>
    if i.item < j.item then i :: j :: rest
    else if i.item = j.item then
      ⟨j.item, j.inside ||| i.inside, j.sources ||| i.sources⟩ :: rest
    else j :: insertInherited i rest

/-- The phrases at the left edge of what items expect, each with what may follow it, in place of
an item. -/
def expected (core : Array Nat) : Array (Option Inherited) :=
  (List.range core.size).foldl (fun found k =>
    let i := item (core.getD k 0)
    match i.next with
    | some (.phrase n) =>
      let follow : Inherited := match (item i.advance).next with
        | some s => ⟨0, first s, 0⟩
        | none => ⟨0, 0, TokenSet.single k⟩
      (leftEdges.getD n []).foldl (fun found e =>
        let new : Inherited :=
          if e.reaches then ⟨e.phrase, e.inside ||| follow.inside, follow.sources⟩
          else ⟨e.phrase, e.inside, 0⟩
        found.modify e.phrase fun
          | none => some new
          | some old => some ⟨e.phrase, old.inside ||| new.inside, old.sources ||| new.sources⟩)
        found
    | _ => found) (Array.replicate headCount none)

/-- The position of a symbol in the order of all symbols: the tokens come first. -/
def symbolPosition : Symbol → Nat
  | .token n => n
  | .phrase n => tokenCount + n

/-- The symbol of a position. -/
def symbolAt (n : Nat) : Symbol := if n < tokenCount then .token n else .phrase (n - tokenCount)

/-- The items behind each symbol that a core expects, with what may follow them, given the phrases
at its left edges. -/
def behindSymbols (core : Array Nat) (edges : Array (Option Inherited)) :
    Array (List Inherited) :=
  let empty := Array.replicate (tokenCount + headCount) []
  let direct := (List.range core.size).foldl (fun behind k =>
    let i := item (core.getD k 0)
    match i.next with
    | some s =>
      behind.modify (symbolPosition s) (insertInherited ⟨i.advance, 0, TokenSet.single k⟩)
    | none => behind) empty
  edges.foldl (fun behind e =>
    match e with
    | none => behind
    | some e =>
      (productionsOf.getD e.item []).foldl (fun behind p =>
        match p.steps with
        | [] => behind
        | s :: _ =>
          behind.modify (symbolPosition s.symbol)
            (insertInherited ⟨itemAt p.number 1, e.inside, e.sources⟩)) behind) direct

/-- The items that end in a core: its own, and those of the empty productions of the phrases at
its left edges. -/
def endings (core : Array Nat) (edges : Array (Option Inherited)) : List Ending :=
  let own := (List.range core.size).filterMap fun k =>
    let i := core.getD k 0
    if (item i).next.isNone then some (⟨i, 0, [k]⟩ : Ending) else none
  let empties := edges.toList.flatMap fun e =>
    match e with
    | none => []
    | some e =>
      ((productionsOf.getD e.item []).filter (·.steps.isEmpty)).map fun p =>
        (⟨itemAt p.number 0, e.inside, TokenSet.members core.size e.sources⟩ : Ending)
  (own ++ empties).mergeSort fun a b =>
    !Item.isBefore (item b.item, b.item) (item a.item, a.item)

namespace Collection

/-- The number of a core, which is added unless it is known. -/
def addCore (c : Collection) (core : Array Nat) : Collection × Nat :=
  let key := core.getD 0 0
  match (c.coresByItem.getD key []).find? fun i => (c.cores[i]?.map (·.items)) == some core with
  | some i => (c, i)
  | none =>
    let i := c.cores.size
    ({ c with
        cores := c.cores.push ⟨core, none⟩
        coresByItem := c.coresByItem.modify key (i :: ·)
        statesByCore := c.statesByCore.push [] }, i)

/-- The number of a state, which is added unless it is known. -/
def addState (c : Collection) (core : Nat) (follow : Array TokenSet) : Collection × Nat :=
  match (c.statesByCore.getD core []).find? fun i =>
      (c.states[i]?.map (·.follow)) == some follow with
  | some i => (c, i)
  | none =>
    let i := c.states.size
    ({ c with
        states := c.states.push ⟨core, follow, #[]⟩
        statesByCore := c.statesByCore.modify core (i :: ·) }, i)

/-- The ways from a core to others, which are added unless they are known. -/
def addWays (c : Collection) (size : Nat) (behind : List (List Inherited × Nat)) :
    Collection × Array Transition :=
  behind.foldl (fun ((c, ways) : Collection × Array Transition) (items, position) =>
    if items.isEmpty then (c, ways)
    else
      let (c, target) := c.addCore (items.map (·.item)).toArray
      let follow := items.map fun i => (i.inside, TokenSet.members size i.sources)
      (c, ways.push ⟨symbolAt position, target, follow.toArray⟩)) (c, #[])

/-- What follows from a core, found when first asked for. -/
def outlook (c : Collection) (core : Nat) : Collection × Outlook :=
  match c.cores.getD core ⟨#[], none⟩ with
  | ⟨_, some known⟩ => (c, known)
  | ⟨items, none⟩ =>
    let edges := expected items
    let (c, ways) := c.addWays items.size (behindSymbols items edges).toList.zipIdx
    let found : Outlook := ⟨endings items edges, ways⟩
    ({ c with cores := c.cores.modify core fun k => { k with outlook := some found } }, found)

/-- Finds the states that follow a state. -/
def expand (c : Collection) (state : Nat) : Collection :=
  match c.states[state]? with
  | none => c
  | some s =>
    let (c, outlook) := c.outlook s.core
    let (c, targets) := outlook.ways.foldl (fun ((c, targets) : Collection × Array Nat) way =>
      let follow := way.follow.map fun (inside, sources) =>
        sources.foldl (fun set k => set ||| s.follow.getD k 0) inside
      let (c, target) := c.addState way.target follow
      (c, targets.push target)) (c, #[])
    { c with states := c.states.modify state fun s => { s with targets := targets } }

/-- Finds all states that follow those from a number on. -/
def expandFrom : Nat → Collection → Nat → Collection
  | 0, c, _ => c
  | fuel + 1, c, state =>
    if state < c.states.size then expandFrom fuel (c.expand state) (state + 1) else c

/-- The collection of the state without items, given the number of all items. -/
def onlyLost (count : Nat) : Collection :=
  ⟨#[⟨#[], some ⟨[], #[]⟩⟩], Array.replicate count [], #[⟨0, #[], #[]⟩], #[[0]]⟩

/-- Adds a state of one item, with what may follow that. -/
def addSingle (c : Collection) (first : Nat) (follow : TokenSet) : Collection :=
  let (c, core) := c.addCore #[first]
  (c.addState core #[follow]).1

end Collection

/-- More states than there are. -/
def stateBound : Nat := 20000

/-- All states.  The first has no items: it is where a reader is that has lost its way.  The second
is where reading starts. -/
def canonical : Collection :=
  let start :=
    (Collection.onlyLost items.size).addSingle startItem (TokenSet.single endPosition)
  Collection.expandFrom stateBound start 1

end Automaton
end Code
end FormulaMap
