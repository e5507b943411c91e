import FormulaMap.Code.Reader.Growth

/-!
# The stacks of a reading

Where several readings are possible they are followed side by side, each with a stack of states
and trees.  Stacks share what they have in common: an element of a stack may be reached by
several ways, each with the element below and the tree between.  Two readings that have come to
one state at one place at the same cost become one.
-/

namespace FormulaMap
namespace Code
namespace Reader

open Automaton

/-- A way from an element of a stack to the one below: the number of that element and the tree
between, if there is one. -/
structure Link where
  node : Nat
  growth : Option Growth

/-- An element of a stack: a state, the ways down, how far the text has been read, and the cost,
the number of nodes and the weight of what was read. -/
structure StackNode where
  state : Nat
  links : List Link
  position : Nat
  cost : Nat
  count : Nat
  weight : Int

/-- The bottom of every stack. -/
def StackNode.bottom (state : Nat) : StackNode := ⟨state, [], 0, 0, 0, 0⟩

/-- Whether a reading goes on, waits because it found a fault, or has ended. -/
inductive Status where
  | active
  | paused
  | halted
  deriving DecidableEq

/-- A place further down in a stack. -/
structure Earlier where
  position : Nat
  depth : Nat
  state : Nat

/-- A reading: the element on top of its stack, the number of nodes when it last met a fault, the
token it met that fault at, and the places it might go back to. -/
structure Head where
  node : Nat
  countAtFault : Nat
  status : Status
  lookahead : Option Growth
  summary : Option (List Earlier)

/-- All readings of a text: the elements of their stacks, the readings, the best tree found so
far, and how often a reading came to the end. -/
structure Reading where
  nodes : Array StackNode
  heads : Array Head
  finished : Option Growth
  accepted : Nat

/-- The most ways down from one element. -/
def linkBound : Nat := 8

/-- The most stacks that are walked down at once. -/
def walkBound : Nat := 64

namespace Reading

/-- The start of a reading in a state. -/
def start (state : Nat) : Reading :=
  ⟨#[.bottom state], #[⟨0, 0, .active, none, none⟩], none, 0⟩

/-- The element of a number. -/
def node (r : Reading) (n : Nat) : StackNode := r.nodes.getD n (.bottom 0)

/-- The reading of a number. -/
def head (r : Reading) (v : Nat) : Head := r.heads.getD v ⟨0, 0, .halted, none, none⟩

/-- The element on top of a reading's stack. -/
def top (r : Reading) (v : Nat) : StackNode := r.node (r.head v).node

/-- Changes a reading. -/
def modifyHead (r : Reading) (v : Nat) (f : Head → Head) : Reading :=
  { r with heads := r.heads.modify v f }

/-- Ends a reading. -/
def halt (r : Reading) (v : Nat) : Reading := r.modifyHead v fun h => { h with status := .halted }

/-- Takes a reading away; those behind it move up. -/
def remove (r : Reading) (v : Nat) : Reading :=
  { r with heads := r.heads.eraseIdxIfInBounds v }

/-- Adds a reading with the same stack as another. -/
def copy (r : Reading) (v : Nat) : Reading :=
  let h := r.head v
  { r with heads := r.heads.push ⟨h.node, h.countAtFault, .active, none, none⟩ }

/-- Puts a tree and a state on a stack.  Where there is no tree the reading has met a fault. -/
def push (r : Reading) (v : Nat) (growth : Option Growth) (state : Nat) : Reading :=
  let h := r.head v
  let below := r.node h.node
  let above : StackNode :=
    match growth with
    | none => ⟨state, [⟨h.node, none⟩], below.position, below.cost, below.count, below.weight⟩
    | some g =>
      ⟨state, [⟨h.node, growth⟩], below.position + g.extent.characters, below.cost + g.cost,
        below.count + g.nodeCount, below.weight + g.facts.weight⟩
  let fault := if growth.isNone then above.count else h.countAtFault
  let heads := r.heads.set! v { h with node := r.nodes.size, countAtFault := fault }
  { r with heads := heads, nodes := r.nodes.push above }

/-- The weight of a tree that there may be. -/
def weightOf (g : Option Growth) : Int := (g.map (·.facts.weight)).getD 0

/-- Whether two trees may stand for each other: they are of one sort and both have faults, or they
have the same extent, as many children and are both of those that may stand anywhere or not. -/
def alike : Option Growth → Option Growth → Bool
  | none, none => true
  | some g, some h =>
    g.label == h.label &&
      (g.cost > 0 && h.cost > 0 ||
        g.facts.gap.bytes == h.facts.gap.bytes && g.facts.size.bytes == h.facts.size.bytes &&
          g.children.length == h.children.length && g.facts.extra == h.facts.extra)
  | _, _ => false

/-- Whether two elements may become one. -/
def StackNode.meets (a b : StackNode) : Bool :=
  a.state == b.state && a.position == b.position && a.cost == b.cost

/-- Adds a way down from an element.  A tree like one there is already stands for it if the
elements below are one or may become one; then the heavier tree is kept. -/
def addLink : Nat → Reading → Nat → Link → Reading
  | 0, r, _, _ => r
  | fuel + 1, r, self, link =>
    if link.node = self then r
    else
      let s := r.node self
      let below := r.node link.node
      let weight := below.weight + weightOf link.growth
      let matching (old : Link) : Bool :=
        alike old.growth link.growth &&
          (old.node == link.node || StackNode.meets (r.node old.node) below)
      match s.links.findIdx? matching with
      | some k =>
        match s.links[k]? with
        | none => r
        | some old =>
          if old.node = link.node then
            if weightOf old.growth < weightOf link.growth then
              { r with nodes := r.nodes.modify self fun s =>
                  { s with links := s.links.set k link, weight := weight } }
            else r
          else
            let r := below.links.foldl (fun r l => addLink fuel r old.node l) r
            { r with nodes := r.nodes.modify self fun s =>
                { s with weight := max s.weight weight } }
      | none =>
        if s.links.length = linkBound then r
        else
          let count := below.count + (link.growth.map Growth.nodeCount).getD 0
          { r with nodes := r.nodes.modify self fun s =>
              { s with
                links := s.links ++ [link]
                count := max s.count count
                weight := max s.weight weight } }

/-- Whether two readings may become one. -/
def canMerge (r : Reading) (a b : Nat) : Bool :=
  (r.head a).status == .active && (r.head b).status == .active &&
    StackNode.meets (r.top a) (r.top b)

/-- Makes two readings one; the second is taken away. -/
def merge (r : Reading) (a b : Nat) : Reading :=
  let target := (r.head a).node
  let links := (r.top b).links
  let bound := r.nodes.size
  let joined := links.foldl (fun r l => addLink bound r target l) r
  let top := joined.top a
  let joined := if top.state = 0 then
      joined.modifyHead a fun h => { h with countAtFault := top.count }
    else joined
  joined.remove b

/-- Puts a reading in the place of an earlier one, which is taken away. -/
def renumber (r : Reading) (a b : Nat) : Reading :=
  if a = b then r
  else
    let source := r.head a
    let summary := source.summary.or (r.head b).summary
    (r.modifyHead b fun _ => { source with summary := summary }).remove a

/-- A walk down a stack: the element reached, the trees passed, the lowest first, and the number of
those that may not stand anywhere. -/
structure Walker where
  node : Nat
  growths : List Growth
  count : Nat

/-- What a walk found: the trees passed, the lowest first, and the reading whose stack ends where
the walk ended. -/
structure Slice where
  growths : List Growth
  version : Nat

/-- What to do on a walk: end it, take what was passed, or both. -/
structure Verdict where
  stop : Bool
  take : Bool

/-- Takes what a walk passed: the stack below becomes that of a new reading, unless an earlier walk
ended there. -/
def addSlice (r : Reading) (v : Nat) (slices : List Slice) (w : Walker) : Reading × List Slice :=
  let ends (s : Slice) : Bool := (r.head s.version).node == w.node
  match slices.reverse.findIdx? ends with
  | some k =>
    let place := slices.length - k
    let version := ((slices[place - 1]?).map (·.version)).getD 0
    (r, slices.take place ++ ⟨w.growths, version⟩ :: slices.drop place)
  | none =>
    let version := r.heads.size
    ({ r with heads := r.heads.push ⟨w.node, (r.head v).countAtFault, .active, none, none⟩ },
      slices ++ [⟨w.growths, version⟩])

/-- A walk one element further down. -/
def Walker.follow (w : Walker) (link : Link) : Walker :=
  match link.growth with
  | none => ⟨link.node, w.growths, w.count + 1⟩
  | some g => ⟨link.node, g :: w.growths, if g.facts.extra then w.count else w.count + 1⟩

/-- One step of every walk: those that go on and those that branch off. -/
def walkRound {σ : Type} (decide : σ → Walker → StackNode → σ × Verdict) (v : Nat) :
    List Walker → List Walker → List Walker → σ → Reading → List Slice →
      List Walker × σ × Reading × List Slice
  | [], kept, added, s, r, slices => (kept.reverse ++ added, s, r, slices)
  | w :: rest, kept, added, s, r, slices =>
    let node := r.node w.node
    let (s, verdict) := decide s w node
    let (r, slices) := if verdict.take then addSlice r v slices w else (r, slices)
    match node.links with
    | [] => walkRound decide v rest kept added s r slices
    | link :: others =>
      if verdict.stop then walkRound decide v rest kept added s r slices
      else
        let room := walkBound - (kept.length + 1 + rest.length + added.length)
        let branches := (others.take room).map w.follow
        walkRound decide v rest (w.follow link :: kept) (added ++ branches) s r slices

/-- Walks down all stacks of a reading until every walk has ended. -/
def walkRounds {σ : Type} (decide : σ → Walker → StackNode → σ × Verdict) (v : Nat) :
    Nat → List Walker → σ → Reading → List Slice → σ × Reading × List Slice
  | 0, _, s, r, slices => (s, r, slices)
  | _, [], s, r, slices => (s, r, slices)
  | fuel + 1, walkers, s, r, slices =>
    let (walkers, s, r, slices) := walkRound decide v walkers [] [] s r slices
    walkRounds decide v fuel walkers s r slices

/-- Walks down all stacks of a reading. -/
def walk {σ : Type} (decide : σ → Walker → StackNode → σ × Verdict) (s : σ) (r : Reading)
    (v : Nat) : σ × Reading × List Slice :=
  walkRounds decide v (r.nodes.size + 1) [⟨(r.head v).node, [], 0⟩] s r []

/-- Takes a number of trees off a reading's stack. -/
def popCount (r : Reading) (v count : Nat) : Reading × List Slice :=
  (walk (fun (_ : Unit) w _ => ((), if w.count = count then ⟨true, true⟩ else ⟨false, false⟩))
    () r v).2

/-- Takes all trees off a reading's stack. -/
def popAll (r : Reading) (v : Nat) : Reading × List Slice :=
  (walk (fun (_ : Unit) _ node => ((), ⟨false, node.links.isEmpty⟩)) () r v).2

/-- Whether a tree is a fault. -/
def isFault (g : Growth) : Bool := g.label == .fault

/-- Takes the fault off a reading's stack that lies on top of it, if one does. -/
def popFault (r : Reading) (v : Nat) : Reading × List Growth :=
  if (r.top v).links.any fun l => (l.growth.map isFault).getD false then
    let (_, r, slices) := walk (fun (found : Bool) w _ =>
      match w.growths.getLast? with
      | none => (found, ⟨false, false⟩)
      | some g => if !found && isFault g then (true, ⟨true, true⟩) else (found, ⟨true, false⟩))
      false r v
    match slices with
    | [] => (r, [])
    | slice :: _ => (r.renumber slice.version v, slice.growths)
  else (r, [])

/-- Notes the places further down in a reading's stack, to a certain depth. -/
def recordSummary (r : Reading) (v depth : Nat) : Reading :=
  let (found, r, _) := walk (fun (found : List Earlier) w node =>
    if depth < w.count then (found, ⟨true, false⟩)
    else
      let known := (found.takeWhile fun e => !(e.depth < w.count)).any fun e =>
        e.depth == w.count && e.state == node.state
      (if known then found else ⟨node.position, w.count, node.state⟩ :: found, ⟨false, false⟩))
    [] r v
  r.modifyHead v fun h => { h with summary := some found.reverse }

/-- The cost of a reading, with that of the fault it has just met. -/
def faultCost (r : Reading) (v : Nat) : Nat :=
  let top := r.top v
  let fresh := (r.head v).status == .paused ||
    top.state == 0 && (top.links.head?.map (·.growth.isNone)).getD false
  top.cost + if fresh then Growth.faultCost else 0

/-- Corrects the number of nodes at the last fault, which is never more than there are now. -/
def settleCount (r : Reading) (v : Nat) : Reading :=
  let count := (r.top v).count
  r.modifyHead v fun h => { h with countAtFault := min h.countAtFault count }

/-- The number of nodes since the last fault. -/
def countSinceFault (r : Reading) (v : Nat) : Nat :=
  (r.top v).count - (r.head v).countAtFault

end Reading
end Reader
end Code
end FormulaMap
