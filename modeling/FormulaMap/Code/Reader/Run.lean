import FormulaMap.Code.Reader.Recover

/-!
# Reading a text

All readings of a text are followed from its start to its end.  After every step those that are
clearly worse than others are given up, and those that have become alike are made one.
-/

namespace FormulaMap
namespace Code
namespace Reader

open Automaton

/-- What comes of the actions at a token: the reading has gone on, or something was put together,
with the reading that came of it if there is one, or there was nothing to do. -/
inductive Progress where
  | done
  | reduced (version : Option Nat)
  | nothing
  deriving DecidableEq

namespace Reading

/-- Takes the actions of a reading at a token one after another, until one of them goes on. -/
def act (s : Source) (v : Nat) (g : Growth) : List Action → Progress → Reading → Reading × Progress
  | [], progress, r => (r, progress)
  | a :: rest, progress, r =>
    match a with
    | .shift _ true => act s v g rest progress r
    | .shift next false => (r.push v (some g) next, .done)
    | .skip => (r.push v (some g.asExtra) (r.top v).state, .done)
    | .reduce head length weight production =>
      let (r, version) := r.reduce v head length weight production
      let version := match version, progress with
        | some w, _ => some w
        | none, .reduced old => old
        | none, _ => none
      act s v g rest (.reduced version) r
    | .accept => (r.accept v g, .done)
    | .recover => (r.recover s v g, .done)

/-- Lets a reading wait at a token it can do nothing with. -/
def pause (r : Reading) (v : Nat) (g : Growth) : Reading :=
  let count := (r.top v).count
  r.modifyHead v fun h =>
    { h with status := .paused, lookahead := some g, countAtFault := count }

/-- A keyword as a name. -/
def asName (g : Growth) : Growth :=
  match g with
  | .leaf facts blank text =>
    .leaf { facts with label := .token Token.identifier.index } blank text
  | other => other

/-- Takes a reading over a token: puts together what ends before it, as long as anything does, and
then reads it.  A keyword that there is nothing to do with is read as a name. -/
def overToken (s : Source) (v : Nat) : Nat → Growth → List Action → Reading → Reading
  | 0, _, _, r => r.halt v
  | fuel + 1, g, todo, r =>
    match act s v g todo .nothing r with
    | (r, .done) => r
    | (r, .reduced (some w)) =>
      let r := r.renumber w v
      overToken s v fuel g (actionsFor (r.top v).state g.label) r
    | (r, .reduced none) => r.halt v
    | (r, .nothing) =>
      let state := (r.top v).state
      let named := actions state Token.identifier.index
      if state = 0 then r.recover s v g
      else if g.facts.keyword && g.label != .token Token.identifier.index && !named.isEmpty then
        overToken s v fuel (asName g) named r
      else r.pause v g

/-- A bound on the steps of a reading of a text of some length. -/
def stepBound (length : Nat) : Nat := 100 * length + 10000

/-- Takes a reading over the next token. -/
def step (s : Source) (r : Reading) (v : Nat) : Reading :=
  let top := r.top v
  let g := s.next top.state top.position
  overToken s v (stepBound s.length) g (actionsFor top.state g.label) r

/-- Takes a reading on until it is ahead of all before it; `last` is the furthest place so far. -/
def stepAhead (s : Source) (v : Nat) : Nat → Nat → Reading → Reading × Nat
  | 0, last, r => (r, last)
  | fuel + 1, last, r =>
    if (r.head v).status != .active then (r, last)
    else
      let r := r.step s v
      let position := (r.top v).position
      if last < position || 0 < v && position == last then (r, position)
      else stepAhead s v fuel last r

/-- Takes all readings from a number on ahead. -/
def stepAll (s : Source) : Nat → Nat → Nat → Reading → Reading × Nat
  | 0, _, last, r => (r, last)
  | fuel + 1, v, last, r =>
    if r.heads.size ≤ v then (r, last)
    else
      let (r, last) := stepAhead s v (stepBound s.length) last r
      stepAll s fuel (v + 1) last r

/-- Exchanges two readings. -/
def swap (r : Reading) (i j : Nat) : Reading :=
  let a := r.head i
  let b := r.head j
  (r.modifyHead i fun _ => b).modifyHead j fun _ => a

/-- Compares a reading with those before it, from a number on, and gives up, joins or exchanges
readings.  The result is the number of the reading that is now in its place, or of the one before
if it was given up. -/
def compareBelow (standing : Standing) : Nat → Nat → Nat → Reading → Reading × Nat
  | 0, i, _, r => (r, i)
  | fuel + 1, i, j, r =>
    if i ≤ j then (r, i + 1)
    else
      let (r, other) := r.standing j
      match other.compare standing with
      | .takeFirst => (r.remove i, i)
      | .takeSecond => compareBelow standing fuel (i - 1) j (r.remove j)
      | preference =>
        if r.canMerge j i then (r.merge j i, i)
        else if preference = .preferSecond then
          compareBelow standing fuel i (j + 1) (r.swap i j)
        else compareBelow standing fuel i (j + 1) r

/-- The smaller of two costs, where there may be none. -/
def minCost : Option Nat → Nat → Option Nat
  | none, c => some c
  | some d, c => some (min d c)

/-- Compares all readings from a number on with those before them.  The result tells the lowest
cost of a reading outside a fault. -/
def condenseFrom : Nat → Nat → Option Nat → Reading → Reading × Option Nat
  | 0, _, best, r => (r, best)
  | fuel + 1, i, best, r =>
    if r.heads.size ≤ i then (r, best)
    else if (r.head i).status = .halted then condenseFrom fuel i best (r.remove i)
    else
      let (r, standing) := r.standing i
      let best := if standing.inFault then best else minCost best standing.cost
      let (r, next) := compareBelow standing (2 * r.heads.size + 2) i 0 r
      condenseFrom fuel next best r

/-- Lets the first of the waiting readings go on, unless another is going on, and gives up the
others. -/
def resumeFrom (s : Source) : Nat → Nat → Nat → Bool → Option Nat → Reading →
    Reading × Option Nat
  | 0, _, _, _, best, r => (r, best)
  | fuel + 1, i, count, going, best, r =>
    if count ≤ i then (r, best)
    else
      let h := r.head i
      match h.status, h.lookahead with
      | .paused, some g =>
        if !going && r.accepted < versionBound then
          let cost := r.faultCost i
          let r := r.modifyHead i fun h => { h with status := .active, lookahead := none }
          resumeFrom s fuel (i + 1) count true (some cost) (r.enterFault s i g)
        else resumeFrom s fuel i (count - 1) going best (r.remove i)
      | _, _ => resumeFrom s fuel (i + 1) count true best r

/-- Gives up, joins and resumes readings. -/
def condense (s : Source) (r : Reading) : Reading × Option Nat :=
  let bound := 4 * (r.heads.size + 1) * (r.heads.size + 1)
  let (r, best) := condenseFrom bound 0 none r
  let r := { r with heads := r.heads.extract 0 versionBound }
  resumeFrom s (2 * r.heads.size + 2) 0 r.heads.size false best r

/-- Follows all readings until none is left or none can be better than the tree found. -/
def runFrom (s : Source) : Nat → Nat → Reading → Reading
  | 0, _, r => r
  | fuel + 1, last, r =>
    let (r, last) := stepAll s (stepBound s.length) 0 last r
    let (r, best) := r.condense s
    let settled := match r.finished, best with
      | some g, some cost => g.cost < cost
      | some _, none => true
      | none, _ => false
    if settled || r.heads.isEmpty then r else runFrom s fuel last r

end Reading

/-- The tree of a text, with faults where it is none of the language. -/
def read (text : List Char) : Option Growth :=
  let s := Source.ofText text
  (Reading.runFrom s (Reading.stepBound s.length) 0 (Reading.start 1)).finished

end Reader
end Code
end FormulaMap
