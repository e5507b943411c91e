import FormulaMap.Code.Reader.Reduce

/-!
# Finding the way again

A reading that finds a token it can do nothing with tries three ways: to put in one token that is
missing, to go back to an earlier place from which the token can be read, taking all that was
read since for a fault, and to pass over the token.  Each has its cost, and a way is not tried
where another reading is clearly better.
-/

namespace FormulaMap
namespace Code
namespace Reader

open Automaton

/-- How a reading stands: its cost, the number of nodes since its last fault, its weight, and
whether it is inside a fault. -/
structure Standing where
  cost : Nat
  count : Nat
  weight : Int
  inFault : Bool

/-- How one of two readings compares with the other. -/
inductive Preference where
  | takeFirst
  | preferFirst
  | none
  | preferSecond
  | takeSecond
  deriving DecidableEq

/-- A difference in cost, multiplied by the nodes read since, from which the cheaper of two
readings is taken. -/
def costBound : Nat := 1800

/-- Compares two readings. -/
def Standing.compare (a b : Standing) : Preference :=
  if !a.inFault && b.inFault then if a.cost < b.cost then .takeFirst else .preferFirst
  else if a.inFault && !b.inFault then if b.cost < a.cost then .takeSecond else .preferSecond
  else if a.cost < b.cost then
    if costBound < (b.cost - a.cost) * (1 + a.count) then .takeFirst else .preferFirst
  else if b.cost < a.cost then
    if costBound < (a.cost - b.cost) * (1 + b.count) then .takeSecond else .preferSecond
  else if b.weight < a.weight then .preferFirst
  else if a.weight < b.weight then .preferSecond
  else .none

/-- How far down a reading looks for an earlier place. -/
def summaryDepth : Nat := 16

namespace Reading

/-- How a reading stands. -/
def standing (r : Reading) (v : Nat) : Reading × Standing :=
  let r := r.settleCount v
  let paused := (r.head v).status == .paused
  let top := r.top v
  (r, ⟨r.faultCost v + if paused then Growth.skippedCost else 0, r.countSinceFault v, top.weight,
    paused || top.state == 0⟩)

/-- Whether one of the readings from a number on is better than a reading that would stand in a
certain way. -/
def anyBetter (v : Nat) (s : Standing) : Nat → Nat → Reading → Reading × Bool
  | 0, _, r => (r, false)
  | n + 1, i, r =>
    if i == v || (r.head i).status != .active || (r.top i).position < (r.top v).position then
      anyBetter v s n (i + 1) r
    else
      let (r, other) := r.standing i
      match s.compare other with
      | .takeSecond => (r, true)
      | .preferSecond => if r.canMerge i v then (r, true) else anyBetter v s n (i + 1) r
      | _ => anyBetter v s n (i + 1) r

/-- Whether there is something better than a reading at a certain cost. -/
def betterExists (r : Reading) (v cost : Nat) : Reading × Bool :=
  if (r.finished.map fun g => decide (g.cost ≤ cost)).getD false then (r, true)
  else
    let r := r.settleCount v
    anyBetter v ⟨cost, r.countSinceFault v, (r.top v).weight, false⟩ r.heads.size 0 r

/-- Takes what was read since an earlier place, to a certain depth, for a fault and goes on from
that place.  The result tells whether that was possible. -/
def returnTo (r : Reading) (v depth goal : Nat) : Reading × Bool :=
  let (r, slices) := r.popCount v depth
  let (r, last) := slices.foldl (fun ((r, last) : Reading × Option Nat) slice =>
    if last = some slice.version then (r, last)
    else if (r.top slice.version).state != goal then (r.halt slice.version, last)
    else
      let (r, fault) := r.popFault slice.version
      let before := (fault.head?.map Growth.children).getD []
      let (inside, trailing) := splitTrailing (before ++ slice.growths)
      let r := if inside.isEmpty then r
        else r.push slice.version (some (Growth.node .fault none inside).asExtra) goal
      let r := trailing.foldl (fun r g => r.push slice.version (some g) goal) r
      (r, some slice.version)) (r, none)
  (r, last.isSome)

/-- The cost of passing over a stretch of text with a number of nodes. -/
def passingCost (nodes : Nat) (passed : Extent) : Nat :=
  nodes * Growth.skippedCost + passed.bytes + passed.rows * Growth.rowCost

/-- The actions of a state at a token of some label. -/
def actionsFor (state : Nat) : Label → List Action
  | .token n => actions state n
  | _ => []

/-- Tries the earlier places of a reading, nearest first. -/
def tryEarlier (s : Source) (v cost known : Nat) (nodes : Nat) (lookahead : Label) :
    List Earlier → Reading → Reading × Bool
  | [], r => (r, false)
  | e :: rest, r =>
    let position := (r.top v).position
    let taken := (List.range known).any fun j =>
      (r.top j).state == e.state && (r.top j).position == position
    if e.state == 0 || e.position == position || taken then
      tryEarlier s v cost known nodes lookahead rest r
    else
      let passed := Extent.ofText (s.between e.position position)
      let (r, better) := r.betterExists v (cost + passingCost e.depth passed)
      if better then (r, false)
      else if (actionsFor e.state lookahead).isEmpty then
        tryEarlier s v cost known nodes lookahead rest r
      else
        match r.returnTo v (if nodes > 0 then e.depth + 1 else e.depth) e.state with
        | (r, true) => (r, true)
        | (r, false) => tryEarlier s v cost known nodes lookahead rest r

/-- Takes away the readings from a number on that have ended. -/
def removeHalted (r : Reading) (initial : Nat) : Reading :=
  { r with heads := (r.heads.toList.zipIdx.filter fun (h, i) =>
      i < initial || h.status == .active).map (·.1) |>.toArray }

/-- Whether comments of a label may stand at the start of a text. -/
def isSkipped (label : Label) : Bool := (actionsFor 1 label).getLast? == some .skip

/-- Passes over a token: it becomes part of the fault the reading is in. -/
def passToken (r : Reading) (v nodes : Nat) (g : Growth) : Reading :=
  let skipped := if isSkipped g.label then g.asExtra else g
  let run := Growth.node .faultRun none [skipped]
  if nodes > 0 then
    let (r, slices) := r.popCount v 1
    match slices with
    | [] => r.push v (some run) 0
    | slice :: others =>
      let r := if others.isEmpty then r
        else { r with heads := r.heads.extract 0 (slice.version + 1) }
      let r := r.renumber slice.version v
      r.push v (some (Growth.node .faultRun none (slice.growths ++ [run]))) 0
  else r.push v (some run) 0

/-- Goes on inside a fault: from an earlier place, by passing over the token, or both. -/
def recover (s : Source) (r : Reading) (v : Nat) (g : Growth) : Reading :=
  let known := r.heads.size
  let r := r.settleCount v
  let nodes := r.countSinceFault v
  let cost := r.faultCost v
  let (r, returned) :=
    match (r.head v).summary with
    | some places =>
      if g.label = Label.fault then (r, false)
      else r.tryEarlier s v cost known nodes g.label places
    | none => (r, false)
  let r := r.removeHalted known
  if returned && versionBound < r.heads.size then r.halt v
  else if g.label = Label.token endPosition then
    (r.push v (some (Growth.node .fault none [])) 1).accept v g
  else
    let (r, better) := r.betterExists v (cost + passingCost 1 g.extent)
    if better then r.halt v else r.passToken v nodes g

/-- The state behind a token, or none if there is no way on. -/
def stateBehind (state n : Nat) : Nat :=
  match (actions state n).getLast? with
  | some (.shift next _) => next
  | some .skip => state
  | _ => 0

/-- Whether the first thing a state does at a token is to put something together. -/
def reducesAt (state : Nat) (label : Label) : Bool :=
  match (actionsFor state label).head? with
  | some (.reduce _ _ _ _) => true
  | _ => false

/-- Looks for a token that may have been left out before a token, and follows the reading in
which it is put in. -/
def putMissing (r : Reading) (v : Nat) (lookahead : Label) : List Nat → Reading × Bool
  | [] => (r, false)
  | n :: rest =>
    let state := (r.top v).state
    let next := stateBehind state n
    if next == 0 || next == state || !reducesAt next lookahead then putMissing r v lookahead rest
    else
      let version := r.heads.size
      let r := (r.copy v).push version (some (Growth.missing n)) next
      match r.reduceBefore version lookahead with
      | (r, true) => (r, true)
      | (r, false) => putMissing r v lookahead rest

/-- Looks for a missing token in several readings, until one is found, and lets each of them go
into a fault. -/
def enterFaults (lookahead : Label) : List Nat → Bool → Reading → Reading
  | [], _, r => r
  | v :: rest, found, r =>
    let (r, found) := if found then (r, true) else r.putMissing v lookahead tokenOrder
    enterFaults lookahead rest found (r.push v none 0)

/-- Makes a number of readings one with another, each of which is the next in its turn. -/
def mergeAll (v next : Nat) : Nat → Reading → Reading
  | 0, r => r
  | n + 1, r => mergeAll v next n (if r.canMerge v next then r.merge v next else r)

/-- What a reading does that has found a token it can do nothing with. -/
def enterFault (s : Source) (r : Reading) (v : Nat) (g : Growth) : Reading :=
  let initial := r.heads.size
  let (r, _) := r.reduceBeforeAny v
  let count := r.heads.size
  let r := r.enterFaults g.label (v :: (List.range count).drop initial) false
  let r := r.mergeAll v initial (count - initial)
  (r.recordSummary v summaryDepth).recover s v g

end Reading
end Reader
end Code
end FormulaMap
