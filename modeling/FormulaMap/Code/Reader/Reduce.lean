import FormulaMap.Code.Reader.Scanner

/-!
# Putting together

A reading that has come to the end of a production takes its trees off the stack and puts the
phrase in their place.  Where several stacks lead to one state the preferred tree is kept.
-/

namespace FormulaMap
namespace Code
namespace Reader

open Automaton

/-- The most readings that are followed side by side. -/
def versionBound : Nat := 6

/-- How many more there may be for a moment. -/
def versionReserve : Nat := 4

/-- Trees without those at the end that may stand anywhere, and those. -/
def splitTrailing (gs : List Growth) : List Growth × List Growth :=
  let trailing := (gs.reverse.takeWhile (·.facts.extra)).reverse
  (gs.take (gs.length - trailing.length), trailing)

/-- Gathers what walks found by the reading they ended in. -/
def groupSlices : List Reading.Slice → List (Nat × List (List Growth))
  | [] => []
  | s :: rest =>
    match groupSlices rest with
    | (v, rows) :: groups =>
      if s.version = v then (v, s.growths :: rows) :: groups
      else (s.version, [s.growths]) :: (v, rows) :: groups
    | [] => [(s.version, [s.growths])]

/-- Of several rows of trees the one whose phrase is preferred, with its phrase and the trees
behind it that may stand anywhere. -/
def bestNode (label : Label) (production : Option Nat) (rows : List (List Growth)) :
    Option (Growth × List Growth) :=
  rows.foldl (fun best row =>
    let (row, trailing) := splitTrailing row
    let node := Growth.node label production row
    match best with
    | none => some (node, trailing)
    | some (old, rest) =>
      if old.prefersSecond node then some (node, trailing) else some (old, rest)) none

namespace Reading

/-- The first of some readings that a reading may become one with. -/
def partner? (r : Reading) (v : Nat) (candidates : List Nat) : Option Nat :=
  candidates.find? fun j => r.canMerge j v

/-- Puts the phrase of a production on top of a stack that its trees were taken off, with the trees
behind it. -/
def putNode (r : Reading) (version state : Nat) (weight : Int)
    (found : Growth × List Growth) : Reading :=
  let r := r.push version (some (found.1.weigh weight)) state
  found.2.foldl (fun r g => r.push version (some g) state) r

/-- Puts together the last trees of a reading to a phrase.  The result tells the first of the
readings that come of it, unless there are none. -/
def reduce (r : Reading) (v head length : Nat) (weight : Int) (production : Nat) :
    Reading × Option Nat :=
  let initial := r.heads.size
  let (r, slices) := r.popCount v length
  let halted := (r.heads.filter (·.status == .halted)).size
  let label := Label.phrase head
  let (r, _) := (groupSlices slices).foldl (fun (r, removed) (version, rows) =>
    let version := version - removed
    if version > versionBound + versionReserve + halted then (r.remove version, removed + 1)
    else
      match bestNode label (some production) rows with
      | none => (r, removed)
      | some found =>
        let state := (goto? (r.top version).state head).getD 0
        let r := r.putNode version state weight found
        match r.partner? version ((List.range version).filter (· != v)) with
        | some j => (r.merge j version, removed + 1)
        | none => (r, removed)) (r, 0)
  (r, if initial < r.heads.size then some initial else none)

/-- The tree of a whole text, of the trees on a stack: the last that may not stand anywhere gives
its children to the others. -/
def wholeTree (growths : List Growth) : Option Growth :=
  let isRoot (g : Growth) : Bool := !g.facts.extra && g.label != .token endPosition
  match growths.reverse.findIdx? isRoot with
  | none => none
  | some k =>
    let place := growths.length - 1 - k
    match growths[place]? with
    | some (.branch facts production children) =>
      some (Growth.node facts.label production
        (growths.take place ++ children ++ growths.drop (place + 1)))
    | other => other

/-- Ends a reading at the end of the text; of several trees the preferred one is kept. -/
def accept (r : Reading) (v : Nat) (finish : Growth) : Reading :=
  let r := r.push v (some finish) 1
  let (r, slices) := r.popAll v
  let r := slices.foldl (fun r slice =>
    let better := match r.finished, wholeTree slice.growths with
      | some old, some new => if old.prefersSecond new then some new else some old
      | none, new => new
      | old, none => old
    { r with finished := better, accepted := r.accepted + 1 }) r
  let r := match slices.head? with
    | some slice => r.remove slice.version
    | none => r
  r.halt v

/-- What is put together in a state at some tokens, each phrase once. -/
def reductions (state : Nat) (tokens : List Nat) : List Action :=
  tokens.foldl (fun found n =>
    (actions state n).foldl (fun found a =>
      match a with
      | .reduce head length _ _ =>
        let same (b : Action) : Bool := match b with
          | .reduce h l _ _ => h == head && l == length
          | _ => false
        if length == 0 || found.any same then found else found ++ [a]
      | _ => found) found) []

/-- Whether a state reads one of some tokens. -/
def readsAny (state : Nat) (tokens : List Nat) : Bool :=
  tokens.any fun n => (actions state n).any fun a =>
    match a with
    | .shift _ late => !late
    | .recover => true
    | _ => false

/-- The tokens in the order in which a missing one is looked for. -/
def tokenOrder : List Nat :=
  Token.identifier.index :: (List.range tokenCount).filter (· != Token.identifier.index)

/-- A bound on the rounds of putting together. -/
def reductionBound : Nat := 10000

/-- Puts together all that can be put together in a reading before some tokens; with `narrow`,
readings that cannot go on at those tokens are taken away.  The result tells whether one can. -/
def reduceAll (tokens : List Nat) (narrow : Bool) (start initial : Nat) :
    Nat → Nat → Nat → Bool → Reading → Reading × Bool
  | 0, _, _, can, r => (r, can)
  | fuel + 1, round, v, can, r =>
    let count := r.heads.size
    if count ≤ v then (r, can)
    else
      match r.partner? v ((List.range v).drop initial) with
      | some j => reduceAll tokens narrow start initial fuel (round + 1) v can (r.merge j v)
      | none =>
        let state := (r.top v).state
        let reads := readsAny state tokens
        let (r, last) := (reductions state tokens).foldl (fun ((r, _) : Reading × Option Nat) a =>
          match a with
          | .reduce head length weight production => r.reduce v head length weight production
          | _ => (r, none)) (r, none)
        let next := if v = start then count else v + 1
        if reads then reduceAll tokens narrow start initial fuel (round + 1) next true r
        else
          match last with
          | some w =>
            if round < versionBound then
              reduceAll tokens narrow start initial fuel (round + 1) v can (r.renumber w v)
            else if narrow then
              reduceAll tokens narrow start initial fuel (round + 1) next can (r.remove v)
            else reduceAll tokens narrow start initial fuel (round + 1) next can r
          | none =>
            let r := if narrow then r.remove v else r
            reduceAll tokens narrow start initial fuel (round + 1) next can r

/-- Puts together all that can be put together in a reading before any token. -/
def reduceBeforeAny (r : Reading) (v : Nat) : Reading × Bool :=
  reduceAll tokenOrder false v r.heads.size reductionBound 0 v false r

/-- Puts together all that can be put together in a reading before a token; before the end of the
text that is as before any token. -/
def reduceBefore (r : Reading) (v : Nat) (label : Label) : Reading × Bool :=
  match label with
  | .token n =>
    if n = endPosition then r.reduceBeforeAny v
    else reduceAll [n] true v r.heads.size reductionBound 0 v false r
  | _ => reduceAll [] true v r.heads.size reductionBound 0 v false r

end Reading
end Reader
end Code
end FormulaMap
