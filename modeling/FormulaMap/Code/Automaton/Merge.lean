import FormulaMap.Code.Automaton.Row
import FormulaMap.Code.Lexis.Overlap

/-!
# Merging states

States of one core are merged where they do the same at every token at which both do something,
where no token of one gets in the way of a token of the other, and where the states that follow
are merged too.  States are divided into groups, at first by their cores, and a group is divided
again until no two of its members differ.
-/

namespace FormulaMap
namespace Code
namespace Automaton

/-- The row of a state. -/
def stateRow (s : Nat) : Row := stateRows.getD s ⟨[], 0, 0, false⟩

/-- What there is for no state. -/
def noState : State := ⟨0, #[], #[]⟩

/-- The state of a number. -/
def state (s : Nat) : State := canonical.states.getD s noState

/-- What follows from the core of a state. -/
def outlookOf (s : State) : Outlook :=
  ((canonical.cores.getD s.core ⟨#[], none⟩).outlook).getD ⟨[], #[]⟩

/-- Whether two rows of one core differ at one of the tokens at which both do something. -/
def Row.contradicts (r : Row) (common : TokenSet) (s : Row) : Bool :=
  (r.reduces.zip s.reduces).any (fun (a, b) => (a.2 ^^^ b.2).meets common) ||
    (r.reads ^^^ s.reads).meets common || (r.late ^^^ s.late).meets common

/-- The tokens at which each state does anything. -/
def stateTokens : Array TokenSet := stateRows.map Row.tokens

/-- Whether two states of one core may not be merged for what they do: they differ at a token, or
a token of one that is none of the other gets in the way of the other's tokens. -/
def rowsDiffer (s t : Nat) : Bool :=
  let a := stateTokens.getD s 0
  let b := stateTokens.getD t 0
  (stateRow s).contradicts (a &&& b) (stateRow t) ||
    Lexis.obstructs (a.without b) b || Lexis.obstructs (b.without a) a

/-- A division of the states into groups: the group of each state, and the members of each group
in increasing order. -/
structure Division where
  groupOf : Array Nat
  members : Array (List Nat)

/-- Whether two states of one core may not be merged because a state that follows one is in
another group than the one that follows the other. -/
def nextsDiffer (d : Division) (s t : Nat) : Bool :=
  let a := state s
  let b := state t
  let r := stateRow s
  let q := stateRow t
  (outlookOf a).ways.toList.zipIdx.any fun (way, k) =>
    let here := match way.symbol with
      | .token n => r.reads.has n && q.reads.has n
      | .phrase _ => true
    here && d.groupOf.getD (a.targets.getD k 0) 0 != d.groupOf.getD (b.targets.getD k 0) 0

/-- The members of a list that stay together: each differs from none of those before it that
stay. -/
def stayTogether (differ : Nat → Nat → Bool) (ids : List Nat) : List Nat :=
  (ids.foldl (fun stay s => if stay.any (differ · s) then stay else s :: stay) []).reverse

namespace Division

/-- Divides a group: the members that differ from one that stays form a new group. -/
def divideGroup (d : Division) (differ : Nat → Nat → Bool) (g : Nat) : Division :=
  let ids := d.members.getD g []
  let stay := stayTogether differ ids
  if stay.length = ids.length then d
  else
    let leave := ids.filter fun s => !stay.contains s
    let new := d.members.size
    ⟨leave.foldl (fun groups s => groups.set! s new) d.groupOf,
      (d.members.set! g stay).push leave⟩

/-- Divides the groups from a number on, the new ones included. -/
def divideFrom (differ : Division → Nat → Nat → Bool) : Nat → Division → Nat → Division
  | 0, d, _ => d
  | fuel + 1, d, g =>
    if g < d.members.size then divideFrom differ fuel (d.divideGroup (differ d) g) (g + 1) else d

/-- Divides until the number of groups does not change. -/
def divideAll (differ : Division → Nat → Nat → Bool) : Nat → Division → Division
  | 0, d => d
  | fuel + 1, d =>
    let next := divideFrom differ stateBound d 0
    if next.members.size = d.members.size then d else divideAll differ fuel next

end Division

/-- The states by their cores. -/
def byCore : Division :=
  let groups := canonical.states.map (·.core)
  ⟨groups, (groups.toList.zipIdx).foldr (fun (core, s) members => members.modify core (s :: ·))
    (Array.replicate canonical.cores.size [])⟩

/-- The groups of states that are merged. -/
def merged : Division :=
  let byRows := Division.divideFrom (fun _ => rowsDiffer) stateBound byCore 0
  Division.divideAll nextsDiffer stateBound byRows

end Automaton
end Code
end FormulaMap
