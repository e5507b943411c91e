import FormulaMap.Code.Automaton.Canonical

/-!
# What a state does

For each token that may come next a state either reads it, or first replaces what stands before
it by the phrase it is, or leaves both open.  Where both are possible the ranks decide, and among
equals the side the operation groups to; within a repetition what was read is put together first.
-/

namespace FormulaMap
namespace Code
namespace Automaton

open Grammar

/-- What a state does: for each item that ends in it, in the order of consideration, the tokens
at which the item's phrase is put together; the tokens it reads; those among them that it would
read if what stands before were not put together first; and whether the text may end. -/
structure Row where
  reduces : List (Nat × TokenSet)
  reads : TokenSet
  late : TokenSet
  accepts : Bool
  deriving DecidableEq

/-- The items of a core that go on, with the tokens they may go on with. -/
def continuing (core : Array Nat) : List (Item × TokenSet) :=
  core.toList.filterMap fun n =>
    let i := item n
    i.next.map fun s => (i, first s)

/-- Whether all items belong to one repetition. -/
def isRepetition (heads : List Nat) : Bool :=
  match heads with
  | [] => false
  | h :: rest => phraseCount ≤ h && h < headCount && rest.all (· == h)

/-- The outcome of a contest for a token. -/
inductive Outcome where
  | read
  | reduce
  | both
  | repetition
  deriving DecidableEq

/-- How a contest ends between reading a token in items of the given ranks and putting together
what stands before, in items of the given rank and sides. -/
def contest (going : List Int) (rank : Int) (sides : List (Option Side)) : Outcome :=
  let higher := going.any (rank < ·)
  let lower := going.any (· < rank)
  if higher && !lower then .read
  else if lower && !higher then .reduce
  else if higher || lower then .both
  else if sides.all (· == some .left) then .reduce
  else if sides.all (· == some .right) then .read
  else .both

/-- Which of the items that end at a token are put together, by their numbers, and how the
contest with reading it ends, if it can be read. -/
def compete (ended : List (Item × Nat)) (going : List (Item × TokenSet)) (readable : Bool)
    (token : Nat) : List Nat × Outcome :=
  let best := ended.foldl (fun r i => max r i.1.rank) ((ended.head?.map (·.1.rank)).getD 0)
  let kept := ended.filter (·.1.rank == best)
  if !readable then (kept.map (·.2), .reduce)
  else
    let going := going.filter fun i => i.2.has token && i.1.place != 0
    let heads := going.map (·.1.head) ++ ended.map (·.1.head)
    if isRepetition heads then (kept.map (·.2), .repetition)
    else
      match contest (going.map (·.1.rank)) best (kept.map (·.1.side)) with
      | .read => ([], .read)
      | outcome => (kept.map (·.2), outcome)

/-- The tokens that a core reads. -/
def readable (ways : Array Transition) : TokenSet :=
  TokenSet.union (ways.toList.filterMap fun t =>
    match t.symbol with
    | .token n => some (TokenSet.single n)
    | .phrase _ => none)

/-- The positions that two sets of a list have in common. -/
def contested : List TokenSet → TokenSet
  | [] => 0
  | s :: rest => (s &&& TokenSet.union rest) ||| contested rest

/-- Enters the outcome of a contest into a row. -/
def Row.settle (ended : List (Item × Nat × TokenSet)) (going : List (Item × TokenSet))
    (row : Row) (token : Nat) : Row :=
  let present := ended.filter fun i => i.2.2.has token
  let (kept, outcome) :=
    compete (present.map fun i => (i.1, i.2.1)) going (row.reads.has token) token
  let bit := TokenSet.single token
  { row with
    reduces := row.reduces.map fun (i, set) =>
      if kept.contains i then (i, set) else (i, set.without bit)
    reads := if outcome = .reduce then row.reads.without bit else row.reads
    late := if outcome = .repetition then row.late ||| bit else row.late }

/-- The tokens that may follow an item at whose end a state stands. -/
def Ending.tokens (follow : Array TokenSet) (e : Ending) : TokenSet :=
  e.sources.foldl (fun set k => set ||| follow.getD k 0) e.inside

/-- What a state does, given its core, what follows from it and what may follow each item. -/
def rowOf (core : Array Nat) (outlook : Outlook) (follow : Array TokenSet) : Row :=
  let isText (e : Ending) : Bool := (item e.item).head == wholeText
  let ended := (outlook.endings.filter fun e => !isText e).map fun e =>
    (item e.item, e.item, e.tokens follow)
  let reads := readable outlook.ways
  let start : Row := ⟨ended.map (·.2), reads, 0, outlook.endings.any isText⟩
  let disputed := contested (reads :: ended.map (·.2.2))
  if disputed == 0 then start
  else
    let going := continuing core
    (TokenSet.members (tokenCount + 1) disputed).foldl (Row.settle ended going) start

/-- The tokens at which a state does anything; comments may stand everywhere. -/
def Row.tokens (row : Row) : TokenSet :=
  TokenSet.union (row.reads :: row.reduces.map (·.2)) |||
    (if row.accepts then TokenSet.single endPosition else 0) |||
    TokenSet.ofList [Token.lineComment.index, Token.blockComment.index]

/-- The rows of all states. -/
def stateRows : Array Row :=
  canonical.states.map fun s =>
    match canonical.cores.getD s.core ⟨#[], none⟩ with
    | ⟨core, some outlook⟩ => rowOf core outlook s.follow
    | ⟨_, none⟩ => ⟨[], 0, 0, false⟩

end Automaton
end Code
end FormulaMap
