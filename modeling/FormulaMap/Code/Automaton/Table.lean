import FormulaMap.Code.Automaton.Merge

/-!
# The table of the reader

The states that are left after merging, each with its actions at every token and the state behind
every phrase.  A state that can do nothing but take one symbol for a group it belongs to is passed
over.  The first state is that of a reader that has lost its way.
-/

namespace FormulaMap
namespace Code
namespace Automaton

open Grammar

/-- What a reader may do at a token. -/
inductive Action where
  /-- Read the token and go to a state; a late reading is left to a reading without repetition. -/
  | shift (state : Nat) (late : Bool)
  /-- Put together the last symbols to a phrase, in a reading of some weight. -/
  | reduce (head length : Nat) (weight : Int) (production : Nat)
  /-- End. -/
  | accept
  /-- Pass over a comment. -/
  | skip
  /-- Look for a place from which to go on. -/
  | recover
  deriving DecidableEq

/-- A state of the table: its actions at each token, the last for the end of the text, the states
behind the phrases, and what the text may go on with. -/
structure Entry where
  actions : Array (List Action)
  gotos : Array (Option Nat)
  threads : List Lexis.Thread
  ending : Bool

/-- The positions of the two sorts of comments. -/
def comments : List Nat := [Token.lineComment.index, Token.blockComment.index]

/-- The actions of a state at a token, with the groups of the next states. -/
def actionsAt (s : State) (row : Row) (n : Nat) : List Action :=
  let reduces := (row.reduces.filter fun r => r.2.has n).map fun r =>
    let i := item r.1
    Action.reduce i.head i.length i.weight i.production
  let shifts :=
    if row.reads.has n then
      ((outlookOf s).ways.toList.zipIdx.find? fun (way, _) => way.symbol == .token n).toList.map
        fun (_, k) =>
          Action.shift (merged.groupOf.getD (s.targets.getD k 0) 0) (row.late.has n)
    else []
  let accepts := if row.accepts && n == endPosition then [Action.accept] else []
  let all := reduces ++ shifts ++ accepts
  if all.isEmpty && comments.contains n then [.skip] else all

/-- What a state may go on with; a keyword is scanned as a name. -/
def threadsOf (actions : Array (List Action)) : List Lexis.Thread :=
  let here (t : Token) : Bool := !(actions.getD t.index []).isEmpty
  let scanned := Lexis.unlistedTokens.filter here
  (if Lexis.listedTokens.any here && !here .identifier then .identifier :: scanned
    else scanned).map Lexis.Thread.start

/-- An entry with given actions and states behind the phrases. -/
def Entry.of (actions : Array (List Action)) (gotos : Array (Option Nat)) : Entry :=
  ⟨actions, gotos, threadsOf actions, !(actions.getD endPosition []).isEmpty⟩

/-- Adds what a state does to what the others of its group do. -/
def addMember (found : Array (List Action) × Array (Option Nat)) (id : Nat) :
    Array (List Action) × Array (Option Nat) :=
  let s := state id
  let row := stateRow id
  let actions := (TokenSet.members (tokenCount + 1) row.tokens).foldl
    (fun actions n => actions.set! n (actionsAt s row n)) found.1
  let gotos := (outlookOf s).ways.toList.zipIdx.foldl (fun gotos (way, k) =>
    match way.symbol with
    | .phrase n => gotos.set! n (some (merged.groupOf.getD (s.targets.getD k 0) 0))
    | .token _ => gotos) found.2
  (actions, gotos)

/-- What the states of each group do together. -/
def groupActions : Array (Array (List Action) × Array (Option Nat)) :=
  merged.members.map fun ids =>
    ids.foldl addMember (Array.replicate (tokenCount + 1) [], Array.replicate headCount none)

/-- The phrases that are shown as another kind somewhere. -/
def renamedPhrases : List Nat :=
  allRows.toList.flatten.flatMap fun r => r.steps.filterMap fun s =>
    match s.symbol, s.kind with
    | .phrase n, some _ => some n
    | _, _ => none

/-- Whether a phrase is a node of its own wherever it stands. -/
def isNamed (head : Nat) : Bool :=
  match Phrase.all[head]? with
  | some p => !p.isGroup
  | none => false

/-- Whether a phrase groups others of one sort. -/
def isSort (head : Nat) : Bool := (Phrase.all[head]?.map Phrase.isSort).getD false

/-- Whether putting together one symbol to a phrase leaves no trace in the tree. -/
def isTraceless (head length : Nat) (weight : Int) (production : Nat) : Bool :=
  let steps := (productions[production]?.map (·.steps)).getD []
  length == 1 && weight == 0 && !steps.any (fun s => s.kind.isSome || s.part.isSome) &&
    !isSort head && !renamedPhrases.contains head && !isNamed head

/-- The phrase for which a state only takes what stands before it, if it does nothing else and
that leaves no trace. -/
def passedOver (actions : Array (List Action)) : Option Nat :=
  let all := actions.toList.flatten.filter (· != .skip)
  match all with
  | .reduce head _ _ _ :: _ =>
    if all.all fun a => match a with
        | .reduce h n w p => h == head && isTraceless h n w p
        | _ => false
    then some head else none
  | _ => none

/-- The groups that are passed over, each with the phrase it takes. -/
def passed : Array (Option Nat) := groupActions.map fun g => passedOver g.1

/-- The state to go to in place of one that is passed over, given the states behind the phrases. -/
def passOver (gotos : Array (Option Nat)) : Nat → Nat → Nat
  | 0, g => g
  | fuel + 1, g =>
    match passed.getD g none with
    | none => g
    | some head =>
      match gotos.getD head none with
      | some next => passOver gotos fuel next
      | none => g

/-- The most groups that are passed over one after another. -/
def passBound : Nat := 20

/-- The entry of a group: the states to go to are those behind the ones that are passed over. -/
def groupEntry (g : Array (List Action) × Array (Option Nat)) : Entry :=
  let go := passOver g.2 passBound
  Entry.of
    (g.1.map fun actions => actions.map fun a =>
      match a with
      | .shift next late => .shift (go next) late
      | other => other)
    (g.2.map fun next => next.map go)

/-- The tokens that nearly any text may be read as; a reader that has lost its way does not look
for them. -/
def isPiece : Token → Bool
  | .stringFragment | .textFragment | .quotedFragment => true
  | _ => false

/-- The entry of a reader that has lost its way. -/
def lostEntry : Entry :=
  Entry.of
    ((Token.all.map fun t =>
        if isPiece t then []
        else if comments.contains t.index then [Action.skip]
        else [Action.recover]) ++ [[Action.recover]]).toArray
    (Array.replicate headCount none)

/-- The table of the reader. -/
def table : Array Entry := (groupActions.map groupEntry).set! 0 lostEntry

/-- The entry of a state. -/
def entry (state : Nat) : Entry := table.getD state lostEntry

/-- The actions of a state at a token, by its position. -/
def actions (state n : Nat) : List Action := (entry state).actions.getD n []

/-- The state behind a phrase. -/
def goto? (state head : Nat) : Option Nat := (entry state).gotos.getD head none

end Automaton
end Code
end FormulaMap
