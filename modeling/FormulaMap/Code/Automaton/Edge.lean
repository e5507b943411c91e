import FormulaMap.Code.Automaton.TokenSet
import FormulaMap.Code.Grammar.Production

/-!
# First and last tokens, and left edges

With which tokens a phrase may begin and end, and which phrases may stand at the left edge of a
phrase, with the tokens that may follow them there.  Each is the least solution of its equations;
the sets only grow, and a round that changes nothing ends the computation.
-/

namespace FormulaMap
namespace Code
namespace Automaton

open Grammar

/-- The number of tokens. -/
def tokenCount : Nat := Token.all.length

/-- The position that stands for the end of the text. -/
def endPosition : Nat := tokenCount

/-- The tokens a symbol may begin or end with, given those of the phrases. -/
def tokensOf (known : Array TokenSet) : Symbol → TokenSet
  | .token n => TokenSet.single n
  | .phrase n => known.getD n 0

/-- One round of adding, for every production, the tokens of one of its symbols to its phrase. -/
def growTokens (pick : List Step → Option Step) (known : Array TokenSet) : Array TokenSet :=
  productions.foldl (fun known p =>
    match pick p.steps with
    | none => known
    | some s => known.modify p.head (· ||| tokensOf known s.symbol)) known

/-- Rounds until nothing changes. -/
def stable {α : Type} [BEq α] (round : α → α) : Nat → α → α
  | 0, a => a
  | fuel + 1, a =>
    let next := round a
    if next == a then a else stable round fuel next

/-- The tokens each phrase may begin with. -/
def firstTokens : Array TokenSet :=
  stable (growTokens List.head?) headCount (Array.replicate headCount 0)

/-- The tokens each phrase may end with. -/
def lastTokens : Array TokenSet :=
  stable (growTokens List.getLast?) headCount (Array.replicate headCount 0)

/-- The tokens a symbol may begin with. -/
def first (s : Symbol) : TokenSet := tokensOf firstTokens s

/-- The tokens a symbol may end with. -/
def last (s : Symbol) : TokenSet := tokensOf lastTokens s

/-- The productions of each phrase. -/
def productionsOf : Array (List Production) :=
  productions.foldr (fun p byHead => byHead.modify p.head (p :: ·)) (Array.replicate headCount [])

/-- A phrase at the left edge of another: the tokens that may follow it inside that phrase, and
whether whatever follows that phrase may follow it too. -/
structure Edge where
  phrase : Nat
  inside : TokenSet
  reaches : Bool
  deriving DecidableEq

/-- Adds an edge to others, together with those of its phrase. -/
def addEdge (e : Edge) : List Edge → List Edge
  | [] => [e]
  | f :: edges =>
    if f.phrase = e.phrase then
      ⟨f.phrase, f.inside ||| e.inside, f.reaches || e.reaches⟩ :: edges
    else f :: addEdge e edges

/-- The phrases that stand first in the productions of each phrase. -/
def corners : Array (List Edge) :=
  productionsOf.map fun ps =>
    ps.foldl (fun edges p =>
      match p.steps with
      | ⟨.phrase n, _, _, _, _⟩ :: second :: _ => addEdge ⟨n, first second.symbol, false⟩ edges
      | [⟨.phrase n, _, _, _, _⟩] => addEdge ⟨n, 0, true⟩ edges
      | _ => edges) []

/-- What is at the left edge of a phrase that is at a left edge itself. -/
def Edge.behind (e : Edge) (corner : Edge) : Edge :=
  if corner.reaches then ⟨corner.phrase, corner.inside ||| e.inside, e.reaches⟩
  else corner

/-- One round of adding what is at the left edge of the phrases found. -/
def growEdges (edges : List Edge) : List Edge :=
  edges.foldl (fun found e =>
    (corners.getD e.phrase []).foldl (fun found corner => addEdge (e.behind corner) found) found)
    edges

/-- What is at the left edge of each phrase, itself included. -/
def leftEdges : Array (List Edge) :=
  (List.range headCount).toArray.map fun n => stable growEdges headCount [⟨n, 0, true⟩]

end Automaton
end Code
end FormulaMap
