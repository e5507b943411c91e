import FormulaMap.Code.Automaton.Edge
import FormulaMap.Code.Lexis.Scan

/-!
# Tokens that get in each other's way

Two tokens clash if a text may be read as either of them, or if one may go on where the other
ends and the text behind that could also belong to the next token.  Where only one of two
clashing tokens may stand, the other must not be looked for.
-/

namespace FormulaMap
namespace Code
namespace Lexis

open Automaton

/-- One character of every sort that the patterns tell apart: all of ASCII, and of the others
some that may begin a name, may only stand inside one, or may do neither. -/
def sampleCharacters : Array Char :=
  ((List.range 128).map Char.ofNat ++ ['é', '¢', '€', '😀', '\u3000', '\u0661', '·']).toArray

/-- The positions of the sample characters that satisfy a condition, as a set. -/
def samples (holds : Char → Bool) : TokenSet :=
  TokenSet.ofList ((List.range sampleCharacters.size).filter fun k =>
    (sampleCharacters[k]?.map holds).getD false)

/-- The sample characters a token may begin with. -/
def beginnings : Array TokenSet :=
  (Token.all.map fun t => samples fun c => !((Thread.start t).within c).isEmpty).toArray

/-- The sample characters that may stand at the start of a token or in blank text before it. -/
def leadings : Array TokenSet :=
  (Token.all.map fun t =>
    beginnings.getD t.index 0 ||| (if isImmediate t then 0 else samples isSpace)).toArray

/-- The tokens that may stand directly behind each token. -/
def followers : Array TokenSet :=
  let comments := [Token.lineComment.index, Token.blockComment.index]
  let all := TokenSet.ofList (List.range tokenCount)
  let inPhrases := Grammar.productions.foldl (fun found p =>
    (p.steps.zip (p.steps.drop 1)).foldl (fun found (s, t) =>
      (TokenSet.members tokenCount (last s.symbol)).foldl (fun found n =>
        found.modify n (· ||| first t.symbol)) found) found) (Array.replicate tokenCount 0)
  (List.range tokenCount).toArray.map fun n =>
    if comments.contains n then all else inPhrases.getD n 0 ||| TokenSet.ofList comments

/-- The sample characters that may stand directly behind each token. -/
def followingCharacters : Array TokenSet :=
  followers.map fun set =>
    TokenSet.union ((TokenSet.members tokenCount set).map fun n => leadings.getD n 0)

/-- For each of two tokens, whether it gets in the way of the other. -/
structure Clash where
  first : Bool
  second : Bool
  deriving DecidableEq

/-- Either of two findings. -/
def Clash.or (a b : Clash) : Clash := ⟨a.first || b.first, a.second || b.second⟩

/-- The finding for one token of the pair. -/
def Clash.of (threads : Thread × Thread) (t : Token) : Clash :=
  ⟨threads.1.token == t, threads.2.token == t⟩

/-- What two tokens that are both being followed have to do with each other where they stand: one
may end while blank text may still be taken, or both may end, which one of them wins. -/
def clashHere (threads : Thread × Thread) : Clash :=
  let (a, b) := threads
  let early := a.leads || b.leads
  let whole := a.isComplete && b.isComplete
  ⟨a.isComplete && (early || whole && wins a.token b.token),
   b.isComplete && (early || whole && wins b.token a.token)⟩

/-- Whether a token that goes on behind a character gets in the way of the one that ends before
it: it is preferred, and the character may also stand behind the other. -/
def clashBehind (threads next : Thread × Thread) (k : Nat) (c : Char) : Clash :=
  let (a, b) := threads
  match completed [a, b] with
  | none => ⟨false, false⟩
  | some best =>
    let other := if a.token == best then next.2 else next.1
    let ended := if a.token == best then next.1 else next.2
    if ended.isAlive || !other.isAlive then ⟨false, false⟩
    else
      let inside := [a, b].filter fun t => !(t.within c).isEmpty
      let priority := inside.foldl (fun p t => max p (precedence t.token)) 0
      let early := a.leads || b.leads
      let preferred := precedence best < priority ||
        precedence best == priority && !inside.isEmpty && !early
      if preferred && (followingCharacters.getD best.index 0).has k then
        Clash.of threads other.token
      else ⟨false, false⟩

/-- The pairs behind the sample characters, and the clashes on the way to them. -/
def stepPair (threads : Thread × Thread) : List (Thread × Thread) × Clash :=
  (List.range sampleCharacters.size).foldl (fun (nexts, clash) k =>
    match sampleCharacters[k]? with
    | none => (nexts, clash)
    | some c =>
      let next := (threads.1.advance c, threads.2.advance c)
      if !next.1.isAlive && !next.2.isAlive then (nexts, clash)
      else
        let clash := clash.or (clashBehind threads next k c)
        if next.1.isAlive && next.2.isAlive && !nexts.contains next then (next :: nexts, clash)
        else (nexts, clash)) ([], ⟨false, false⟩)

/-- Follows two tokens as long as both may go on. -/
def explore : Nat → List (Thread × Thread) → List (Thread × Thread) → Clash → Clash
  | 0, _, _, clash => clash
  | _, _, [], clash => clash
  | fuel + 1, seen, threads :: rest, clash =>
    if seen.contains threads then explore fuel seen rest clash
    else
      let (nexts, found) := stepPair threads
      explore fuel (threads :: seen) (nexts ++ rest) (clash.or (clashHere threads) |>.or found)

/-- A bound on the pairs that are looked at. -/
def pairBound : Nat := 1000

/-- Whether two tokens get in each other's way. -/
def clash (s t : Token) : Clash :=
  let b := beginnings.getD s.index 0
  let d := beginnings.getD t.index 0
  if b.meets (leadings.getD t.index 0) || d.meets (leadings.getD s.index 0) then
    explore pairBound [] [(Thread.start s, Thread.start t)] ⟨false, false⟩
  else ⟨false, false⟩

/-- The tokens that each token gets in the way of.  A keyword and a name do not: what a word is
gets decided when it has been read. -/
def clashes : Array TokenSet :=
  let exempt (s t : Token) : Bool := s == .identifier && listedTokens.contains t
  Token.all.foldl (fun found s =>
    Token.all.foldl (fun found t =>
      if t.index < s.index then
        if exempt s t || exempt t s then found
        else
          let c := clash s t
          let found := if c.first then
            found.modify s.index (· ||| TokenSet.single t.index) else found
          if c.second then found.modify t.index (· ||| TokenSet.single s.index) else found
      else found) found) (Array.replicate tokenCount 0)

/-- Adds a token to the tokens that get in the way of the same ones. -/
def addToClass (t : Nat) (set : TokenSet) : List (TokenSet × TokenSet) → List (TokenSet × TokenSet)
  | [] => [(TokenSet.single t, set)]
  | (tokens, other) :: rest =>
    if other = set then (tokens ||| TokenSet.single t, other) :: rest
    else (tokens, other) :: addToClass t set rest

/-- The tokens divided by what they get in the way of. -/
def clashClasses : List (TokenSet × TokenSet) :=
  (clashes.toList.zipIdx).foldl (fun classes (set, t) => addToClass t set classes) []

/-- Whether a token of the first set gets in the way of one of the second. -/
def obstructs (s t : TokenSet) : Bool :=
  clashClasses.any fun (tokens, set) => tokens.meets s && set.meets t

end Lexis
end Code
end FormulaMap
