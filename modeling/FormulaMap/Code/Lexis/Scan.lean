import FormulaMap.Code.Lexis.TokenPattern

/-!
# Scanning a token

What token a text begins with, given the tokens that may stand there.  All of them are followed
at once, each either still in the blank text before it or inside its pattern.  The longest text
wins, unless a token of higher precedence ends before; at the same place the order of tokens
decides.
-/

namespace FormulaMap
namespace Code
namespace Lexis

/-- The blank characters that may stand between tokens. -/
def isSpace (c : Char) : Bool := c == ' ' || ('\t' ≤ c && c ≤ '\r')

/-- A token that is being followed: whether blank text may still stand before it, and the
patterns for what may follow of it. -/
structure Thread where
  token : Token
  leads : Bool
  rest : List Pattern
  deriving DecidableEq

namespace Thread

/-- A token before its first character. -/
def start (t : Token) : Thread := ⟨t, !isImmediate t, [pattern t]⟩

/-- Whether the token may end here. -/
def isComplete (t : Thread) : Bool := t.rest.any Pattern.admitsEmpty

/-- Whether anything may follow, or the token has just ended. -/
def isAlive (t : Thread) : Bool := t.leads || !t.rest.isEmpty

/-- What follows of the token behind a character that belongs to it. -/
def within (c : Char) (t : Thread) : List Pattern := (t.rest.flatMap (Pattern.after c)).eraseDups

/-- The token behind a character. -/
def advance (c : Char) (t : Thread) : Thread :=
  if t.leads && isSpace c then { t with rest := (pattern t.token :: t.within c).eraseDups }
  else { t with leads := false, rest := t.within c }

end Thread

/-- Whether the first of two tokens that match the same text wins. -/
def wins (s t : Token) : Bool :=
  if precedence s != precedence t then precedence t < precedence s
  else if narrowness s != narrowness t then narrowness t < narrowness s
  else s.index < t.index

/-- The winner of the tokens that may end here. -/
def completed (threads : List Thread) : Option Token :=
  (threads.filter Thread.isComplete).foldl (fun best t =>
    match best with
    | none => some t.token
    | some b => if wins b t.token then some b else some t.token) none

/-- What comes of all tokens behind a character, and whether the character can only be blank text
before them; nothing if the scan ends in front of the character.  It ends where no token can go
on, and behind a token that may end if no token of its precedence or a higher one goes on, or if
only blank text does. -/
def advanceAll (threads : List Thread) (c : Char) : Option (List Thread × Bool) :=
  let inside := threads.filter fun t => !(t.within c).isEmpty
  let leading := threads.any (·.leads)
  if inside.isEmpty && !(leading && isSpace c) then none
  else
    let next := (threads.map (Thread.advance c)).filter Thread.isAlive
    let priority := inside.foldl (fun p t => max p (precedence t.token)) 0
    match completed threads with
    | none => some (next, inside.isEmpty)
    | some best =>
      if priority < precedence best then none
      else if priority == precedence best &&
          (inside.isEmpty || leading && !next.any (·.token == best)) then none
      else some (next, inside.isEmpty)

/-- What a text begins with: a token behind blank text, with the number of characters before it
and up to its end; blank text up to the end; or neither, with the number of blank characters and
the number of characters up to where no token could go on. -/
inductive Scanned where
  | token (t : Token) (start stop : Nat)
  | finish (stop : Nat)
  | stuck (start stop : Nat)
  deriving DecidableEq

/-- The scan behind the first `position` characters, of which the first `start` are blank, with
the token found so far; `ending` tells whether the text may end here. -/
def scanFrom (start position : Nat) (ending : Bool) (found : Option (Token × Nat))
    (threads : List Thread) (text : List Char) : Scanned :=
  let found := match completed threads with
    | some t => some (t, position)
    | none => found
  let result := match found with
    | some (t, stop) => Scanned.token t start stop
    | none => .stuck start position
  match text with
  | [] => if ending then .finish position else result
  | c :: text =>
    match advanceAll threads c with
    | none => result
    | some (threads, blank) =>
      scanFrom (if blank then position + 1 else start) (position + 1) (ending && blank) found
        threads text

/-- What a text begins with, if the given tokens may stand there and, where `ending` says so, its
end. -/
def scan (tokens : List Thread) (ending : Bool) (text : List Char) : Scanned :=
  scanFrom 0 0 ending none tokens text

end Lexis
end Code
end FormulaMap
