import FormulaMap.Code.Reader.Stack

/-!
# The next token of a reading

What a reading finds at its place in the text, given its state: a token that the state can do
something with; else one that might help it to find its way again; else a stretch of text that is
no token at all.
-/

namespace FormulaMap
namespace Code
namespace Reader

open Automaton

/-- A source text, with what is left of it at every place. -/
structure Source where
  tails : Array (List Char)

namespace Source

/-- All ends of a text, itself first. -/
def endsOf : List Char → List (List Char)
  | [] => [[]]
  | c :: cs => (c :: cs) :: endsOf cs

/-- A source text. -/
def ofText (text : List Char) : Source := ⟨(endsOf text).toArray⟩

/-- The number of characters of a source text. -/
def length (s : Source) : Nat := s.tails.size - 1

/-- What is left of a source text at a place. -/
def tail (s : Source) (position : Nat) : List Char := s.tails.getD position []

/-- The text between two places. -/
def between (s : Source) (start stop : Nat) : List Char := (s.tail start).take (stop - start)

/-- What is left at a place, as it is scanned: a byte order mark at the very start is blank. -/
def scannable (s : Source) (position : Nat) : List Char :=
  match position, s.tail position with
  | 0, '\uFEFF' :: text => ' ' :: text
  | _, text => text

/-- What a state finds at a place. -/
def scan (s : Source) (state position : Nat) : Lexis.Scanned :=
  let e := entry state
  Lexis.scan e.threads e.ending (s.scannable position)

/-- The end of the stretch that is no token, searched from a place on; `stop` is the end found so
far. -/
def faultEnd (s : Source) : Nat → Nat → Nat
  | 0, stop => stop
  | fuel + 1, stop =>
    match s.scan 0 stop with
    | .stuck _ reached =>
      if reached = 0 then
        if s.length ≤ stop then stop else faultEnd s fuel (stop + 1)
      else faultEnd s fuel (stop + reached)
    | _ => stop

/-- A stretch of text that is no token, behind blank text. -/
def faultAt (s : Source) (position start reached : Nat) : Growth :=
  let first := position + start
  let stop :=
    if reached = start then
      if s.length ≤ first then first else s.faultEnd (s.length + 2) (first + 1)
    else s.faultEnd (s.length + 2) (position + reached)
  Growth.token .fault (s.between position first) (s.between first stop) false

/-- A token that was scanned.  A word is a keyword if the state can do something with that, and a
name otherwise. -/
def tokenAt (s : Source) (state position : Nat) (t : Token) (start stop : Nat) : Growth :=
  let blank := s.between position (position + start)
  let text := s.between (position + start) (position + stop)
  let keyword := if t = .identifier then Lexis.keyword? text else none
  match keyword with
  | none => Growth.token (.token t.index) blank text false
  | some k =>
    let label := if (actions state k.index).isEmpty then t.index else k.index
    Growth.token (.token label) blank text true

/-- What was scanned, as a tree. -/
def growthOf (s : Source) (state position : Nat) : Lexis.Scanned → Growth
  | .token t start stop => s.tokenAt state position t start stop
  | .finish stop =>
    Growth.token (.token endPosition) (s.between position (position + stop)) [] false
  | .stuck start reached => s.faultAt position start reached

/-- The next token of a reading in a state, at a place. -/
def next (s : Source) (state position : Nat) : Growth :=
  match s.scan state position with
  | .stuck start reached =>
    if state = 0 then s.growthOf state position (.stuck start reached)
    else s.growthOf state position (s.scan 0 position)
  | found => s.growthOf state position found

end Source
end Reader
end Code
end FormulaMap
