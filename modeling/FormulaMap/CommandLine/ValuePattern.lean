import FormulaMap.Decimal.Numeral
import FormulaMap.Text.Alphabetic
import FormulaMap.Text.Blank
import FormulaMap.Text.Numeric

/-!
# Patterns of values

A directive may say what a value is: a number, or any text that a regular pattern describes.  This
module tells which texts are such patterns.  It reads a pattern from left to right and keeps what
is open: the groups around the place that is read, and inside brackets the sets around it.  What a
pattern describes does not matter here, with one exception: where characters are single bytes, a
set must not hold bytes beyond ASCII, so it is noted whether a set holds them.
-/

namespace FormulaMap
namespace CommandLine
namespace ValuePattern

/-- How a part of a pattern is read. -/
structure Manner where
  /-- Whether blanks and comments are left out. -/
  spaced : Bool
  /-- Whether a character is one of Unicode, and not a byte. -/
  wide : Bool
  deriving DecidableEq, Repr

/-- The text behind the blanks and comments at its start. -/
def afterBlanks (inComment : Bool) : List Char → List Char
  | [] => []
  | c :: rest =>
    if inComment then afterBlanks (c != '\n') rest
    else if Text.isBlank c then afterBlanks false rest
    else if c == '#' then afterBlanks true rest
    else c :: rest

/-- The text at the next character that counts. -/
def Manner.skip (m : Manner) (cs : List Char) : List Char :=
  if m.spaced then afterBlanks false cs else cs

/-- What stands at one place of a pattern. -/
inductive Item where
  | character (c : Char)
  /-- A character given by two hexadecimal digits. -/
  | byte (c : Char)
  /-- A set with a name of one letter. -/
  | named ( complement : Bool)
  /-- A set given by a property of characters. -/
  | property
  /-- The start or the end of a line or of the whole text. -/
  | edge
  /-- The start, the end, or the inside of a word. -/
  | wordEdge
  deriving DecidableEq, Repr

/-- Whether an item may stand outside brackets.  Where words begin and end is not told for words
of Unicode. -/
def Item.isAllowed (m : Manner) : Item → Bool
  | .byte c => m.wide || Text.isAscii c
  | .named complement => m.wide || !complement
  | .property => m.wide
  | .wordEdge => !m.wide
  | .character _ | .edge => true

/-- Whether an item may stand between brackets. -/
def Item.isMember (m : Manner) : Item → Bool
  | .character c | .byte c => m.wide || Text.isAscii c
  | .named complement => m.wide || !complement
  | .property => m.wide
  | .edge | .wordEdge => false

/-- The character for which an item stands, if it stands for one. -/
def Item.character? : Item → Option Char
  | .character c | .byte c => some c
  | _ => none

/-- The number written with so many hexadecimal digits, and what follows them. -/
def readCode? (m : Manner) : Nat → Nat → List Char → Option (Nat × List Char)
  | 0, n, cs => some (n, cs)
  | count + 1, n, cs =>
    match m.skip cs with
    | [] => none
    | c :: rest =>
      if Text.isHexDigit c then readCode? m count (16 * n + Text.hexValue c) rest else none

/-- The character given by so many hexadecimal digits, and what follows them. -/
def readCharacter? (m : Manner) (count : Nat) (cs : List Char) : Option (Char × List Char) :=
  (readCode? m count 0 cs).bind fun (n, rest) =>
    if n.isValidChar then some (Char.ofNat n, rest) else none

/-- The properties of characters that have a name of one letter. -/
def properties : List Char := ['c', 'l', 'm', 'n', 'p', 's', 'z']

/-- The item behind a backslash, and what follows it. -/
def readEscape? (m : Manner) : List Char → Option (Item × List Char)
  | [] => none
  | c :: rest =>
    match c with
    | 'x' => (readCharacter? m 2 rest).map fun (c, rest) => (.byte c, rest)
    | 'u' => (readCharacter? m 4 rest).map fun (c, rest) => (.character c, rest)
    | 'U' => (readCharacter? m 8 rest).map fun (c, rest) => (.character c, rest)
    | 'p' | 'P' =>
      match m.skip rest with
      | [] => none
      | name :: rest =>
        if properties.contains (Text.asciiLower name) then some (.property, rest) else none
    | 'd' | 's' | 'w' => some (.named false, rest)
    | 'D' | 'S' | 'W' => some (.named true, rest)
    | 'a' | 'f' | 't' | 'n' | 'r' | 'v' => some (.character c, rest)
    | 'A' | 'z' => some (.edge, rest)
    | 'b' | 'B' | '<' | '>' => some (.wordEdge, rest)
    | _ =>
      if Text.isAscii c && !Text.isAsciiLetter c && !Text.isAsciiDigit c then
        some (.character c, rest)
      else none

/-! ## Sets between brackets -/

/-- How two sets between brackets are joined. -/
inductive Joint where
  | both
  | firstOnly
  | oneOfTwo
  deriving DecidableEq, Repr

/-- Whether two joined sets hold something, given whether each of them does. -/
def Joint.apply : Joint → Bool → Bool → Bool
  | .both, a, b => a && b
  | .firstOnly, a, b => a && !b
  | .oneOfTwo, a, b => a != b

/-- How far a set has been read.  At its start a circumflex, hyphens, and a closing bracket have
other meanings than behind it. -/
inductive Front where
  | opening
  | negated
  | hyphens
  | inside
  deriving DecidableEq, Repr

/-- A set whose closing bracket has not been read. -/
structure OpenSet where
  isNegated : Bool
  /-- What stands before the last joint: that joint, and whether bytes beyond ASCII are held. -/
  earlier : Option (Joint × Bool)
  /-- Whether bytes beyond ASCII are held by what stands behind the last joint. -/
  beyond : Bool

namespace OpenSet

/-- A set of which nothing has been read. -/
def empty : OpenSet := ⟨false, none, false⟩

/-- Whether bytes beyond ASCII are held so far. -/
def holdsBeyond (s : OpenSet) : Bool :=
  match s.earlier with
  | none => s.beyond
  | some (joint, earlier) => joint.apply earlier s.beyond

/-- Goes on behind a joint. -/
def join (s : OpenSet) (joint : Joint) : OpenSet :=
  { s with earlier := some (joint, s.holdsBeyond), beyond := false }

/-- Adds another set. -/
def add (s : OpenSet) (beyond : Bool) : OpenSet := { s with beyond := s.beyond || beyond }

end OpenSet

/-- The names of sets that are written between colons. -/
def setNames : List String :=
  ["alnum", "alpha", "ascii", "blank", "cntrl", "digit", "graph", "lower", "print", "punct",
    "space", "upper", "word", "xdigit"]

/-- Reads a set with a name between colons, behind its opening bracket: whether it is the
complement, and what follows it. -/
def readNamed? : List Char → Option (Bool × List Char)
  | ':' :: rest =>
    let (complement, rest) := match rest with
      | '^' :: rest => (true, rest)
      | rest => (false, rest)
    let name := rest.takeWhile (· != ':')
    match rest.drop name.length with
    | ':' :: ']' :: rest =>
      if setNames.contains (String.ofList name) then some (complement, rest) else none
    | _ => none
  | _ => none

/-- The joint that two characters are. -/
def joint? : Char → Char → Option Joint
  | '&', '&' => some .both
  | '-', '-' => some .firstOnly
  | '~', '~' => some .oneOfTwo
  | _, _ => none

/-- The item at the start of a text, between brackets. -/
def readMember? (m : Manner) : List Char → Option (Item × List Char)
  | [] => none
  | '\\' :: rest => readEscape? m rest
  | c :: rest => some (.character c, rest)

/-- What follows the item or the range of characters at the start of a text. -/
def afterMember? (m : Manner) (cs : List Char) : Option (List Char) := do
  let (first, rest) ← readMember? m cs
  if !first.isMember m then none
  let rest := m.skip rest
  match rest with
  | '-' :: more =>
    let more := m.skip more
    if more.head? == some ']' || more.head? == some '-' then some rest
    else
      let (last, rest) ← readMember? m more
      let low ← first.character?
      let high ← last.character?
      if last.isMember m && low ≤ high then some rest else none
  | _ => some rest

/-- What follows a set, given how far it has been read and the sets around it. -/
def afterSet? (m : Manner) :
    Nat → Front → OpenSet → List OpenSet → List Char → Option (List Char)
  | 0, _, _, _, _ => none
  | fuel + 1, front, s, outer, cs =>
    match m.skip cs with
    | [] => none
    | c :: rest =>
      let isFirst := front == .opening || front == .negated
      if c == '^' && front == .opening then
        afterSet? m fuel .negated { s with isNegated := true } outer rest
      else if c == '-' && front != .inside then afterSet? m fuel .hyphens s outer rest
      else if c == ']' && isFirst then afterSet? m fuel .inside s outer rest
      else if c == '[' then
        match readNamed? rest with
        | some (complement, rest) => afterSet? m fuel .inside (s.add complement) outer rest
        | none => afterSet? m fuel .opening .empty (s :: outer) rest
      else if c == ']' then
        let beyond := s.holdsBeyond != s.isNegated
        if beyond && !m.wide then none
        else match outer with
          | [] => some rest
          | t :: outer => afterSet? m fuel .inside (t.add beyond) outer rest
      else match rest.head?.bind (joint? c) with
        | some joint => afterSet? m fuel .inside (s.join joint) outer rest.tail
        | none => (afterMember? m (c :: rest)).bind (afterSet? m fuel .inside s outer)

/-! ## Groups -/

/-- A place in a pattern: how what follows is read, how what follows each group around it is read,
the names of groups so far, and whether something stands before it that may be repeated. -/
structure Place where
  manner : Manner
  around : List Manner
  names : List (List Char)
  isRepeatable : Bool

/-- Whether a text is a name of a group. -/
def isGroupName : List Char → Bool
  | [] => false
  | c :: rest =>
    (c == '_' || Text.isAlphabetic c) && rest.all fun c =>
      c == '_' || c == '.' || c == '[' || c == ']' || Text.isAlphabetic c || Text.isNumeric c

/-- Whether a text says how a part is read: letters, each at most once, of which those behind a
hyphen are taken back. -/
def isFlags (flags : List Char) : Bool :=
  flags.all (['i', 'm', 's', 'U', 'u', 'R', 'x', '-'].contains ·) &&
    decide flags.Nodup && flags.getLast? != some '-'

/-- How a part is read behind some flags. -/
def Manner.flagged (m : Manner) (flags : List Char) : Manner :=
  let given := flags.takeWhile (· != '-')
  let state := fun flag before =>
    if given.contains flag then true else if flags.contains flag then false else before
  ⟨state 'x' m.spaced, state 'u' m.wide⟩

/-- The place inside a group. -/
def Place.inside (p : Place) (manner : Manner) : Place :=
  { p with manner := manner, around := p.manner :: p.around, isRepeatable := false }

/-- The place behind the name of a group and its closing angle, and what follows it. -/
def openNamed? (p : Place) (cs : List Char) : Option (Place × List Char) :=
  let name := cs.takeWhile (· != '>')
  match cs.drop name.length with
  | [] => none
  | _ :: rest =>
    if isGroupName name && !p.names.contains name then
      some ({ p.inside p.manner with names := name :: p.names }, rest)
    else none

/-- The place behind the beginning of a group, whose parenthesis has been read, and what follows
it. -/
def openGroup? (p : Place) (cs : List Char) : Option (Place × List Char) :=
  match p.manner.skip cs with
  | '?' :: 'P' :: '<' :: rest => openNamed? p rest
  | '?' :: '<' :: rest => openNamed? p rest
  | '?' :: rest =>
    let flags := rest.takeWhile fun c => c != ':' && c != ')'
    let manner := p.manner.flagged flags
    if !isFlags flags then none
    else match rest.drop flags.length with
      | [] => none
      | ':' :: rest => some (p.inside manner, rest)
      | _ :: rest =>
        if flags.isEmpty then none
        else some ({ p with manner := manner, isRepeatable := false }, rest)
  | rest => some (p.inside p.manner, rest)

/-- The place behind what a character begins, and what follows it.  A number of repetitions in
braces needs a closing brace, which ends the value, so none can stand here. -/
def step? (p : Place) (c : Char) (rest : List Char) : Option (Place × List Char) :=
  let done := { p with isRepeatable := true }
  match c with
  | '(' => openGroup? p rest
  | ')' =>
    match p.around with
    | [] => none
    | manner :: around => some ({ done with manner := manner, around := around }, rest)
  | '|' => some ({ p with isRepeatable := false }, rest)
  | '[' => (afterSet? p.manner (rest.length + 1) .opening .empty [] rest).map (done, ·)
  | '?' | '*' | '+' =>
    if !p.isRepeatable then none
    else match rest with
      | '?' :: rest => some (p, rest)
      | rest => some (p, rest)
  | '{' => none
  | '\\' =>
    (readEscape? p.manner rest).bind fun (item, rest) =>
      if item.isAllowed p.manner then some (done, rest) else none
  | '.' => if p.manner.wide then some (done, rest) else none
  | _ => some (done, rest)

/-- Whether a text can follow at a place. -/
def canFollow : Nat → Place → List Char → Bool
  | 0, _, _ => false
  | fuel + 1, p, cs =>
    match p.manner.skip cs with
    | [] => p.around.isEmpty
    | c :: rest =>
      match step? p c rest with
      | none => false
      | some (p, rest) => canFollow fuel p rest

end ValuePattern

/-- Whether a text is a regular pattern. -/
def isValuePattern (cs : List Char) : Bool :=
  ValuePattern.canFollow (cs.length + 1) ⟨⟨false, true⟩, [], [], false⟩ cs

/-- Whether a text says what a value is. -/
def saysValue (cs : List Char) : Bool :=
  (Binary.readValue? Binary.double cs).isSome || isValuePattern cs

end CommandLine
end FormulaMap
