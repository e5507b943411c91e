import FormulaMap.Http.Host

/-!
# URLs

Addresses with a host, read leniently and written in one way: blanks at the ends and line breaks
inside are dropped, the scheme and the host are put into lower case, the usual port of the scheme
is left out, steps to the same or the outer directory are taken, and characters that may not stand
where they do are encoded.
-/

namespace FormulaMap
namespace Http

/-- An address with a host. -/
structure Url where
  scheme : String
  user : List Char
  password : List Char
  host : Host
  port : Option Nat
  /-- The segments of the path; without any there is no path at all. -/
  path : List (List Char)
  query : Option (List Char)
  fragment : Option (List Char)
  deriving DecidableEq, Repr

/-- The schemes with rules of their own. -/
def isSpecial (scheme : String) : Bool :=
  ["http", "https", "ws", "wss", "ftp", "file"].contains scheme

/-- The usual port of a scheme. -/
def usualPort? (scheme : String) : Option Nat :=
  if scheme = "http" ∨ scheme = "ws" then some 80
  else if scheme = "https" ∨ scheme = "wss" then some 443
  else if scheme = "ftp" then some 21
  else none

/-- Whether a character is a blank or a control character of ASCII. -/
def isEdge (c : Char) : Bool :=
  c.toNat ≤ 32

/-- Drops what does not count in an address. -/
def cleaned (cs : List Char) : List Char :=
  let inner := ((cs.dropWhile isEdge).reverse.dropWhile isEdge).reverse
  inner.filter fun c => !(c == '\t' || c == '\n' || c == '\r')

/-- The scheme that an address starts with. -/
def readScheme? (cs : List Char) : Option (String × List Char) :=
  let isSchemeChar (c : Char) : Bool :=
    Text.isAsciiLetter c || Text.isAsciiDigit c || c == '+' || c == '-' || c == '.'
  let scheme := cs.takeWhile isSchemeChar
  match scheme, cs.dropWhile isSchemeChar with
  | c :: _, ':' :: rest =>
    if Text.isAsciiLetter c then some (String.ofList (scheme.map Text.asciiLower), rest) else none
  | _, _ => none

/-- Whether a character is a slash; a backslash counts as one in the special schemes. -/
def isSlash (special : Bool) (c : Char) : Bool :=
  c == '/' || (special && c == '\\')

/-- Whether a character ends the part of an address that names the host. -/
def endsAuthority (special : Bool) (c : Char) : Bool :=
  isSlash special c || c == '?' || c == '#'

/-- What stands behind the slashes before the host. -/
def afterSlashes? (scheme : String) (cs : List Char) : Option (List Char) :=
  if scheme = "file" then
    match cs with
    | a :: b :: rest => if isSlash true a && isSlash true b then some rest else none
    | _ => none
  else if isSpecial scheme then some (cs.dropWhile (isSlash true))
  else Text.after? ['/', '/'] cs

/-- Cuts a text at the last occurrence of a character. -/
def cutAtLast (x : Char) (cs : List Char) : Option (List Char × List Char) :=
  if cs.contains x then
    let back := (cs.reverse.takeWhile (· != x)).reverse
    some (cs.take (cs.length - back.length - 1), back)
  else none

/-- Cuts a text at the first occurrence of a character. -/
def cutAtFirst (x : Char) (cs : List Char) : Option (List Char × List Char) :=
  if cs.contains x then some (cs.takeWhile (· != x), (cs.dropWhile (· != x)).drop 1) else none

/-- The text of the host and, if there is a colon behind it, the text of the port. -/
def cutPort (cs : List Char) : List Char × List Char :=
  match cs with
  | '[' :: _ =>
    let inside := cs.takeWhile (· != ']')
    let behind := cs.drop (inside.length + 1)
    match behind with
    | ':' :: port => (cs.take (inside.length + 1), port)
    | [] => (cs, [])
    | _ => (cs, [])
  | cs => (cutAtFirst ':' cs).getD (cs, [])

/-- The port that a text denotes, if any; the usual one is left out. -/
def readPort? (scheme : String) (cs : List Char) : Option (Option Nat) :=
  if cs.isEmpty then some none
  else if !cs.all Text.isAsciiDigit then none
  else
    let n := Decimal.value cs
    if 65535 < n then none
    else some (if usualPort? scheme = some n then none else some n)

/-- Whether a segment stands for the directory it is in. -/
def isSameStep (segment : List Char) : Bool :=
  let plain := segment.map Text.asciiLower
  plain == ".".toList || plain == "%2e".toList

/-- Whether a segment stands for the directory further out. -/
def isOuterStep (segment : List Char) : Bool :=
  let plain := segment.map Text.asciiLower
  plain == "..".toList || plain == ".%2e".toList || plain == "%2e.".toList ||
    plain == "%2e%2e".toList

/-- Whether a segment names a drive: a letter with a colon or a bar behind it. -/
def isDrive : List Char → Bool
  | [c, mark] => Text.isAsciiLetter c && (mark == ':' || mark == '|')
  | _ => false

/-- The segments of the directory further out; a drive is not left. -/
def outer (done : List (List Char)) : List (List Char) :=
  if done.getLast?.any isDrive then done else done.dropLast

/-- Takes the steps of a path; a step at its end leaves an empty segment. -/
def takeSteps : List (List Char) → List (List Char) → List (List Char)
  | done, [] => done
  | done, segment :: rest =>
    let stepped (found : List (List Char)) : List (List Char) :=
      if rest.isEmpty then found ++ [[]] else takeSteps found rest
    if isOuterStep segment then stepped (outer done)
    else if isSameStep segment then stepped done
    else takeSteps (done ++ [percentEncode inPathSet segment]) rest

/-- The segments of the path that a text denotes. -/
def readPath (special : Bool) (cs : List Char) : List (List Char) :=
  match cs with
  | [] => if special then [[]] else []
  | _ :: rest =>
    takeSteps [] (Text.splitAt '/' (rest.map fun c => if isSlash special c then '/' else c))

/-- A path without empty segments at its start; one is left if there are no others. -/
def withoutEmptyStart (path : List (List Char)) : List (List Char) :=
  match path.dropWhile (·.isEmpty) with
  | [] => [[]]
  | path => path

namespace Url

/-- The address with a host that a text denotes. -/
def read? (text : List Char) : Option Url := do
  let (scheme, rest) ← readScheme? (cleaned text)
  let special := isSpecial scheme
  let rest ← afterSlashes? scheme rest
  let authority := rest.takeWhile fun c => !endsAuthority special c
  let rest := rest.dropWhile fun c => !endsAuthority special c
  let (credentials, hostPort) :=
    if scheme = "file" then ([], authority) else (cutAtLast '@' authority).getD ([], authority)
  let (user, password) := (cutAtFirst ':' credentials).getD (credentials, [])
  let (hostText, portText) := if scheme = "file" then (hostPort, []) else cutPort hostPort
  if hostText.isEmpty then none
  let host ← Host.read? special hostText
  if scheme = "file" ∧ host = .domain "localhost".toList then none
  let port ← readPort? scheme portText
  let (rest, fragment) := match cutAtFirst '#' rest with
    | some (front, back) => (front, some (percentEncode inFragmentSet back))
    | none => (rest, none)
  let (rest, query) := match cutAtFirst '?' rest with
    | some (front, back) => (front, some (percentEncode (inQuerySet special) back))
    | none => (rest, none)
  let path := readPath special rest
  if scheme = "file" ∧ path.head?.any isDrive then none
  some ⟨scheme, percentEncode inUserSet user, percentEncode inUserSet password, host, port,
    if scheme = "file" then withoutEmptyStart path else path, query, fragment⟩

/-- The path and the query, as a request names them. -/
def target (u : Url) : List Char :=
  u.path.flatMap ('/' :: ·) ++ ((u.query.map ('?' :: ·)).getD [])

/-- User name and password, as an address names them. -/
def credentials (u : Url) : List Char :=
  if u.user.isEmpty && u.password.isEmpty then []
  else u.user ++ (if u.password.isEmpty then [] else ':' :: u.password) ++ ['@']

/-- How an address is written. -/
def text (u : Url) : String :=
  u.scheme ++ "://" ++ String.ofList (u.credentials ++ u.host.chars ++
    ((u.port.map fun n => ':' :: Decimal.digits n).getD []) ++ u.target ++
    ((u.fragment.map ('#' :: ·)).getD []))

end Url
end Http
end FormulaMap
