import FormulaMap.Decimal.Digits
import FormulaMap.Http.Domain.Name

/-!
# Hosts

The host of a URL: a domain, an address of four or of sixteen bytes, or, in schemes without rules
of their own, any text.
-/

namespace FormulaMap
namespace Http

/-- A host. -/
inductive Host where
  | domain (name : List Char)
  /-- An address of four bytes, as a number. -/
  | short (address : Nat)
  /-- An address of sixteen bytes, as eight numbers. -/
  | long (pieces : List Nat)
  deriving DecidableEq, Repr

/-- The number that a part of an address denotes: hexadecimal behind `0x`, octal behind `0`, and
decimal otherwise. -/
def addressPart? (cs : List Char) : Option Nat :=
  let read (base : Nat) (isDigit : Char → Bool) (digits : List Char) : Option Nat :=
    if digits.all isDigit then
      some (digits.foldl (fun n c => base * n + Text.hexValue c) 0)
    else none
  match cs with
  | [] => none
  | '0' :: 'x' :: rest => read 16 Text.isHexDigit rest
  | '0' :: 'X' :: rest => read 16 Text.isHexDigit rest
  | '0' :: c :: rest => read 8 (fun c => '0' ≤ c && c ≤ '7') (c :: rest)
  | cs => read 10 Text.isAsciiDigit cs

/-- The labels of a domain; an empty label at its end is dropped. -/
def labels (name : List Char) : List (List Char) :=
  let parts := Text.splitAt '.' name
  if 1 < parts.length ∧ parts.getLast? = some [] then parts.dropLast else parts

/-- Whether a domain ends in a number, so that it has to be an address. -/
def endsInNumber (name : List Char) : Bool :=
  match (labels name).getLast? with
  | none => false
  | some last =>
    (!last.isEmpty && last.all Text.isAsciiDigit) ||
      (match last with
        | '0' :: 'x' :: rest => rest.all Text.isHexDigit
        | '0' :: 'X' :: rest => rest.all Text.isHexDigit
        | _ => false)

/-- The address of four bytes that a text denotes: all parts but the last are one byte each, and
the last fills the rest. -/
def shortAddress? (name : List Char) : Option Nat := do
  let parts ← (labels name).mapM addressPart?
  let last ← parts.getLast?
  let front := parts.dropLast
  if 4 < parts.length ∨ front.any (255 < ·) ∨ Nat.pow 256 (5 - parts.length) ≤ last then none
  else some (front.zipIdx.foldl (fun n (part, place) => n + part * Nat.pow 256 (3 - place)) last)

/-- The numbers that a run of groups denotes; the last group may be an address of four bytes. -/
def groups? : List (List Char) → Option (List Nat)
  | [] => some []
  | [last] =>
    if last.contains '.' then do
      let bytes ← (Text.splitAt '.' last).mapM fun part =>
        if part.isEmpty || !part.all Text.isAsciiDigit || 3 < part.length ||
            (1 < part.length && part.head? == some '0') then none
        else
          let n := Decimal.value part
          if n < 256 then some n else none
      match bytes with
      | [a, b, c, d] => some [256 * a + b, 256 * c + d]
      | _ => none
    else (group? last).map fun n => [n]
  | part :: rest => do
    let n ← group? part
    let more ← groups? rest
    some (n :: more)
where
  /-- The number of one group. -/
  group? (part : List Char) : Option Nat :=
    if part.isEmpty || 4 < part.length || !part.all Text.isHexDigit then none
    else some (part.foldl (fun n c => 16 * n + Text.hexValue c) 0)

/-- The groups of a text; none if it is empty. -/
def groupTexts (cs : List Char) : List (List Char) :=
  if cs.isEmpty then [] else Text.splitAt ':' cs

/-- Cuts a text at the first pair of colons. -/
def cutAtPair : List Char → Option (List Char × List Char)
  | ':' :: ':' :: rest => some ([], rest)
  | c :: rest => (cutAtPair rest).map fun (front, back) => (c :: front, back)
  | [] => none

/-- The address of sixteen bytes that a text denotes; a pair of colons stands for groups of
zeros. -/
def longAddress? (cs : List Char) : Option (List Nat) := do
  match cutAtPair cs with
  | none =>
    let pieces ← groups? (groupTexts cs)
    if pieces.length = 8 then some pieces else none
  | some (front, back) =>
    if front.contains '.' then none
    let front ← groups? (groupTexts front)
    let back ← groups? (groupTexts back)
    let count := front.length + back.length
    if count < 8 then some (front ++ List.replicate (8 - count) 0 ++ back) else none

namespace Host

/-- The host of a special scheme that a text denotes. -/
def ofDomain? (cs : List Char) : Option Host := do
  let decoded ← textOfBytes? (percentDecode cs)
  let name ← Domain.ascii? decoded
  if name.isEmpty then none
  else if endsInNumber name then (shortAddress? name).map .short
  else some (.domain name)

/-- The host that a text denotes. -/
def read? (special : Bool) (cs : List Char) : Option Host :=
  match cs with
  | '[' :: rest => do
    let body ← Text.before? [']'] rest
    (longAddress? body).map .long
  | cs =>
    if special then ofDomain? cs
    else if cs.any isForbidden then none
    else some (.domain (percentEncode isControl cs))

/-- The bytes of an address of four, most significant first. -/
def bytes (address : Nat) : List Nat :=
  [address / 0x1000000 % 256, address / 0x10000 % 256, address / 256 % 256, address % 256]

/-- The length of the run of zeros that a list starts with. -/
def zeroRun (pieces : List Nat) : Nat :=
  (pieces.takeWhile (· == 0)).length

/-- The place and the length of the longest run of at least two zeros, the first of several. -/
def longestRun (pieces : List Nat) : Option (Nat × Nat) :=
  (List.range pieces.length).foldl
    (fun best place =>
      let run := zeroRun (pieces.drop place)
      match best with
      | none => if 2 ≤ run then some (place, run) else none
      | some (_, length) => if length < run then some (place, run) else best)
    none

/-- Groups with colons between them. -/
def groupsText (pieces : List Nat) : List Char :=
  Text.joinWith [':'] (pieces.map fun n => Nat.toDigits 16 n)

/-- How a host is written. -/
def chars : Host → List Char
  | domain name => name
  | short address => Text.joinWith ['.'] ((bytes address).map Decimal.digits)
  | long pieces =>
    match longestRun pieces with
    | none => '[' :: groupsText pieces ++ [']']
    | some (place, length) =>
      '[' :: groupsText (pieces.take place) ++ [':', ':'] ++
        groupsText (pieces.drop (place + length)) ++ [']']

end Host
end Http
end FormulaMap
