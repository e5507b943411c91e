import FormulaMap.Json.Skip

/-!
# Typed reading

Reading a document straight into values of known types: strings, numbers, lists and structures.
A structure is an object whose members may come in any order, each at most once, with members
that it does not know passed over; it may also be a list of its fields in order.
-/

namespace FormulaMap
namespace Json

/-- Reads the value a text starts with only to say that it is not of the expected type. -/
def wrongType (expected : String) (cs : List Char) : Fault :=
  let found (result : Except Fault (Found × List Char)) : Fault :=
    match result with
    | .ok (f, rest) => .here (.invalidType f expected) rest
    | .error e => e
  match cs with
  | [] => .next .expectedValue []
  | c :: rest =>
    if c == 'n' then found ((readWord "ull".toList rest).map fun r => (.null, r))
    else if c == 't' then found ((readWord "rue".toList rest).map fun r => (.bool true, r))
    else if c == 'f' then found ((readWord "alse".toList rest).map fun r => (.bool false, r))
    else if c == '-' || Text.isAsciiDigit c then
      found ((readSigned (c :: rest)).map fun (n, r) => (Found.ofNumber n, r))
    else if c == '"' then
      found ((readString 0 rest).map fun (s, r) => (.string (String.ofList s), r))
    else if c == '[' then .here (.invalidType .sequence expected) (c :: rest)
    else if c == '\x7b' then .here (.invalidType .map expected) (c :: rest)
    else .next .expectedValue (c :: rest)

/-- A reader of values of one type, given how deep containers may still be nested. -/
abbrev Reader (α : Type) := Nat → List Char → Except Fault (α × List Char)

/-- Reads a string. -/
def readText : Reader String := fun _ cs =>
  match skipBlanks cs with
  | [] => .error (.next .endInValue [])
  | '"' :: rest => do
    let (s, rest) ← readString 0 rest
    .ok (String.ofList s, rest)
  | rest => .error (wrongType "a string" rest)

/-- Reads a truth value. -/
def readBool : Reader Bool := fun _ cs =>
  match skipBlanks cs with
  | [] => .error (.next .endInValue [])
  | 't' :: rest => do
    let rest ← readWord "rue".toList rest
    .ok (true, rest)
  | 'f' :: rest => do
    let rest ← readWord "alse".toList rest
    .ok (false, rest)
  | rest => .error (wrongType "a boolean" rest)

/-- Reads a number and makes a value of it, or says what was found instead. -/
def readNumeric (expected : String) (accept : Number → Except Reason α) : Reader α := fun _ cs =>
  match skipBlanks cs with
  | [] => .error (.next .endInValue [])
  | c :: rest =>
    if c == '-' || Text.isAsciiDigit c then do
      let (n, rest) ← readSigned (c :: rest)
      match accept n with
      | .ok v => .ok (v, rest)
      | .error reason => .error (.here reason rest)
    else .error (wrongType expected (c :: rest))

/-- Reads an integer of 64 bits without sign; the name is the one messages use for the type. -/
def readNatural (typeName : String) : Reader Nat :=
  readNumeric typeName fun
    | .natural n => .ok n
    | .negative n => .error (.invalidValue (.negative n) typeName)
    | .floating _ v => .error (.invalidType (.floating v) typeName)

/-- Reads a floating-point value of 32 bits. -/
def readSingle : Reader Binary.Value :=
  readNumeric "f32" fun
    | .natural n => .ok (Binary.Value.ofNat Binary.single n)
    | .negative n => .ok (Binary.Value.ofNat Binary.single n).neg
    | .floating _ v => .ok (v.convert Binary.single)

/-- Reads `null` as nothing and anything else by the given reader. -/
def readOptional (inner : Reader α) : Reader (Option α) := fun depth cs =>
  match skipBlanks cs with
  | 'n' :: rest => do
    let rest ← readWord "ull".toList rest
    .ok (none, rest)
  | rest => do
    let (v, rest) ← inner depth rest
    .ok (some v, rest)

/-- Where reading goes on behind a list in which a fault was found. -/
def closeList (cs : List Char) : List Char :=
  match skipBlanks cs with
  | ']' :: rest => rest
  | ',' :: rest => skipBlanks rest
  | rest => rest

/-- Where reading goes on behind an object in which a fault was found. -/
def closeObject (cs : List Char) : List Char :=
  match skipBlanks cs with
  | '\x7d' :: rest => rest
  | rest => rest

/-- The bracket that ends a list of which everything wanted was read. -/
def endList (cs : List Char) : Except Fault (List Char) :=
  match skipBlanks cs with
  | ']' :: rest => .ok rest
  | ',' :: rest =>
    match skipBlanks rest with
    | ']' :: more => .error (.next .trailingComma (']' :: more))
    | more => .error (.next .trailingCharacters more)
  | [] => .error (.next .endInList [])
  | rest => .error (.next .trailingCharacters rest)

/-- Reads the elements of a list. -/
def readItems (item : Reader α) (depth : Nat) :
    Nat → Bool → List Char → Except Fault (List α × List Char)
  | 0, _, cs => .error (.next .recursionLimit cs)
  | fuel + 1, first, cs => do
    let (more, cs) ← nextElement first cs
    if more then
      let (v, cs) ← item depth cs
      let (vs, cs) ← readItems item depth fuel false cs
      .ok (v :: vs, cs)
    else .ok ([], cs)

/-- Reads a list. -/
def readList (item : Reader α) : Reader (List α) := fun depth cs =>
  match skipBlanks cs with
  | [] => .error (.next .endInValue [])
  | '[' :: rest =>
    if depth ≤ 1 then .error (.next .recursionLimit ('[' :: rest))
    else readItems item (depth - 1) (rest.length + 1) true rest
  | rest => .error (wrongType "a sequence" rest)

/-- Reads the name of one of several variants: a string, or an object with the name as its only
key and `null` as its value. -/
def readVariant (named? : String → Option α) (names : List String) : Reader α := fun depth cs =>
  let variant (cs : List Char) : Except Fault (α × List Char) :=
    match skipBlanks cs with
    | [] => .error (.next .endInValue [])
    | '"' :: rest => do
      let (s, rest) ← readString 0 rest
      match named? (String.ofList s) with
      | some v => .ok (v, rest)
      | none => .error (.here (.unknownVariant (String.ofList s) names) rest)
    | rest => .error (wrongType "variant identifier" rest)
  match skipBlanks cs with
  | [] => .error (.next .endInValue [])
  | '"' :: rest => variant ('"' :: rest)
  | '\x7b' :: rest =>
    if depth ≤ 1 then .error (.next .recursionLimit ('\x7b' :: rest))
    else do
      let (v, rest) ← variant rest
      let rest ← readColon rest
      match skipBlanks rest with
      | [] => .error (.next .endInValue [])
      | 'n' :: rest => do
        let rest ← readWord "ull".toList rest
        match skipBlanks rest with
        | '\x7d' :: rest => .ok (v, rest)
        | [] => .error (.here .endInObject [])
        | rest => .error (.here .expectedValue rest)
      | rest => .error (wrongType "unit" rest)
  | rest => .error (.next .expectedValue rest)

/-- A field of a structure: its name, whether it may be missing, and a reader that says how its
value changes the structure. -/
structure Field (σ : Type) where
  name : String
  required : Bool
  read : Reader (σ → σ)

/-- A field whose value is put into the structure. -/
def Field.of (name : String) (required : Bool) (reader : Reader α) (set : α → σ → σ) : Field σ :=
  ⟨name, required, fun depth cs => (reader depth cs).map fun (v, rest) => (set v, rest)⟩

/-- A structure: the name that messages use, its fields in order, and its value before any field
is read. -/
structure Shape (σ : Type) where
  name : String
  fields : List (Field σ)
  initial : σ

namespace Shape

/-- Reads the members of an object into a structure, up to the closing brace; `seen` lists the
fields that were read. -/
def readMembers (shape : Shape σ) (depth : Nat) :
    Nat → Bool → List String → σ → List Char → Except Fault ((σ × List String) × List Char)
  | 0, _, _, _, cs => .error (.next .recursionLimit cs)
  | fuel + 1, first, seen, s, cs => do
    let (more, cs) ← nextKey first cs
    if more then
      let (key, cs) ← readString 0 cs
      let key := String.ofList key
      match shape.fields.find? fun f => f.name == key with
      | none =>
        let cs ← readColon cs
        let cs ← passValue (enoughFuel cs) cs
        readMembers shape depth fuel false seen s cs
      | some field =>
        if seen.contains key then .error (.within (.duplicateField key) cs)
        else
          let cs ← readColon cs
          let (change, cs) ← field.read depth cs
          readMembers shape depth fuel false (key :: seen) (change s) cs
    else .ok ((s, seen), cs)

/-- Reads the elements of a list into the fields of a structure, up to where the last of them
ends; `index` counts the fields that were read. -/
def readElements (shape : Shape σ) (depth : Nat) :
    List (Field σ) → Nat → Bool → σ → List Char → Except Fault (σ × List Char)
  | [], _, _, s, cs => .ok (s, cs)
  | field :: fields, index, first, s, cs =>
    match nextElement first cs with
    | .error e => .error e
    | .ok (true, cs) =>
      match field.read depth cs with
      | .error e => .error e
      | .ok (change, cs) => readElements shape depth fields (index + 1) false (change s) cs
    | .ok (false, _) =>
      match (field :: fields).find? (·.required) with
      | none => .ok (s, cs)
      | some missing =>
        let place := (shape.fields.findIdx? fun f => f.name == missing.name).getD index
        .error (.within (.invalidLength place
          (shape.name ++ " with " ++ Decimal.text shape.fields.length ++ " element" ++
            (if shape.fields.length = 1 then "" else "s"))) cs)

/-- The first field that has to be there and was not read. -/
def missing? (shape : Shape σ) (seen : List String) : Option (Field σ) :=
  shape.fields.find? fun f => f.required && !seen.contains f.name

/-- Reads a structure. -/
def read (shape : Shape σ) : Reader σ := fun depth cs =>
  match skipBlanks cs with
  | [] => .error (.next .endInValue [])
  | '\x7b' :: rest =>
    if depth ≤ 1 then .error (.next .recursionLimit ('\x7b' :: rest))
    else
      match shape.readMembers (depth - 1) (rest.length + 1) true [] shape.initial rest with
      | .error e => .error (e.settle closeObject)
      | .ok ((s, seen), rest) =>
        match shape.missing? seen with
        | some field => .error (Fault.settle closeObject (.within (.missingField field.name) rest))
        | none => .ok (s, rest.drop 1)
  | '[' :: rest =>
    if depth ≤ 1 then .error (.next .recursionLimit ('[' :: rest))
    else
      match shape.readElements (depth - 1) shape.fields 0 true shape.initial rest with
      | .error e => .error (e.settle closeList)
      | .ok (s, rest) => do
        let rest ← endList rest
        .ok (s, rest)
  | rest => .error (wrongType shape.name rest)

end Shape

/-- The value of one type that a document holds. -/
def documentOf (reader : Reader α) (cs : List Char) : Except Fault α :=
  finish (reader depthLimit cs)

end Json
end FormulaMap
