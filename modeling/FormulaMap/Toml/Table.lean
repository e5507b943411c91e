import FormulaMap.Toml.Scalar

/-!
# Tables of TOML

The values of a document, and how its lines build tables up.  A table is made in one of three
ways, and which it was decides what may be added to it later: by a header of its own, by a header
for something inside it, or by the points within a key.  A table written between braces is closed.
-/

namespace FormulaMap
namespace Toml

/-- How a table came to be. -/
inductive Making where
  /-- By its own header. -/
  | headed
  /-- By a header for something inside it. -/
  | implied
  /-- By the points within a key. -/
  | dotted
  deriving DecidableEq, Repr

/-- A value of a document. -/
inductive Item where
  | text (s : String)
  | scalar (s : Scalar)
  | array (elements : List Item)
  /-- A table written between braces. -/
  | closed (members : List (String × Item))
  | table (making : Making) (members : List (String × Item))
  /-- An array of tables with a header each. -/
  | tables (elements : List (List (String × Item)))
  deriving Repr

/-- The members of a table. -/
abbrev Members := List (String × Item)

namespace Members

/-- Adds a member under a new key, at the end. -/
def add (ms : Members) (key : String) (item : Item) : Members :=
  ms ++ [(key, item)]

/-- Replaces the member under a key. -/
def replace (ms : Members) (key : String) (item : Item) : Members :=
  ms.map fun (k, i) => if k == key then (k, item) else (k, i)

/-- Applies a change to the table at the end of a path.  Missing tables on the way are made; of an
array of tables the last one is taken; the points within a key lead into no table that has a header
of its own. -/
def change (making : Making) (act : Making → Members → Option Members) :
    List String → Making → Members → Option Members
  | [], own, ms => act own ms
  | key :: path, _, ms =>
    match ms.lookup key with
    | none => (change making act path making []).map fun inner => ms.add key (.table making inner)
    | some (.table own inner) =>
      if making = .dotted ∧ own = .headed then none
      else (change making act path own inner).map fun inner => ms.replace key (.table own inner)
    | some (.tables elements) =>
      match elements.getLast? with
      | none => none
      | some last =>
        (change making act path .headed last).map fun last =>
          ms.replace key (.tables (elements.dropLast ++ [last]))
    | some _ => none

/-- Adds a value under a key with points.  A plain key adds to the table itself, and a key with
points only to a table that such keys have made. -/
def set (ms : Members) (path : List String) (key : String) (item : Item) : Option Members :=
  change .dotted
    (fun own inner =>
      if (own = .dotted) ≠ (path ≠ []) then none
      else if (inner.lookup key).isSome then none
      else some (inner.add key item))
    path .headed ms

/-- Opens the table that a header names: a new one, or one that has been implied so far. -/
def openTable (ms : Members) (path : List String) (key : String) : Option Members :=
  change .implied
    (fun _ inner =>
      match inner.lookup key with
      | none => some (inner.add key (.table .headed []))
      | some (.table .implied members) => some (inner.replace key (.table .headed members))
      | some _ => none)
    path .headed ms

/-- Opens one more table of the array of tables that a header names. -/
def openElement (ms : Members) (path : List String) (key : String) : Option Members :=
  change .implied
    (fun _ inner =>
      match inner.lookup key with
      | none => some (inner.add key (.tables [[]]))
      | some (.tables elements) => some (inner.replace key (.tables (elements ++ [[]])))
      | some _ => none)
    path .headed ms

/-- Adds a value to the table that the last header names. -/
def setWithin (ms : Members) (header path : List String) (key : String) (item : Item) :
    Option Members :=
  change .implied (fun _ inner => inner.set path key item) header .headed ms

end Members
end Toml
end FormulaMap
