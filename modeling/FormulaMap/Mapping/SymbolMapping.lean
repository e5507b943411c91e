import FormulaMap.Mapping.Construct

/-!
# Symbol mappings

A mapping from formula symbols to constructs that remembers the order in which the symbols first
came.  Giving a symbol a construct again changes the construct and leaves its place.
-/

namespace FormulaMap

/-- An ordered mapping from symbols to constructs. -/
structure SymbolMapping where
  /-- The symbols with their constructs, in mapping order. -/
  entries : List (String × Construct)
  deriving DecidableEq, Repr

namespace SymbolMapping

/-- The mapping without symbols. -/
def empty : SymbolMapping := ⟨[]⟩

/-- Sets the construct of a symbol in a list of entries, at the end if the symbol is new. -/
def put (symbol : String) (value : Construct) :
    List (String × Construct) → List (String × Construct)
  | [] => [(symbol, value)]
  | (key, old) :: rest =>
    if key = symbol then (key, value) :: rest
    else (key, old) :: put symbol value rest

/-- Sets the construct of a symbol. -/
def insert (m : SymbolMapping) (symbol : String) (value : Construct) : SymbolMapping :=
  ⟨put symbol value m.entries⟩

/-- The construct of a symbol, if it has one. -/
def get? (m : SymbolMapping) (symbol : String) : Option Construct :=
  (m.entries.find? fun e => e.1 = symbol).map (·.2)

/-- The symbols in mapping order. -/
def keys (m : SymbolMapping) : List String :=
  m.entries.map (·.1)

/-- The number of symbols. -/
def size (m : SymbolMapping) : Nat :=
  m.entries.length

/-- Whether there are no symbols. -/
def isEmpty (m : SymbolMapping) : Bool :=
  m.entries.isEmpty

/-- Keeps the symbols that a test accepts and gives the others in mapping order. -/
def retain (m : SymbolMapping) (keep : String → Bool) : SymbolMapping × List String :=
  (⟨m.entries.filter fun e => keep e.1⟩, m.keys.filter fun k => !keep k)

/-- The mapping that a list of pairs builds up from left to right. -/
def ofList (pairs : List (String × Construct)) : SymbolMapping :=
  pairs.foldl (fun m e => m.insert e.1 e.2) empty

/-- The number of symbols without a construct. -/
def unmappedCount (m : SymbolMapping) : Nat :=
  (m.entries.filter fun e => e.2.isUnmapped).length

/-- A mapping as an object, in mapping order. -/
def toJson (m : SymbolMapping) : Json.Value :=
  .object (m.entries.map fun e => (e.1, e.2.toJson))

@[simp]
theorem entries_empty : empty.entries = [] := rfl

@[simp]
theorem entries_insert (m : SymbolMapping) (symbol : String) (value : Construct) :
    (m.insert symbol value).entries = put symbol value m.entries := rfl

/-- The constructs that `put` leaves for the other symbols. -/
theorem mem_keys_put {symbol key : String} {value : Construct}
    {entries : List (String × Construct)} :
    key ∈ (put symbol value entries).map (·.1) ↔ key = symbol ∨ key ∈ entries.map (·.1) := by
  induction entries with
  | nil => simp [put]
  | cons e rest ih =>
    obtain ⟨k, v⟩ := e
    simp only [put]
    split
    · rename_i h
      simp [h]
    · simp only [List.map_cons, List.mem_cons, ih]
      constructor
      · rintro (h | h | h) <;> simp [h]
      · rintro (h | h | h) <;> simp [h]

/-- Setting a construct keeps the symbols distinct. -/
theorem nodup_keys_put {symbol : String} {value : Construct}
    {entries : List (String × Construct)} (h : (entries.map (·.1)).Nodup) :
    ((put symbol value entries).map (·.1)).Nodup := by
  induction entries with
  | nil => simp [put]
  | cons e rest ih =>
    obtain ⟨k, v⟩ := e
    simp only [List.map_cons, List.nodup_cons] at h
    simp only [put]
    split
    · simpa using h
    · rename_i hne
      simp only [List.map_cons, List.nodup_cons, mem_keys_put]
      refine ⟨?_, ih h.2⟩
      rintro (hk | hk)
      · exact hne hk
      · exact h.1 hk

end SymbolMapping
end FormulaMap
