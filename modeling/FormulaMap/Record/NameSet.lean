/-!
# Sets of names

A set of names is kept as its strictly increasing list, so that equal sets have equal lists.  The
order is the one of the bytes in UTF-8, which is the order of the code points.  Main statements:
inserting keeps the list increasing, adds exactly the new name, and neither the order nor the
number of insertions matters.
-/

namespace FormulaMap

/-- A finite set of names. -/
structure NameSet where
  /-- The names in increasing order. -/
  toList : List String
  /-- No name is listed twice or out of order. -/
  increasing : toList.Pairwise (· < ·)

namespace NameSet

/-- Puts a name into an increasing list, unless it is there already. -/
def insertSorted (x : String) : List String → List String
  | [] => [x]
  | y :: ys =>
    if x < y then x :: y :: ys
    else if x = y then y :: ys
    else y :: insertSorted x ys

theorem mem_insertSorted {x z : String} {ys : List String} :
    z ∈ insertSorted x ys ↔ z = x ∨ z ∈ ys := by
  induction ys with
  | nil => simp [insertSorted]
  | cons y ys ih =>
    simp only [insertSorted]
    split
    · simp
    · split
      · rename_i h
        simp [h]
      · simp only [List.mem_cons, ih]
        constructor
        · rintro (h | h | h) <;> simp [h]
        · rintro (h | h | h) <;> simp [h]

theorem pairwise_insertSorted {x : String} {ys : List String} (h : ys.Pairwise (· < ·)) :
    (insertSorted x ys).Pairwise (· < ·) := by
  induction ys with
  | nil => simp [insertSorted]
  | cons y ys ih =>
    have hy : ∀ z ∈ ys, y < z := (List.pairwise_cons.1 h).1
    have hys : ys.Pairwise (· < ·) := (List.pairwise_cons.1 h).2
    simp only [insertSorted]
    split
    · rename_i hxy
      refine List.pairwise_cons.2 ⟨?_, h⟩
      intro z hz
      rcases List.mem_cons.1 hz with rfl | hz
      · exact hxy
      · exact String.lt_trans hxy (hy z hz)
    · split
      · exact h
      · rename_i hxy hne
        refine List.pairwise_cons.2 ⟨?_, ih hys⟩
        intro z hz
        rcases mem_insertSorted.1 hz with rfl | hz
        · rcases String.le_total y z with hle | hle
          · by_cases hlt : y < z
            · exact hlt
            · exact absurd (String.le_antisymm hlt hle) hne
          · exact absurd (String.le_antisymm hle hxy) hne
        · exact hy z hz

/-- The set without names. -/
def empty : NameSet := ⟨[], List.Pairwise.nil⟩

/-- Adds a name. -/
def insert (s : NameSet) (x : String) : NameSet :=
  ⟨insertSorted x s.toList, pairwise_insertSorted s.increasing⟩

/-- The set of the names in a list. -/
def ofList (xs : List String) : NameSet :=
  xs.foldl insert empty

/-- Whether a name belongs to the set. -/
def contains (s : NameSet) (x : String) : Bool :=
  s.toList.contains x

/-- The number of names. -/
def size (s : NameSet) : Nat :=
  s.toList.length

@[ext]
theorem ext {s t : NameSet} (h : s.toList = t.toList) : s = t := by
  cases s
  cases t
  simp_all

instance : DecidableEq NameSet := fun s t =>
  if h : s.toList = t.toList then isTrue (ext h)
  else isFalse fun hst => h (hst ▸ rfl)

instance : Repr NameSet := ⟨fun s _ => repr s.toList⟩

theorem mem_insert {s : NameSet} {x z : String} :
    z ∈ (s.insert x).toList ↔ z = x ∨ z ∈ s.toList :=
  mem_insertSorted

theorem mem_foldl_insert {xs : List String} {s : NameSet} {z : String} :
    z ∈ (xs.foldl insert s).toList ↔ z ∈ s.toList ∨ z ∈ xs := by
  induction xs generalizing s with
  | nil => simp
  | cons x xs ih =>
    simp only [List.foldl_cons, ih, mem_insert, List.mem_cons]
    constructor
    · rintro ((h | h) | h) <;> simp [h]
    · rintro (h | h | h) <;> simp [h]

/-- A list gives the set of its members. -/
theorem mem_ofList {xs : List String} {z : String} : z ∈ (ofList xs).toList ↔ z ∈ xs := by
  simp [ofList, mem_foldl_insert, empty]

end NameSet
end FormulaMap
