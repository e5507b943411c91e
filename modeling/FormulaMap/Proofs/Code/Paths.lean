import FormulaMap.Code.Methods
import Mathlib.Data.List.Forall2

/-!
# Paths to nodes

A node is told from all others by the path to it, which counts, for each node on the way from the
outermost down, the nodes before it in the row it stands in.  In the order of paths a node comes
before those inside it and these before what is behind it.  The methods of a tree are collected by
a walk that remembers which nodes it has passed.  A path does not go by that walk, and leads to the
same declarations, each behind the same nodes.
-/

namespace FormulaMap
namespace Code

/-- The nodes of a forest that stand next to each other and not inside others. -/
def Forest.row (f : Forest) : List Node := f.nodes.map (·.2)

/-- A node and the nodes before it in its row, the nearest first. -/
structure Spot where
  node : Node
  earlier : List Node

/-- Where a path leads from a row of nodes. -/
def spot? (row : List Node) : List Nat → Option Spot
  | [] => none
  | [k] => row[k]?.map fun n => ⟨n, (row.take k).reverse⟩
  | k :: path => row[k]?.bind fun n => spot? n.inner.row path

/-- Whether a path leads from a row of nodes to a method declaration. -/
def LeadsToMethod (row : List Node) (path : List Nat) : Prop :=
  ∃ p, spot? row path = some p ∧ p.node.kind = .phrase .methodDeclaration

theorem spot?_singleton (front behind : List Node) (n : Node) :
    spot? (front ++ n :: behind) [front.length] = some ⟨n, front.reverse⟩ := by
  simp [spot?]

theorem spot?_cons {path : List Nat} (h : path ≠ []) (front behind : List Node) (n : Node) :
    spot? (front ++ n :: behind) (front.length :: path) = spot? n.inner.row path := by
  obtain ⟨k, rest, rfl⟩ := List.exists_cons_of_ne_nil h
  simp [spot?]

theorem ne_nil_of_spot? {row : List Node} {path : List Nat} {p : Spot}
    (h : spot? row path = some p) : path ≠ [] := by
  rintro rfl
  cases h

theorem LeadsToMethod.ne_nil {row : List Node} {path : List Nat} (h : LeadsToMethod row path) :
    path ≠ [] := by
  obtain ⟨p, hp, -⟩ := h
  exact ne_nil_of_spot? hp

theorem LeadsToMethod.lt_length {row : List Node} {k : Nat} {path : List Nat}
    (h : LeadsToMethod row (k :: path)) : k < row.length := by
  obtain ⟨p, hp, -⟩ := h
  by_contra hk
  have hnone : row[k]? = none := List.getElem?_eq_none (by omega)
  cases path with
  | nil => simp [spot?, hnone] at hp
  | cons j rest => simp [spot?, hnone] at hp

theorem leadsToMethod_singleton_iff {front behind : List Node} {n : Node} :
    LeadsToMethod (front ++ n :: behind) [front.length] ↔ n.kind = .phrase .methodDeclaration := by
  simp [LeadsToMethod, spot?_singleton]

theorem leadsToMethod_cons_iff {front behind : List Node} {n : Node} {path : List Nat}
    (h : path ≠ []) :
    LeadsToMethod (front ++ n :: behind) (front.length :: path) ↔
      LeadsToMethod n.inner.row path := by
  rw [LeadsToMethod, LeadsToMethod, spot?_cons h]

/-! ## The paths to methods -/

/-- The paths to the method declarations of a forest, given the number of the nodes before it in
its row. -/
def Forest.methodPaths (k : Nat) : Forest → List (List Nat)
  | .text _ => []
  | .node _ _ kind inner after =>
    let inside := (inner.methodPaths 0).map (k :: ·)
    let behind := after.methodPaths (k + 1)
    if kind = .phrase .methodDeclaration then [k] :: (inside ++ behind) else inside ++ behind

theorem mem_methodPaths_node_iff {before : List Char} {field : Option Field} {kind : Kind}
    {inner after : Forest} {k : Nat} {path : List Nat} :
    path ∈ (Forest.node before field kind inner after).methodPaths k ↔
      kind = .phrase .methodDeclaration ∧ path = [k] ∨
        (∃ rest ∈ inner.methodPaths 0, path = k :: rest) ∨ path ∈ after.methodPaths (k + 1) := by
  simp only [Forest.methodPaths]
  split
  · next hkind => simp [hkind, eq_comm]
  · next hkind => simp [hkind, eq_comm]

theorem exists_cons_of_mem_methodPaths {f : Forest} {k : Nat} {path : List Nat}
    (h : path ∈ f.methodPaths k) : ∃ j rest, path = j :: rest ∧ k ≤ j := by
  induction f generalizing k path with
  | text cs => cases h
  | node before field kind inner after _ ihAfter =>
      rcases mem_methodPaths_node_iff.mp h with ⟨-, rfl⟩ | ⟨rest, -, rfl⟩ | hbehind
      · exact ⟨k, [], rfl, Nat.le_refl k⟩
      · exact ⟨k, rest, rfl, Nat.le_refl k⟩
      · obtain ⟨j, rest, rfl, hj⟩ := ihAfter hbehind
        exact ⟨j, rest, rfl, by omega⟩

/-- No path comes twice, and a node comes before those inside it and behind it. -/
theorem pairwise_methodPaths (f : Forest) (k : Nat) :
    (f.methodPaths k).Pairwise (· < ·) := by
  induction f generalizing k with
  | text cs => exact .nil
  | node before field kind inner after ihInner ihAfter =>
      have hinside : ((inner.methodPaths 0).map (k :: ·)).Pairwise (· < ·) := by
        rw [List.pairwise_map]
        exact (ihInner 0).imp fun h => List.cons_lt_cons_iff.mpr (.inr ⟨rfl, h⟩)
      have hparts : ((inner.methodPaths 0).map (k :: ·) ++ after.methodPaths (k + 1)).Pairwise
          (· < ·) := by
        refine List.pairwise_append.mpr ⟨hinside, ihAfter (k + 1), ?_⟩
        intro path hpath other hother
        obtain ⟨rest, -, rfl⟩ := List.mem_map.mp hpath
        obtain ⟨j, more, rfl, hj⟩ := exists_cons_of_mem_methodPaths hother
        exact List.cons_lt_cons_iff.mpr (.inl hj)
      simp only [Forest.methodPaths]
      split
      · refine List.pairwise_cons.mpr ⟨?_, hparts⟩
        intro other hother
        rcases List.mem_append.mp hother with hmem | hmem
        · obtain ⟨rest, hrest, rfl⟩ := List.mem_map.mp hmem
          obtain ⟨j, more, rfl, -⟩ := exists_cons_of_mem_methodPaths hrest
          exact List.cons_lt_cons_iff.mpr (.inr ⟨rfl, List.nil_lt_cons j more⟩)
        · obtain ⟨j, more, rfl, hj⟩ := exists_cons_of_mem_methodPaths hmem
          exact List.cons_lt_cons_iff.mpr (.inl hj)
      · exact hparts

/-- The paths lead to the method declarations in turn, each behind the nodes that were passed before
it in its row. -/
theorem forall₂_methodPaths (f : Forest) (rows : Nat) (earlier : List Node) :
    List.Forall₂ (fun path m => spot? (earlier.reverse ++ f.row) path = some ⟨m.node, m.earlier⟩)
      (f.methodPaths earlier.length) (f.methods rows earlier) := by
  induction f generalizing rows earlier with
  | text cs => exact .nil
  | node before field kind inner after ihInner ihAfter =>
      have hhere (path : List Nat) (h : path ≠ []) :
          spot? (earlier.reverse ++ ⟨kind, inner⟩ :: after.row) (earlier.length :: path) =
            spot? inner.row path := by
        have hcons := spot?_cons h earlier.reverse after.row ⟨kind, inner⟩
        rwa [List.length_reverse] at hcons
      have hinside : List.Forall₂
          (fun path m => spot? (earlier.reverse ++ ⟨kind, inner⟩ :: after.row) path =
            some ⟨m.node, m.earlier⟩)
          ((inner.methodPaths 0).map (earlier.length :: ·))
          (inner.methods (rows + before.count '\n') []) := by
        rw [List.forall₂_map_left_iff]
        refine (ihInner (rows + before.count '\n') []).imp ?_
        intro path m h
        exact (hhere path (ne_nil_of_spot? h)).trans h
      have hbehind := ihAfter (rows + before.count '\n' + inner.spelling.count '\n')
        (⟨kind, inner⟩ :: earlier)
      rw [List.reverse_cons, List.append_assoc, List.singleton_append] at hbehind
      have hparts := List.rel_append hinside hbehind
      simp only [Forest.methodPaths, Forest.methods]
      split
      · refine .cons ?_ hparts
        have hthis := spot?_singleton earlier.reverse after.row ⟨kind, inner⟩
        rwa [List.length_reverse, List.reverse_reverse] at hthis
      · exact hparts

/-- The paths to the method declarations of a forest are those that lead to one from its row, with
other nodes in front, past these. -/
theorem mem_methodPaths_iff {f : Forest} {front : List Node} {path : List Nat} :
    path ∈ f.methodPaths front.length ↔
      LeadsToMethod (front ++ f.row) path ∧ ∀ k rest, path = k :: rest → front.length ≤ k := by
  induction f generalizing front path with
  | text cs =>
      constructor
      · intro h
        cases h
      · rintro ⟨hleads, hpast⟩
        obtain ⟨k, rest, rfl⟩ := List.exists_cons_of_ne_nil hleads.ne_nil
        have hlt := hleads.lt_length
        have hle := hpast k rest rfl
        simp [Forest.row, Forest.nodes] at hlt
        omega
  | node before field kind inner after ihInner ihAfter =>
      have hinner {rest : List Nat} :
          rest ∈ inner.methodPaths 0 ↔ LeadsToMethod inner.row rest := by
        simpa using @ihInner [] rest
      have hafter := @ihAfter (front ++ [⟨kind, inner⟩]) path
      rw [List.length_append, List.length_singleton, List.append_assoc,
        List.singleton_append] at hafter
      rw [mem_methodPaths_node_iff, hafter]
      constructor
      · rintro (⟨hkind, rfl⟩ | ⟨rest, hrest, rfl⟩ | ⟨hleads, hpast⟩)
        · refine ⟨leadsToMethod_singleton_iff.mpr hkind, ?_⟩
          intro k rest heq
          cases heq
          exact Nat.le_refl _
        · have hleads := hinner.mp hrest
          refine ⟨(leadsToMethod_cons_iff hleads.ne_nil).mpr hleads, ?_⟩
          intro k rest heq
          cases heq
          exact Nat.le_refl _
        · refine ⟨hleads, ?_⟩
          intro k rest heq
          have hle := hpast k rest heq
          omega
      · rintro ⟨hleads, hpast⟩
        obtain ⟨k, rest, rfl⟩ := List.exists_cons_of_ne_nil hleads.ne_nil
        have hle := hpast k rest rfl
        by_cases hk : k = front.length
        · subst hk
          by_cases hrest : rest = []
          · subst hrest
            exact .inl ⟨leadsToMethod_singleton_iff.mp hleads, rfl⟩
          · exact .inr (.inl ⟨rest, hinner.mpr ((leadsToMethod_cons_iff hrest).mp hleads), rfl⟩)
        · refine .inr (.inr ⟨hleads, ?_⟩)
          intro j more heq
          cases heq
          omega

/-- The methods of a tree stand, in the order of the paths, at the ends of all the paths that lead
to a method declaration, each behind the nodes before it in its row. -/
theorem exists_paths_methods (f : Forest) :
    ∃ paths : List (List Nat), paths.Pairwise (· < ·) ∧
      (∀ path, path ∈ paths ↔ LeadsToMethod f.row path) ∧
      List.Forall₂ (fun path m => spot? f.row path = some ⟨m.node, m.earlier⟩)
        paths (f.methods 0 []) := by
  refine ⟨f.methodPaths 0, pairwise_methodPaths f 0, ?_, forall₂_methodPaths f 0 []⟩
  intro path
  have hpaths := @mem_methodPaths_iff f [] path
  simpa using hpaths

end Code
end FormulaMap
