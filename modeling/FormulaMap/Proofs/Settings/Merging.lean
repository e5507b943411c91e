import FormulaMap.Settings.Layers
import Mathlib.Data.Option.Basic
import Mathlib.Data.String.Basic
import Mathlib.Order.Basic

/-!
# Layers laid over each other

A layer says something about a setting if it has a table for its section and a member for its key
in that table.  When layers whose sections are tables are laid over each other, what holds of a
setting is what the latest of them says that says anything; only a table does not replace another
one but is merged with it.
-/

namespace FormulaMap
namespace Settings
namespace Node

/-- Whether the keys of a table increase, so that each stands there once. -/
def Sorted (members : List (String × Node)) : Prop :=
  members.Pairwise fun a b => a.1 < b.1

/-! ## Looking up a key -/

theorem lookup_cons_eq_ite (key k : String) (node : Node) (rest : List (String × Node)) :
    ((key, node) :: rest).lookup k = if k = key then some node else rest.lookup k := by
  by_cases hk : k = key
  · rw [List.lookup_cons, hk, beq_self_eq_true, if_pos rfl]
  · rw [List.lookup_cons, beq_eq_false_iff_ne.mpr hk, if_neg hk]

theorem lookup_put (key k : String) (node : Node) (members : List (String × Node)) :
    (put key node members).lookup k = if k = key then some node else members.lookup k := by
  induction members with
  | nil => rw [put, lookup_cons_eq_ite]
  | cons m rest ih =>
      obtain ⟨other, before⟩ := m
      rw [put]
      by_cases hlt : key < other
      · rw [if_pos hlt, lookup_cons_eq_ite]
      · rw [if_neg hlt]
        by_cases heq : key = other
        · subst heq
          rw [if_pos rfl, lookup_cons_eq_ite, lookup_cons_eq_ite]
          by_cases hk : k = key
          · rw [if_pos hk, if_pos hk]
          · rw [if_neg hk, if_neg hk, if_neg hk]
        · rw [if_neg heq, lookup_cons_eq_ite, lookup_cons_eq_ite, ih]
          by_cases hk : k = key
          · rw [if_pos hk, if_neg (hk ▸ heq), if_pos hk]
          · rw [if_neg hk, if_neg hk]

theorem mem_put {key : String} {node : Node} {members : List (String × Node)} {e : String × Node}
    (h : e ∈ put key node members) : e = (key, node) ∨ e ∈ members := by
  induction members with
  | nil => exact .inl (List.mem_singleton.mp h)
  | cons m rest ih =>
      obtain ⟨other, before⟩ := m
      rw [put] at h
      by_cases hlt : key < other
      · rw [if_pos hlt] at h
        exact List.mem_cons.mp h
      · rw [if_neg hlt] at h
        by_cases heq : key = other
        · rw [if_pos heq] at h
          exact (List.mem_cons.mp h).imp_right (List.mem_cons_of_mem _)
        · rw [if_neg heq] at h
          rcases List.mem_cons.mp h with rfl | hrest
          · exact .inr List.mem_cons_self
          · exact (ih hrest).imp_right (List.mem_cons_of_mem _)

theorem Sorted.put {key : String} {node : Node} {members : List (String × Node)}
    (h : Sorted members) : Sorted (put key node members) := by
  induction members with
  | nil => exact List.pairwise_singleton _ _
  | cons m rest ih =>
      obtain ⟨other, before⟩ := m
      obtain ⟨hfirst, hrest⟩ := List.pairwise_cons.mp h
      rw [Node.put]
      by_cases hlt : key < other
      · rw [if_pos hlt]
        refine List.pairwise_cons.mpr ⟨?_, h⟩
        intro e he
        rcases List.mem_cons.mp he with rfl | hmem
        · exact hlt
        · exact lt_trans hlt (hfirst e hmem)
      · rw [if_neg hlt]
        by_cases heq : key = other
        · rw [if_pos heq]
          subst heq
          exact List.pairwise_cons.mpr ⟨hfirst, hrest⟩
        · rw [if_neg heq]
          refine List.pairwise_cons.mpr ⟨?_, ih hrest⟩
          intro e he
          rcases mem_put he with rfl | hmem
          · exact lt_of_le_of_ne (not_lt.mp hlt) (Ne.symm heq)
          · exact hfirst e hmem

theorem Sorted.lookup_tail {key : String} {node : Node} {rest : List (String × Node)}
    (h : Sorted ((key, node) :: rest)) : rest.lookup key = none := by
  rw [List.lookup_eq_none_iff]
  intro e he
  have hlt : key < e.1 := (List.pairwise_cons.mp h).1 e he
  exact bne_iff_ne.mpr hlt.ne

/-! ## Laying one layer over another -/

/-- What holds under a key when a later layer is laid over an earlier one. -/
def laid : Option Node → Option Node → Option Node
  | earlier, none => earlier
  | none, some node => some node
  | some before, some node => some (merge before node)

theorem lookup_mergeMembers {earlier later : List (String × Node)} (h : Sorted later) (k : String) :
    (mergeMembers earlier later).lookup k = laid (earlier.lookup k) (later.lookup k) := by
  induction later generalizing earlier with
  | nil => rw [mergeMembers, List.lookup_nil, laid]
  | cons m rest ih =>
      obtain ⟨key, node⟩ := m
      rw [mergeMembers, ih (List.pairwise_cons.mp h).2, lookup_put, lookup_cons_eq_ite]
      by_cases hk : k = key
      · subst hk
        rw [if_pos rfl, if_pos rfl, h.lookup_tail, laid]
        cases earlier.lookup k with
        | none => rfl
        | some before => rfl
      · rw [if_neg hk, if_neg hk]

theorem Sorted.mergeMembers {earlier : List (String × Node)} (h : Sorted earlier)
    (later : List (String × Node)) : Sorted (mergeMembers earlier later) := by
  induction later generalizing earlier with
  | nil =>
      rw [Node.mergeMembers]
      exact h
  | cons m rest ih =>
      rw [Node.mergeMembers]
      exact ih h.put

theorem sorted_ofMembers (origin : Origin) (members : List (String × Value)) :
    Sorted (ofMembers origin members) := by
  induction members with
  | nil =>
      rw [ofMembers]
      exact List.Pairwise.nil
  | cons m rest ih =>
      simp only [ofMembers]
      split
      · exact ih
      · exact ih.put

/-- Whether the keys of a layer and those of its sections increase. -/
structure Tidy (layer : List (String × Node)) : Prop where
  sorted : Sorted layer
  inner : ∀ k origin members, layer.lookup k = some (.table origin members) → Sorted members

theorem Tidy.nil : Tidy [] :=
  ⟨List.Pairwise.nil, fun _ _ _ h => nomatch h⟩

theorem Tidy.mergeMembers {earlier later : List (String × Node)} (hearlier : Tidy earlier)
    (hlater : Tidy later) : Tidy (mergeMembers earlier later) := by
  refine ⟨hearlier.sorted.mergeMembers later, ?_⟩
  intro k origin members h
  rw [lookup_mergeMembers hlater.sorted] at h
  cases hnew : later.lookup k with
  | none =>
      rw [hnew, laid] at h
      exact hearlier.inner k origin members h
  | some node =>
      rw [hnew] at h
      cases hold : earlier.lookup k with
      | none =>
          rw [hold, laid] at h
          exact hlater.inner k origin members (hnew.trans h)
      | some before =>
          rw [hold, laid] at h
          cases node with
          | plain o value =>
              rw [merge] at h
              cases h
          | table o inner =>
              cases before with
              | plain o' value =>
                  rw [merge] at h
                  exact hlater.inner k origin members (hnew.trans h)
              | table o' outer =>
                  rw [merge] at h
                  cases h
                  exact (hearlier.inner k o' outer hold).mergeMembers inner

theorem tidy_ofMembers (origin : Origin) (members : List (String × Value)) :
    Tidy (ofMembers origin members) := by
  induction members with
  | nil =>
      rw [ofMembers]
      exact Tidy.nil
  | cons m rest ih =>
      obtain ⟨key, value⟩ := m
      simp only [ofMembers]
      split
      · exact ih
      · refine ⟨ih.sorted.put, ?_⟩
        intro k o inner h
        rw [lookup_put] at h
        split at h
        · cases value with
          | table members =>
              rw [ofValue] at h
              cases h
              exact sorted_ofMembers origin members
          | _ => simp [ofValue] at h
        · exact ih.inner k o inner h

end Node

/-! ## What a layer says about a setting -/

open FormulaMap.Settings.Node (Tidy laid mergeMembers lookup_mergeMembers)

/-- The member of a table under a key. -/
def memberOf : Option Node → String → Option Node
  | some (.table _ members), key => members.lookup key
  | _, _ => none

/-- What a layer says about the setting under a key of a section. -/
def said (layer : List (String × Node)) (part key : String) : Option Node :=
  memberOf (layer.lookup part) key

/-- Whether a layer gives a section as a table or not at all. -/
def GivesTable (layer : List (String × Node)) (part : String) : Prop :=
  ∀ node, layer.lookup part = some node → ∃ origin members, node = .table origin members

instance (layer : List (String × Node)) (part : String) : Decidable (GivesTable layer part) :=
  match h : layer.lookup part with
  | none => isTrue fun node hnode => by cases h.symm.trans hnode
  | some (.table origin members) =>
    isTrue fun node hnode => ⟨origin, members, Option.some.inj (hnode.symm.trans h)⟩
  | some (.plain origin value) => isFalse fun hall => by
      obtain ⟨_, _, hnode⟩ := hall _ h
      cases hnode

theorem GivesTable.mergeMembers {earlier later : List (String × Node)} {part : String}
    (hearlier : GivesTable earlier part) (hlater : GivesTable later part) (htidy : Tidy later) :
    GivesTable (mergeMembers earlier later) part := by
  intro node h
  rw [lookup_mergeMembers htidy.sorted] at h
  cases hnew : later.lookup part with
  | none =>
      rw [hnew, laid] at h
      exact hearlier node h
  | some above =>
      obtain ⟨o, inner, rfl⟩ := hlater above hnew
      cases hold : earlier.lookup part with
      | none =>
          rw [hnew, hold, laid] at h
          cases h
          exact ⟨o, inner, rfl⟩
      | some below =>
          obtain ⟨o', outer, rfl⟩ := hearlier below hold
          rw [hnew, hold, laid, Node.merge] at h
          cases h
          exact ⟨o, _, rfl⟩

/-- Laying a table over a section lays each of its members over the one that was there. -/
theorem memberOf_laid_table {inner : List (String × Node)} (h : Node.Sorted inner) (o : Option Node)
    (origin : Origin) (key : String) :
    memberOf (laid o (some (.table origin inner))) key =
      laid (memberOf o key) (inner.lookup key) := by
  have hfresh : inner.lookup key = laid none (inner.lookup key) := by
    cases inner.lookup key with
    | none => rfl
    | some node => rfl
  cases o with
  | none => exact hfresh
  | some before =>
      cases before with
      | plain o' value =>
          rw [laid, Node.merge]
          exact hfresh
      | table o' outer =>
          rw [laid, Node.merge, memberOf, memberOf, lookup_mergeMembers h]

theorem said_mergeMembers {earlier later : List (String × Node)} {part : String}
    (hlater : GivesTable later part) (htidy : Tidy later) (key : String) :
    said (mergeMembers earlier later) part key =
      laid (said earlier part key) (said later part key) := by
  rw [said, said, said, lookup_mergeMembers htidy.sorted]
  cases hnew : later.lookup part with
  | none => rfl
  | some above =>
      obtain ⟨o, inner, rfl⟩ := hlater above hnew
      rw [memberOf_laid_table (htidy.inner part o inner hnew), memberOf]

/-! ## Tables in place of values -/

/-- Whether a node may stand in for another as far as values go: it is the same or both are
tables. -/
def StandsFor (a b : Node) : Prop :=
  a = b ∨ (∃ o members, a = .table o members) ∧ ∃ o members, b = .table o members

theorem StandsFor.refl (a : Node) : StandsFor a a :=
  .inl rfl

theorem standsFor_merge (before node : Node) : StandsFor (Node.merge before node) node := by
  cases node with
  | plain o value =>
      rw [Node.merge]
      exact .refl _
  | table o later =>
      cases before with
      | plain o' value =>
          rw [Node.merge]
          exact .refl _
      | table o' members =>
          rw [Node.merge]
          exact .inr ⟨⟨o, _, rfl⟩, o, later, rfl⟩

/-- What holds is what the latest says that says anything, if tables count alike. -/
theorem rel_laid {earlier earlier' : Option Node} (later : Option Node)
    (h : Option.Rel StandsFor earlier earlier') :
    Option.Rel StandsFor (laid earlier later) (later.or earlier') := by
  cases later with
  | none => exact h
  | some node =>
      cases earlier with
      | none => exact .some (.refl node)
      | some before => exact .some (standsFor_merge before node)

theorem rel_refl (o : Option Node) : Option.Rel StandsFor o o := by
  cases o with
  | none => exact .none
  | some node => exact .some (.refl node)

end Settings
end FormulaMap
