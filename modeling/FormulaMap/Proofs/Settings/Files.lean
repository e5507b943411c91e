import FormulaMap.Proofs.Settings.Merging
import FormulaMap.Settings.Load

/-!
# Settings given by files

A file says about a setting what stands under its key in the table of its section.  Of several
members with one key the last counts.
-/

namespace FormulaMap
namespace Settings

/-- What the members of a file say about the setting under a key of a section.  Of two members with
one key the later one counts. -/
def written (members : List (String × Value)) (part key : String) : Option Value :=
  match members.reverse.lookup part with
  | some (.table inner) => inner.reverse.lookup key
  | _ => none

/-- Whether a file gives a section as a table or not at all. -/
def WritesTable (members : List (String × Value)) (part : String) : Prop :=
  ∀ value, members.reverse.lookup part = some value → ∃ inner, value = .table inner

instance (members : List (String × Value)) (part : String) : Decidable (WritesTable members part) :=
  match h : members.reverse.lookup part with
  | none => isTrue fun value hvalue => by cases h.symm.trans hvalue
  | some (.table inner) => isTrue fun value hvalue => ⟨inner, Option.some.inj (hvalue.symm.trans h)⟩
  | some (.text _) | some (.character _) | some (.flag _) | some (.natural _) | some (.integer _)
  | some (.real _) | some (.sequence _) => isFalse fun hall => by
      obtain ⟨_, hvalue⟩ := hall _ h
      cases hvalue

theorem lookup_ofMembers (origin : Origin) (members : List (String × Value)) (k : String) :
    (Node.ofMembers origin members).lookup k =
      (members.reverse.lookup k).map (Node.ofValue origin) := by
  induction members with
  | nil => rw [Node.ofMembers]; rfl
  | cons m rest ih =>
      obtain ⟨key, value⟩ := m
      have hsingle : [(key, value)].lookup k = if k = key then some value else none := by
        by_cases hk : k = key
        · rw [hk, List.lookup_cons, beq_self_eq_true, if_pos rfl]
        · rw [List.lookup_cons, beq_eq_false_iff_ne.mpr hk, if_neg hk, List.lookup_nil]
      rw [List.reverse_cons, List.lookup_append, hsingle]
      simp only [Node.ofMembers]
      by_cases hk : k = key
      · subst hk
        rw [if_pos rfl]
        cases hlater : rest.reverse.lookup k with
        | none =>
            rw [hlater] at ih
            rw [ih, Option.map_none, Option.isSome_none, if_neg Bool.false_ne_true,
              Node.lookup_put, if_pos rfl]
            rfl
        | some later =>
            rw [hlater] at ih
            rw [ih, Option.map_some, Option.isSome_some, if_pos rfl, ih]
            rfl
      · rw [if_neg hk, Option.or_none, ← ih]
        split
        · rfl
        · rw [Node.lookup_put, if_neg hk]

theorem said_ofMembers (origin : Origin) (members : List (String × Value)) (part key : String) :
    said (Node.ofMembers origin members) part key =
      (written members part key).map (Node.ofValue origin) := by
  rw [said, lookup_ofMembers, written]
  cases members.reverse.lookup part with
  | none => rfl
  | some value =>
      cases value with
      | table inner =>
          rw [Option.map_some, Node.ofValue, memberOf, lookup_ofMembers]
      | _ => simp [Node.ofValue, memberOf]

theorem WritesTable.givesTable {members : List (String × Value)} {part : String}
    (h : WritesTable members part) (origin : Origin) :
    GivesTable (Node.ofMembers origin members) part := by
  intro node hnode
  rw [lookup_ofMembers] at hnode
  obtain ⟨value, hvalue, rfl⟩ := Option.map_eq_some_iff.mp hnode
  obtain ⟨inner, rfl⟩ := h value hvalue
  exact ⟨origin, Node.ofMembers origin inner, Node.ofValue.eq_1 ..⟩

/-- The members that a settings file holds: none if there is no file, and otherwise those of its
text, which is a document.  A file that cannot be read holds nothing that could be told. -/
def Holds (file : String × Found) (members : List (String × Value)) : Prop :=
  match file.2 with
  | .nothing => members = []
  | .text content => ∃ items, Toml.document? content = some items ∧ members = Value.ofMembers items
  | .locked _ => False

theorem fileLayer_of_holds {file : String × Found} {members : List (String × Value)}
    (h : Holds file members) : fileLayer file = .ok (Node.ofMembers (.file file.1) members) := by
  rw [Holds] at h
  rw [fileLayer]
  cases hfound : file.2 with
  | nothing =>
      simp only [hfound] at h
      rw [h, Node.ofMembers]
  | text content =>
      simp only [hfound] at h
      obtain ⟨items, hitems, rfl⟩ := h
      simp only [hitems]
  | locked cause =>
      simp only [hfound] at h

end Settings
end FormulaMap
