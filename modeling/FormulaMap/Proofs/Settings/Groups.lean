import FormulaMap.Proofs.Settings.Merging
import Mathlib.Data.List.Pairwise

/-!
# Reading groups of settings

The members of a table are read one after the other into a group.  When the settings of the group
do not touch each other, each ends up with the value that stands under its own key, or keeps the one
it had, and reading fails exactly if a value under the key of some setting does not fit it.
-/

namespace FormulaMap
namespace Settings

open FormulaMap.Settings.Node (Sorted)

/-- A setting of a group: its key, how its raw value is read, and where the group keeps it. -/
structure Setting (σ : Type) where
  {α : Type}
  key : String
  read : NodeReader α
  set : α → σ → σ
  get : σ → α
  get_set : ∀ v s, get (set v s) = v

namespace Setting

variable {σ : Type}

/-- The setting as a field of its group. -/
def field (e : Setting σ) : NodeField σ :=
  .of e.key e.read e.set

/-- Two settings with keys of their own that do not touch each other. -/
def Apart (a b : Setting σ) : Prop :=
  a.key ≠ b.key ∧ (∀ v s, a.get (b.set v s) = a.get s) ∧ ∀ v s, b.get (a.set v s) = b.get s

instance : Std.Symm (@Apart σ) where
  symm _ _ h := ⟨h.1.symm, h.2.2, h.2.1⟩

/-- The value of a setting, given what is said about it and the group that holds otherwise. -/
def valueFrom (e : Setting σ) (node : Option Node) (s : σ) : Except Misfit e.α :=
  match node with
  | none => .ok (e.get s)
  | some n => e.read n

/-! ## One member -/

/-- The setting with a key. -/
def withKey? (es : List (Setting σ)) (key : String) : Option (Setting σ) :=
  es.find? fun e => e.key == key

theorem withKey?_of_mem {es : List (Setting σ)} (hapart : es.Pairwise Apart) {e : Setting σ}
    (he : e ∈ es) : withKey? es e.key = some e := by
  induction es with
  | nil => cases he
  | cons first rest ih =>
      obtain ⟨hfirst, hrest⟩ := List.pairwise_cons.mp hapart
      rw [withKey?, List.find?_cons]
      rcases List.mem_cons.mp he with rfl | hmem
      · rw [beq_self_eq_true]
      · rw [beq_eq_false_iff_ne.mpr (hfirst e hmem).1]
        exact ih hrest hmem

theorem mem_of_withKey? {es : List (Setting σ)} {key : String} {e : Setting σ}
    (h : withKey? es key = some e) : e ∈ es ∧ e.key = key := by
  rw [withKey?] at h
  have hkey := List.find?_some h
  exact ⟨List.mem_of_find?_eq_some h, beq_iff_eq.mp hkey⟩

/-- A member without a setting is passed over; any other is read into the setting of its key. -/
theorem readMembers_cons (es : List (Setting σ)) (key : String) (n : Node)
    (rest : List (String × Node)) (s : σ) :
    readMembers (es.map field) ((key, n) :: rest) s =
      match withKey? es key with
      | none => readMembers (es.map field) rest s
      | some e =>
        match e.read n with
        | .error m => .error (m.below key)
        | .ok v => readMembers (es.map field) rest (e.set v s) := by
  have hfind : (es.map field).find? (fun f => f.key == key) = (withKey? es key).map field :=
    List.find?_map
  rw [readMembers, hfind]
  cases withKey? es key with
  | none => rfl
  | some e =>
      have hread : e.field.read n = (e.read n).map e.set := rfl
      simp only [Option.map_some, hread]
      cases e.read n with
      | error m => rfl
      | ok v => rfl

theorem readMembers_cons_eq_ok_iff {es : List (Setting σ)} {key : String} {n : Node}
    {rest : List (String × Node)} {s s' : σ} :
    readMembers (es.map field) ((key, n) :: rest) s = .ok s' ↔
      withKey? es key = none ∧ readMembers (es.map field) rest s = .ok s' ∨
        ∃ e v, withKey? es key = some e ∧ e.read n = .ok v ∧
          readMembers (es.map field) rest (e.set v s) = .ok s' := by
  rw [readMembers_cons]
  cases withKey? es key with
  | none => simp
  | some e => cases hread : e.read n <;> simp [hread]

/-! ## All members -/

/-- What reading the members leaves in a setting. -/
theorem valueFrom_of_readMembers {es : List (Setting σ)} (hapart : es.Pairwise Apart)
    {members : List (String × Node)} (hsorted : Sorted members) {s s' : σ}
    (h : readMembers (es.map field) members s = .ok s') {e : Setting σ} (he : e ∈ es) :
    e.valueFrom (members.lookup e.key) s = .ok (e.get s') := by
  induction members generalizing s with
  | nil =>
      rw [readMembers] at h
      cases h
      rfl
  | cons m rest ih =>
      obtain ⟨key, n⟩ := m
      have hrest := (List.pairwise_cons.mp hsorted).2
      rw [Node.lookup_cons_eq_ite]
      rcases readMembers_cons_eq_ok_iff.mp h with ⟨hnone, hread⟩ | ⟨other, v, hsome, hv, hread⟩
      · have hkey : e.key ≠ key := by
          rintro rfl
          rw [withKey?_of_mem hapart he] at hnone
          cases hnone
        rw [if_neg hkey]
        exact ih hrest hread
      · have hkept := ih hrest hread
        obtain ⟨hother, rfl⟩ := mem_of_withKey? hsome
        by_cases hkey : e.key = other.key
        · have hsame : e = other := by
            rw [← hkey, withKey?_of_mem hapart he] at hsome
            exact Option.some.inj hsome
          subst hsame
          -- the key stands in the table once, so that the rest leaves the value as it is
          rw [hsorted.lookup_tail, valueFrom, e.get_set] at hkept
          rw [if_pos rfl, valueFrom, hv]
          exact hkept
        · have hne : e ≠ other := fun heq => hkey (congrArg key heq)
          have huntouched := (hapart.forall he hother hne).2.1 v s
          rw [if_neg hkey, ← hkept]
          cases rest.lookup e.key with
          | none => rw [valueFrom, valueFrom, huntouched]
          | some node => rfl

/-- Where reading the members fails, the value under the key of some setting does not fit it. -/
theorem exists_error_of_readMembers {es : List (Setting σ)} {members : List (String × Node)}
    (hsorted : Sorted members) {s : σ} {m : Misfit}
    (h : readMembers (es.map field) members s = .error m) :
    ∃ e ∈ es, ∃ n, members.lookup e.key = some n ∧ ∃ m', e.read n = .error m' := by
  induction members generalizing s with
  | nil =>
      rw [readMembers] at h
      cases h
  | cons first rest ih =>
      obtain ⟨key, n⟩ := first
      have hlater : ∀ s', readMembers (es.map field) rest s' = .error m →
          ∃ e ∈ es, ∃ n', ((key, n) :: rest).lookup e.key = some n' ∧
            ∃ m', e.read n' = .error m' := by
        intro s' hrest
        obtain ⟨e, he, n', hn', hm'⟩ := ih (List.pairwise_cons.mp hsorted).2 hrest
        have hkey : e.key ≠ key := by
          rintro rfl
          rw [hsorted.lookup_tail] at hn'
          cases hn'
        refine ⟨e, he, n', ?_, hm'⟩
        rw [Node.lookup_cons_eq_ite, if_neg hkey, hn']
      rw [readMembers_cons] at h
      cases hfind : withKey? es key with
      | none =>
          rw [hfind] at h
          exact hlater s h
      | some e =>
          obtain ⟨he, rfl⟩ := mem_of_withKey? hfind
          simp only [hfind] at h
          cases hread : e.read n with
          | error m' =>
              refine ⟨e, he, n, ?_, m', hread⟩
              rw [Node.lookup_cons_eq_ite, if_pos rfl]
          | ok v =>
              simp only [hread] at h
              exact hlater (e.set v s) h

/-! ## Groups and tables in place of values -/

/-- Whether no table fits a setting. -/
def RefusesTables (e : Setting σ) : Prop :=
  ∀ origin members, ∃ m, e.read (.table origin members) = .error m

/-- A node that stands for another gives a setting the same value. -/
theorem valueFrom_eq_ok_iff_of_rel {e : Setting σ} (hrefuses : e.RefusesTables)
    {node node' : Option Node} (h : Option.Rel StandsFor node node') {s : σ} {v : e.α} :
    e.valueFrom node s = .ok v ↔ e.valueFrom node' s = .ok v := by
  cases h with
  | none => exact Iff.rfl
  | some hstands =>
      rcases hstands with rfl | ⟨⟨o, members, rfl⟩, o', members', rfl⟩
      · exact Iff.rfl
      · obtain ⟨m, hm⟩ := hrefuses o members
        obtain ⟨m', hm'⟩ := hrefuses o' members'
        rw [valueFrom, valueFrom, hm, hm']
        constructor
        · intro hok
          cases hok
        · intro hok
          cases hok

/-- What a section gives for a group: what holds otherwise if there is none, and the group read
from its table if there is one. -/
def groupFrom (name : String) (es : List (Setting σ)) (node : Option Node) (s : σ) :
    Except Misfit σ :=
  match node with
  | none => .ok s
  | some n => nodeGroup name (es.map field) s n

theorem valueFrom_of_groupFrom {name : String} {es : List (Setting σ)} (hapart : es.Pairwise Apart)
    {node : Option Node} (htable : ∀ n, node = some n → ∃ o members, n = .table o members)
    (hsorted : ∀ o members, node = some (.table o members) → Sorted members) {s s' : σ}
    (h : groupFrom name es node s = .ok s') {e : Setting σ} (he : e ∈ es) :
    e.valueFrom (memberOf node e.key) s = .ok (e.get s') := by
  cases node with
  | none =>
      cases h
      rfl
  | some n =>
      obtain ⟨o, members, rfl⟩ := htable n rfl
      exact valueFrom_of_readMembers hapart (hsorted o members rfl) h he

theorem exists_error_of_groupFrom {name : String} {es : List (Setting σ)}
    {node : Option Node} (htable : ∀ n, node = some n → ∃ o members, n = .table o members)
    (hsorted : ∀ o members, node = some (.table o members) → Sorted members) {s : σ} {m : Misfit}
    (h : groupFrom name es node s = .error m) :
    ∃ e ∈ es, ∃ m', e.valueFrom (memberOf node e.key) s = .error m' := by
  cases node with
  | none => cases h
  | some n =>
      obtain ⟨o, members, rfl⟩ := htable n rfl
      obtain ⟨e, he, n, hn, m', hm'⟩ := exists_error_of_readMembers (hsorted o members rfl) h
      refine ⟨e, he, m', ?_⟩
      rw [memberOf, hn, valueFrom, hm']

end Setting
end Settings
end FormulaMap
