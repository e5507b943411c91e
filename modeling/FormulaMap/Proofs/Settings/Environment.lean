import FormulaMap.Proofs.Settings.Merging
import FormulaMap.Settings.Load
import Mathlib.Data.List.Infix

/-!
# Settings given by variables

The variables of an environment are laid over each other to one layer.  Case does not matter in
their names.  The variable of a setting gives it the value its own text stands for if all others
are silent about it, as those whose names stand for something else are, and a setting about which
every variable is silent has no value in the layer.
-/

namespace FormulaMap

namespace Text

theorem toNat_asciiLower (c : Char) :
    (asciiLower c).toNat = if 65 ≤ c.toNat ∧ c.toNat ≤ 90 then c.toNat + 32 else c.toNat := by
  have hrange : ('A' ≤ c && c ≤ 'Z') = true ↔ 65 ≤ c.toNat ∧ c.toNat ≤ 90 := by
    rw [Bool.and_eq_true, decide_eq_true_iff, decide_eq_true_iff, Char.le_def, Char.le_def]
    exact Iff.rfl
  rw [asciiLower]
  by_cases h : 65 ≤ c.toNat ∧ c.toNat ≤ 90
  · have hvalid : (c.toNat + 32).isValidChar := Or.inl (by omega)
    rw [if_pos (hrange.mpr h), if_pos h, Char.ofNat, dif_pos hvalid]
    rfl
  · rw [if_neg (hrange.not.mpr h), if_neg h]

theorem isBlank_asciiLower (c : Char) : isBlank (asciiLower c) = isBlank c := by
  rw [Bool.eq_iff_iff]
  simp only [isBlank, toNat_asciiLower, Bool.or_eq_true, Bool.and_eq_true, decide_eq_true_eq,
    beq_iff_eq]
  split <;> omega

theorem asciiLower_eq_lowLine_iff (c : Char) : asciiLower c = '_' ↔ c = '_' := by
  rw [← Char.toNat_inj, ← Char.toNat_inj, toNat_asciiLower]
  have hcode : '_'.toNat = 95 := rfl
  rw [hcode]
  split <;> omega

theorem trim_map_asciiLower (cs : List Char) :
    trim (cs.map asciiLower) = (trim cs).map asciiLower := by
  have hblank : isBlank ∘ asciiLower = isBlank := funext isBlank_asciiLower
  rw [trim, trim, trimEnd, trimEnd, trimStart, trimStart, List.dropWhile_map, hblank,
    ← List.map_reverse, List.dropWhile_map, hblank, ← List.map_reverse]

end Text

namespace Settings

/-! ## Names -/

/-- A name without regard to the case of its letters. -/
def foldCase (name : String) : List Char :=
  name.toList.map Text.asciiLower

theorem pointed_cons_of_ne {c : Char} {cs : List Char} (h : ¬(c = '_' ∧ cs.head? = some '_')) :
    pointed (c :: cs) = c :: pointed cs := by
  rw [pointed]
  rintro rest rfl rfl
  exact h ⟨rfl, rfl⟩

theorem pointed_map_asciiLower (cs : List Char) :
    pointed (cs.map Text.asciiLower) = (pointed cs).map Text.asciiLower := by
  induction cs using pointed.induct with
  | case1 rest ih =>
      have hlow : Text.asciiLower '_' = '_' := (Text.asciiLower_eq_lowLine_iff '_').mpr rfl
      rw [List.map_cons, List.map_cons, hlow, pointed, pointed, ih]
      rfl
  | case2 c rest hne ih =>
      have hplain : ¬(c = '_' ∧ rest.head? = some '_') := by
        rintro ⟨rfl, hhead⟩
        obtain ⟨more, rfl⟩ := List.head?_eq_some_iff.mp hhead
        exact hne more rfl rfl
      have hfolded : ¬(Text.asciiLower c = '_' ∧ (rest.map Text.asciiLower).head? = some '_') := by
        rintro ⟨hc, hhead⟩
        rw [List.head?_map, Option.map_eq_some_iff] at hhead
        obtain ⟨x, hx, hlow⟩ := hhead
        rw [Text.asciiLower_eq_lowLine_iff] at hc hlow
        exact hplain ⟨hc, hlow ▸ hx⟩
      rw [List.map_cons, pointed_cons_of_ne hfolded, pointed_cons_of_ne hplain, ih]
      rfl
  | case3 => rfl

/-- The keys that a folded name stands for. -/
theorem keysOf?_eq (name : String) :
    keysOf? name =
      if (Text.trim (foldCase name)).take 5 = "fmap_".toList then
        let keys := Text.splitAt '.' (Text.trim (pointed ((Text.trim (foldCase name)).drop 5)))
        if keys.any (·.isEmpty) then none else some (keys.map String.ofList)
      else none := by
  have hbeginning : "FMAP_".toList.map Text.asciiLower = "fmap_".toList := by decide
  have hlength : "FMAP_".toList.length = 5 := by decide
  rw [foldCase, Text.trim_map_asciiLower, ← List.map_take, ← List.map_drop, pointed_map_asciiLower,
    Text.trim_map_asciiLower, keysOf?, afterFolded?, hbeginning, hlength]
  by_cases h : ((Text.trim name.toList).take 5).map Text.asciiLower = "fmap_".toList
  · rw [if_pos h, if_pos h, Option.bind_eq_bind, Option.bind_some]
  · rw [if_neg h, if_neg h, Option.bind_eq_bind, Option.bind_none]

/-- Which keys a name stands for does not depend on case. -/
theorem keysOf?_eq_of_foldCase {name name' : String} (h : foldCase name = foldCase name') :
    keysOf? name = keysOf? name' := by
  rw [keysOf?_eq, keysOf?_eq, h]

/-! ## Single variables -/

/-- Lays one variable over a layer. -/
def layVariable (members : List (String × Node)) (v : String × String) : List (String × Node) :=
  match keysOf? v.1 with
  | none => members
  | some keys =>
    match (Value.ofVariable v.2).beneath keys with
    | .table added => Node.mergeMembers members (Node.ofMembers .environment added)
    | _ => members

theorem variableLayer_eq_foldl (environment : List (String × String)) :
    variableLayer environment = environment.foldl layVariable [] :=
  rfl

theorem layVariable_of_cons {members : List (String × Node)} {v : String × String} {k : String}
    {ks : List String} (h : keysOf? v.1 = some (k :: ks)) :
    layVariable members v =
      Node.mergeMembers members
        [(k, Node.ofValue .environment ((Value.ofVariable v.2).beneath ks))] := by
  rw [layVariable, h]
  rfl

theorem keysOf?_ne_nil (name : String) : keysOf? name ≠ some [] := by
  rw [keysOf?_eq]
  intro h
  split at h
  · simp only at h
    split at h
    · cases h
    · have hnil := List.map_eq_nil_iff.mp (Option.some.inj h)
      exact Text.splitAt_ne_nil _ _ hnil
  · cases h

theorem lookup_layVariable_of_cons (members : List (String × Node)) {v : String × String}
    {k : String} {ks : List String} (h : keysOf? v.1 = some (k :: ks)) (key : String) :
    (layVariable members v).lookup key =
      if key = k then
        Node.laid (members.lookup key)
          (some (Node.ofValue .environment ((Value.ofVariable v.2).beneath ks)))
      else members.lookup key := by
  rw [layVariable_of_cons h, Node.lookup_mergeMembers (List.pairwise_singleton _ _),
    Node.lookup_cons_eq_ite, List.lookup_nil]
  split
  · rfl
  · rfl

theorem tidy_layVariable {members : List (String × Node)} (h : Node.Tidy members)
    (v : String × String) : Node.Tidy (layVariable members v) := by
  rw [layVariable]
  split
  · exact h
  · split
    · exact h.mergeMembers (Node.tidy_ofMembers _ _)
    · exact h

theorem tidy_variableLayer (environment : List (String × String)) :
    Node.Tidy (variableLayer environment) := by
  rw [variableLayer_eq_foldl]
  exact List.foldlRecOn environment layVariable Node.Tidy.nil fun _ h v _ => tidy_layVariable h v

/-- A variable adds to a layer what its own layer says, if that gives the section as a table. -/
theorem said_layVariable (members : List (String × Node)) {v : String × String} {part : String}
    (htable : GivesTable (variableLayer [v]) part) (key : String) :
    said (layVariable members v) part key =
      Node.laid (said members part key) (said (variableLayer [v]) part key) := by
  have htidy : Node.Tidy (variableLayer [v]) := tidy_variableLayer [v]
  have hlookup : (layVariable members v).lookup part =
      Node.laid (members.lookup part) ((variableLayer [v]).lookup part) := by
    rw [variableLayer_eq_foldl, List.foldl_cons, List.foldl_nil]
    cases hkeys : keysOf? v.1 with
    | none => rw [layVariable, layVariable, hkeys, List.lookup_nil, Node.laid]
    | some keys =>
        cases keys with
        | nil => exact absurd hkeys (keysOf?_ne_nil v.1)
        | cons k ks =>
            rw [lookup_layVariable_of_cons members hkeys, lookup_layVariable_of_cons [] hkeys]
            split
            · rfl
            · rfl
  rw [said, said, said, hlookup]
  cases hnew : (variableLayer [v]).lookup part with
  | none => rfl
  | some node =>
      obtain ⟨o, inner, rfl⟩ := htable node hnew
      rw [memberOf_laid_table (htidy.inner part o inner hnew), memberOf]

/-! ## Which variables matter for a setting -/

/-- Whether a variable says nothing about the setting under a key of a section, nor puts anything
but a table in place of the section. -/
structure Silent (v : String × String) (part key : String) : Prop where
  table : GivesTable (variableLayer [v]) part
  nothing : said (variableLayer [v]) part key = none

/-- Whether a name stands for a section, a setting in it, or something below that. -/
def Touches (name part key : String) : Prop :=
  ∃ keys, keysOf? name = some keys ∧ (keys <+: [part, key] ∨ [part, key] <+: keys)

theorem lookup_variableLayer_of_two {v : String × String} {k k' : String} {ks : List String}
    (h : keysOf? v.1 = some (k :: k' :: ks)) (part : String) :
    (variableLayer [v]).lookup part =
      if part = k then
        some (.table .environment
          [(k', Node.ofValue .environment ((Value.ofVariable v.2).beneath ks))])
      else none := by
  have hnode : Node.ofValue .environment ((Value.ofVariable v.2).beneath (k' :: ks)) =
      .table .environment [(k', Node.ofValue .environment ((Value.ofVariable v.2).beneath ks))] := by
    rw [Value.beneath, Node.ofValue, Node.ofMembers, Node.ofMembers]
    rfl
  rw [variableLayer_eq_foldl, List.foldl_cons, List.foldl_nil, lookup_layVariable_of_cons [] h, hnode,
    List.lookup_nil]
  rfl

theorem givesTable_of_two {v : String × String} {k k' : String} {ks : List String}
    (h : keysOf? v.1 = some (k :: k' :: ks)) (part : String) :
    GivesTable (variableLayer [v]) part := by
  intro node hnode
  rw [lookup_variableLayer_of_two h] at hnode
  split at hnode
  · cases hnode
    exact ⟨_, _, rfl⟩
  · cases hnode

theorem said_of_two {v : String × String} {k k' : String} {ks : List String}
    (h : keysOf? v.1 = some (k :: k' :: ks)) (part key : String) :
    said (variableLayer [v]) part key =
      if part = k ∧ key = k' then
        some (Node.ofValue .environment ((Value.ofVariable v.2).beneath ks))
      else none := by
  rw [said, lookup_variableLayer_of_two h]
  by_cases hpart : part = k
  · rw [if_pos hpart, memberOf, Node.lookup_cons_eq_ite, List.lookup_nil]
    by_cases hkey : key = k'
    · rw [if_pos hkey, if_pos ⟨hpart, hkey⟩]
    · rw [if_neg hkey, if_neg fun hboth => hkey hboth.2]
  · rw [if_neg hpart, if_neg fun hboth => hpart hboth.1, memberOf]
    intro _ _ htable
    cases htable

/-- A variable whose name stands for something else is silent, whatever its text is. -/
theorem silent_of_not_touches {v : String × String} {part key : String}
    (h : ¬Touches v.1 part key) : Silent v part key := by
  cases hkeys : keysOf? v.1 with
  | none =>
      have hempty : variableLayer [v] = [] := by
        rw [variableLayer_eq_foldl, List.foldl_cons, List.foldl_nil, layVariable, hkeys]
      refine ⟨?_, ?_⟩
      · intro node hnode
        rw [hempty] at hnode
        cases hnode
      · rw [hempty]
        rfl
  | some keys =>
      match keys with
      | [] => exact absurd hkeys (keysOf?_ne_nil v.1)
      | [k] =>
          have hpart : part ≠ k := by
            rintro rfl
            exact h ⟨[part], hkeys, .inl ⟨[key], rfl⟩⟩
          have hnone : (variableLayer [v]).lookup part = none := by
            rw [variableLayer_eq_foldl, List.foldl_cons, List.foldl_nil,
              lookup_layVariable_of_cons [] hkeys, if_neg hpart, List.lookup_nil]
          refine ⟨?_, ?_⟩
          · intro node hnode
            rw [hnone] at hnode
            cases hnode
          · rw [said, hnone]
            rfl
      | k :: k' :: ks =>
          refine ⟨givesTable_of_two hkeys part, ?_⟩
          have hother : ¬(part = k ∧ key = k') := by
            rintro ⟨rfl, rfl⟩
            exact h ⟨part :: key :: ks, hkeys, .inr ⟨ks, rfl⟩⟩
          rw [said_of_two hkeys, if_neg hother]

/-! ## The whole environment -/

theorem said_foldl_layVariable {environment : List (String × String)} {part key : String}
    (h : ∀ v ∈ environment, Silent v part key) (members : List (String × Node)) :
    said (environment.foldl layVariable members) part key = said members part key := by
  induction environment generalizing members with
  | nil => rfl
  | cons v rest ih =>
      obtain ⟨htable, hnothing⟩ := h v List.mem_cons_self
      have hrest := ih (fun w hw => h w (List.mem_cons_of_mem v hw)) (layVariable members v)
      rw [List.foldl_cons, hrest, said_layVariable members htable, hnothing, Node.laid]

/-- A setting about which every variable is silent has no value in the layer. -/
theorem said_variableLayer_of_silent {environment : List (String × String)} {part key : String}
    (h : ∀ v ∈ environment, Silent v part key) :
    said (variableLayer environment) part key = none := by
  rw [variableLayer_eq_foldl, said_foldl_layVariable h]
  rfl

/-- The variable of a setting gives it its value if all others are silent about it. -/
theorem said_variableLayer_of_mem {environment : List (String × String)} {name text part key : String}
    (hnames : (environment.map fun v => foldCase v.1).Nodup) (hmem : (name, text) ∈ environment)
    (hkeys : keysOf? name = some [part, key])
    (hothers : ∀ v ∈ environment, foldCase v.1 ≠ foldCase name → Silent v part key) :
    said (variableLayer environment) part key =
      some (Node.ofValue .environment (Value.ofVariable text)) := by
  obtain ⟨before, behind, rfl⟩ := List.append_of_mem hmem
  rw [List.map_append, List.map_cons, List.nodup_append, List.nodup_cons] at hnames
  obtain ⟨-, ⟨hnotbehind, -⟩, hdistinct⟩ := hnames
  have hbefore : ∀ v ∈ before, Silent v part key := by
    intro v hv
    have hne := hdistinct _ (List.mem_map_of_mem hv) _ List.mem_cons_self
    exact hothers v (List.mem_append_left _ hv) hne
  have hbehind : ∀ v ∈ behind, Silent v part key := by
    intro v hv
    have hne : foldCase v.1 ≠ foldCase name := by
      intro heq
      exact hnotbehind (List.mem_map.mpr ⟨v, hv, heq⟩)
    exact hothers v (List.mem_append_right _ (List.mem_cons_of_mem _ hv)) hne
  have hstart : said (before.foldl layVariable []) part key = none := by
    rw [said_foldl_layVariable hbefore]
    rfl
  have hset := @said_of_two (name, text) part key [] hkeys part key
  rw [if_pos ⟨rfl, rfl⟩, Value.beneath] at hset
  rw [variableLayer_eq_foldl, List.foldl_append, List.foldl_cons, said_foldl_layVariable hbehind,
    said_layVariable _ (@givesTable_of_two (name, text) part key [] hkeys part), hstart, hset,
    Node.laid]

end Settings
end FormulaMap
