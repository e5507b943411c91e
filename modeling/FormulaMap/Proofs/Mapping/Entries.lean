import FormulaMap.Mapping.SymbolMapping
import Mathlib.Data.List.Basic
import Mathlib.Data.List.Induction

/-!
# The symbols of a mapping are distinct

A mapping is built by insertions, and an insertion either changes the construct of a symbol that
is there or adds the symbol at the end.  So whatever is built that way has distinct symbols.
Conversely a list of entries with distinct symbols is its own mapping, which is what makes a
written mapping readable again.
-/

namespace FormulaMap
namespace SymbolMapping

/-- No symbol has two entries. -/
def Distinct (m : SymbolMapping) : Prop :=
  m.keys.Nodup

theorem distinct_empty : empty.Distinct := by
  simp [Distinct, keys]

theorem Distinct.insert {m : SymbolMapping} (h : m.Distinct) (symbol : String)
    (value : Construct) : (m.insert symbol value).Distinct :=
  nodup_keys_put h

/-- A symbol that is new goes to the end. -/
theorem put_of_notMem {symbol : String} {value : Construct}
    {entries : List (String × Construct)} (h : symbol ∉ entries.map (·.1)) :
    put symbol value entries = entries ++ [(symbol, value)] := by
  induction entries with
  | nil => rfl
  | cons e rest ih =>
      obtain ⟨key, old⟩ := e
      simp only [List.map_cons, List.mem_cons, not_or] at h
      rw [put, if_neg (Ne.symm h.1), ih h.2]
      rfl

/-- A symbol that is there keeps its place and gets the new construct. -/
theorem put_of_mem {symbol : String} {value : Construct} {entries : List (String × Construct)}
    (hdistinct : (entries.map (·.1)).Nodup) (h : symbol ∈ entries.map (·.1)) :
    put symbol value entries =
      entries.map fun e => if e.1 = symbol then (symbol, value) else e := by
  induction entries with
  | nil => cases h
  | cons e rest ih =>
      obtain ⟨key, old⟩ := e
      rw [List.map_cons, List.nodup_cons] at hdistinct
      rw [put, List.map_cons]
      by_cases hkey : key = symbol
      · subst hkey
        have hrest : rest.map (fun e => if e.1 = key then (key, value) else e) = rest.map id := by
          apply List.map_congr_left
          intro other hother
          have hne : other.1 ≠ key := by
            rintro rfl
            exact hdistinct.1 (List.mem_map.mpr ⟨other, hother, rfl⟩)
          rw [if_neg hne, id]
        rw [if_pos rfl, if_pos rfl, hrest, List.map_id]
      · have hmem : symbol ∈ rest.map (·.1) :=
          (List.mem_cons.mp h).resolve_left (Ne.symm hkey)
        rw [if_neg hkey, if_neg hkey, ih hdistinct.2 hmem]

theorem keys_insert_of_notMem {m : SymbolMapping} {symbol : String} {value : Construct}
    (h : symbol ∉ m.keys) : (m.insert symbol value).keys = m.keys ++ [symbol] := by
  rw [keys, entries_insert, put_of_notMem h, List.map_append]
  rfl

theorem keys_insert_of_mem {m : SymbolMapping} {symbol : String} {value : Construct}
    (hdistinct : m.Distinct) (h : symbol ∈ m.keys) :
    (m.insert symbol value).keys = m.keys := by
  rw [keys, entries_insert, put_of_mem hdistinct h, List.map_map]
  apply List.map_congr_left
  intro e _
  by_cases he : e.1 = symbol
  · simp [he]
  · simp [he]

theorem keys_retain (m : SymbolMapping) (keep : String → Bool) :
    (m.retain keep).1.keys = m.keys.filter keep := by
  rw [keys, keys, retain, List.filter_map]
  rfl

/-! ## Looking symbols up -/

theorem get?_insert (m : SymbolMapping) (symbol key : String) (value : Construct) :
    (m.insert symbol value).get? key = if key = symbol then some value else m.get? key := by
  rw [get?, get?, entries_insert]
  induction m.entries with
  | nil =>
      by_cases hkey : symbol = key
      · simp [put, hkey]
      · simp [put, hkey, Ne.symm hkey]
  | cons e rest ih =>
      obtain ⟨first, old⟩ := e
      rw [put]
      by_cases hfirst : first = symbol
      · subst hfirst
        by_cases hkey : first = key
        · simp [hkey]
        · simp [hkey, Ne.symm hkey]
      · rw [if_neg hfirst]
        by_cases hkey : first = key
        · subst hkey
          simp [hfirst]
        · rw [List.find?_cons_of_neg (by simpa using hkey),
            List.find?_cons_of_neg (by simpa using hkey), ih]

theorem get?_retain (m : SymbolMapping) (keep : String → Bool) (key : String) :
    (m.retain keep).1.get? key = if keep key = true then m.get? key else none := by
  rw [get?, get?, retain, List.find?_filter]
  by_cases hkeep : keep key = true
  · rw [if_pos hkeep]
    congr 2
    funext e
    by_cases he : e.1 = key
    · simp [he, hkeep]
    · simp [he]
  · rw [if_neg hkeep, Option.map_eq_none_iff, List.find?_eq_none]
    intro e _
    by_cases he : e.1 = key
    · simp [he, hkeep]
    · simp [he]

theorem get?_eq_none_iff {m : SymbolMapping} {key : String} :
    m.get? key = none ↔ key ∉ m.keys := by
  rw [get?, Option.map_eq_none_iff, List.find?_eq_none, keys, List.mem_map]
  constructor
  · rintro h ⟨e, he, rfl⟩
    simpa using h e he
  · intro h e he hkey
    exact h ⟨e, he, by simpa using hkey⟩

/-! ## Removing symbols -/

theorem mem_removed_iff {m : SymbolMapping} {keep : String → Bool} {key : String} :
    key ∈ (m.retain keep).2 ↔ key ∈ m.keys ∧ keep key = false := by
  rw [retain, List.mem_filter, Bool.not_eq_true']

/-- The symbols that are told to be removed are those that are no longer there, in their order. -/
theorem removed_eq (m : SymbolMapping) (keep : String → Bool) :
    (m.retain keep).2 = m.keys.filter fun key => key ∉ (m.retain keep).1.keys := by
  rw [keys_retain]
  apply List.filter_congr
  intro key hkey
  cases hkeep : keep key with
  | true => simp [List.mem_filter, hkey, hkeep]
  | false => simp [List.mem_filter, hkeep]

theorem get?_retain_of_notMem_removed {m : SymbolMapping} {keep : String → Bool} {key : String}
    (h : key ∉ (m.retain keep).2) : (m.retain keep).1.get? key = m.get? key := by
  rw [get?_retain]
  split
  · rfl
  · next hkeep =>
      have hnone : key ∉ m.keys := by
        intro hmem
        exact h (mem_removed_iff.mpr ⟨hmem, eq_false_of_ne_true hkeep⟩)
      exact (get?_eq_none_iff.mpr hnone).symm

/-! ## Mappings with distinct symbols -/

/-- With distinct symbols, the entries are the symbols in their order with what is looked up. -/
theorem Distinct.entries_eq {m : SymbolMapping} (h : m.Distinct) :
    m.entries = m.keys.filterMap fun key => (m.get? key).map fun value => (key, value) := by
  have hlookup : ∀ e ∈ m.entries, m.get? e.1 = some e.2 := by
    intro e he
    have hfound : m.entries.find? (fun other => other.1 = e.1) = some e := by
      rw [List.find?_eq_some_iff_append]
      refine ⟨by simp, ?_⟩
      obtain ⟨earlier, later, heq⟩ := List.append_of_mem he
      refine ⟨earlier, later, heq, ?_⟩
      intro other hother
      have hkeys : m.keys = earlier.map (·.1) ++ e.1 :: later.map (·.1) := by
        rw [keys, heq, List.map_append, List.map_cons]
      rw [Distinct, hkeys, List.nodup_append] at h
      have hne : other.1 ≠ e.1 :=
        h.2.2 other.1 (List.mem_map.mpr ⟨other, hother, rfl⟩) e.1 (by simp)
      simpa using hne
    rw [get?, hfound]
    rfl
  calc
    m.entries = m.entries.filterMap some := List.filterMap_some.symm
    _ = m.entries.filterMap fun e => (m.get? e.1).map fun value => (e.1, value) := by
      apply List.filterMap_congr
      intro e he
      rw [hlookup e he]
      rfl
    _ = _ := by
      rw [keys, List.filterMap_map]
      rfl

/-- So is the object that a mapping is written as. -/
theorem Distinct.toJson_eq {m : SymbolMapping} (h : m.Distinct) :
    m.toJson = .object (m.keys.filterMap fun key =>
      (m.get? key).map fun value => (key, value.toJson)) := by
  rw [toJson]
  conv =>
    lhs
    rw [h.entries_eq]
  rw [List.map_filterMap]
  congr 2
  funext key
  rw [Option.map_map]
  rfl

/-- With distinct symbols, the entries of a mapping build it up again. -/
theorem Distinct.ofList_entries {m : SymbolMapping} (h : m.Distinct) :
    ofList m.entries = m := by
  have hbuild : ∀ (pairs : List (String × Construct)) (built : SymbolMapping),
      (built.keys ++ pairs.map (·.1)).Nodup →
      (pairs.foldl (fun m e => m.insert e.1 e.2) built).entries = built.entries ++ pairs := by
    intro pairs
    induction pairs with
    | nil =>
        intro built _
        rw [List.foldl_nil, List.append_nil]
    | cons e rest ih =>
        intro built hdistinct
        have hnew : e.1 ∉ built.keys := by
          intro hmem
          exact (List.nodup_append.mp hdistinct).2.2 e.1 hmem e.1 (by simp) rfl
        have hkeys : ((built.insert e.1 e.2).keys ++ rest.map (·.1)).Nodup := by
          rw [keys_insert_of_notMem hnew, List.append_assoc]
          exact hdistinct
        rw [List.foldl_cons, ih _ hkeys, entries_insert, put_of_notMem hnew, List.append_assoc]
        rfl
  have hentries : (ofList m.entries).entries = m.entries := hbuild m.entries empty h
  cases m
  exact congrArg SymbolMapping.mk hentries

/-! ## Mappings that pairs build up -/

theorem ofList_concat (pairs : List (String × Construct)) (e : String × Construct) :
    ofList (pairs ++ [e]) = (ofList pairs).insert e.1 e.2 := by
  rw [ofList, List.foldl_append]
  rfl

theorem distinct_ofList (pairs : List (String × Construct)) : (ofList pairs).Distinct := by
  induction pairs using List.reverseRecOn with
  | nil => exact distinct_empty
  | append_singleton pairs e ih =>
      rw [ofList_concat]
      exact ih.insert e.1 e.2

/-- The symbols stand in the order in which they come first. -/
theorem keys_ofList (pairs : List (String × Construct)) :
    (ofList pairs).keys = (pairs.map (·.1)).eraseDups := by
  induction pairs using List.reverseRecOn with
  | nil => rfl
  | append_singleton pairs e ih =>
      rw [ofList_concat, List.map_append, List.eraseDups_append, ← ih]
      by_cases hmem : e.1 ∈ (ofList pairs).keys
      · have hold : e.1 ∈ pairs.map (·.1) := by
          rw [ih] at hmem
          exact List.mem_eraseDups.mp hmem
        rw [keys_insert_of_mem (distinct_ofList pairs) hmem]
        simp [List.removeAll, List.mem_map.mp hold]
      · have hnew : e.1 ∉ pairs.map (·.1) := by
          intro hold
          rw [ih] at hmem
          exact hmem (List.mem_eraseDups.mpr hold)
        rw [keys_insert_of_notMem hmem]
        have hkept : [e.1].removeAll (pairs.map (·.1)) = [e.1] := by
          simpa [List.removeAll] using hnew
        rw [List.map_singleton, hkept]
        rfl

theorem get?_ofList (pairs : List (String × Construct)) (key : String) :
    (ofList pairs).get? key = (pairs.reverse.find? fun e => e.1 = key).map (·.2) := by
  induction pairs using List.reverseRecOn with
  | nil => rfl
  | append_singleton pairs e ih =>
      rw [ofList_concat, get?_insert, List.reverse_append, List.reverse_singleton,
        List.singleton_append]
      by_cases hkey : key = e.1
      · rw [if_pos hkey, List.find?_cons_of_pos (by simp [hkey])]
        rfl
      · rw [if_neg hkey, List.find?_cons_of_neg (by simpa using Ne.symm hkey), ih]

/-- Each has the construct with which it comes last. -/
theorem get?_ofList_eq_some_iff {pairs : List (String × Construct)} {key : String}
    {value : Construct} :
    (ofList pairs).get? key = some value ↔
      ∃ earlier later, pairs = earlier ++ (key, value) :: later ∧ key ∉ later.map (·.1) := by
  rw [get?_ofList, Option.map_eq_some_iff]
  simp only [List.find?_eq_some_iff_append]
  constructor
  · rintro ⟨⟨name, found⟩, ⟨hkey, front, back, hpairs, hfront⟩, rfl⟩
    rw [decide_eq_true_eq] at hkey
    subst hkey
    refine ⟨back.reverse, front.reverse, ?_, ?_⟩
    · rw [← List.reverse_reverse pairs, hpairs]
      simp
    · intro hmem
      obtain ⟨e, he, hname⟩ := List.mem_map.mp hmem
      have hother := hfront e (List.mem_reverse.mp he)
      simp [hname] at hother
  · rintro ⟨earlier, later, rfl, hlater⟩
    refine ⟨(key, value), ⟨by simp, later.reverse, earlier.reverse, by simp, ?_⟩, rfl⟩
    intro e he
    have hne : e.1 ≠ key := by
      rintro rfl
      exact hlater (List.mem_map.mpr ⟨e, List.mem_reverse.mp he, rfl⟩)
    simpa using hne

end SymbolMapping
end FormulaMap
