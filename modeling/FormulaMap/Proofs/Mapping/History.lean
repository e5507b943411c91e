import FormulaMap.Proofs.Mapping.Entries
import Mathlib.Data.List.Nodup

/-!
# Mappings follow their history

A mapping that has gone through insertions, removals and rebuildings is determined by what happened
to each symbol.  Its construct is the one it was given last, unless it was removed since; the
symbols stand in the order in which each was first given a construct after it was last removed.  No
symbol is listed twice, which is what makes looking up the first entry the same as looking up the
only one.
-/

namespace FormulaMap
namespace SymbolMapping

/-! ## Changes and what they do to single symbols -/

/-- A change of a mapping. -/
inductive Change where
  /-- A symbol is given a construct. -/
  | insert (symbol : String) (value : Construct)
  /-- The symbols that a test refuses are removed. -/
  | retain (keep : String → Bool)
  /-- The mapping is replaced by what a list of pairs builds up. -/
  | rebuild (pairs : List (String × Construct))

/-- The mapping after a change. -/
def change (m : SymbolMapping) : Change → SymbolMapping
  | .insert symbol value => m.insert symbol value
  | .retain keep => (m.retain keep).1
  | .rebuild pairs => ofList pairs

/-- The mapping that changes lead to, starting without symbols. -/
def after (changes : List Change) : SymbolMapping :=
  changes.foldl change empty

/-- What happens to single symbols: one is given a construct, or some are removed. -/
inductive Event where
  | give (symbol : String) (value : Construct)
  | remove (gone : String → Bool)

/-- The events of a change.  A rebuilding removes every symbol and then gives constructs. -/
def Change.events : Change → List Event
  | .insert symbol value => [.give symbol value]
  | .retain keep => [.remove fun symbol => !keep symbol]
  | .rebuild pairs => .remove (fun _ => true) :: pairs.map fun e => .give e.1 e.2

/-- The events of changes, one change behind the other. -/
def history (changes : List Change) : List Event :=
  changes.flatMap Change.events

namespace Event

/-- Whether a symbol is given a construct. -/
def Gives (symbol : String) : Event → Prop
  | .give other _ => other = symbol
  | .remove _ => False

/-- Whether a symbol is removed. -/
def Removes (symbol : String) : Event → Prop
  | .give _ _ => False
  | .remove gone => gone symbol = true

end Event

/-- A construct is the one that a symbol was given last, and the symbol was not removed since. -/
def LastGiven (events : List Event) (symbol : String) (value : Construct) : Prop :=
  ∃ earlier later, events = earlier ++ .give symbol value :: later ∧
    ∀ e ∈ later, ¬e.Gives symbol ∧ ¬e.Removes symbol

/-- Whenever a symbol was given a construct, it was removed later on. -/
def Forgotten (events : List Event) (symbol : String) : Prop :=
  ∀ earlier value later, events = earlier ++ .give symbol value :: later →
    ∃ e ∈ later, e.Removes symbol

/-- A symbol was first given a construct since its last removal after so many events. -/
def EnteredAt (events : List Event) (symbol : String) (moment : Nat) : Prop :=
  ∃ earlier value later, events = earlier ++ .give symbol value :: later ∧
    earlier.length = moment ∧ Forgotten earlier symbol ∧ ∀ e ∈ later, ¬e.Removes symbol

/-- A mapping is the ordered dictionary that events describe. -/
structure Reflects (events : List Event) (m : SymbolMapping) : Prop where
  distinct : m.keys.Nodup
  get?_eq_some_iff : ∀ symbol value, m.get? symbol = some value ↔ LastGiven events symbol value
  get?_eq_none_iff : ∀ symbol, m.get? symbol = none ↔ Forgotten events symbol
  mem_keys_iff : ∀ symbol, symbol ∈ m.keys ↔ ∃ moment, EnteredAt events symbol moment
  ordered : m.keys.Pairwise fun first second =>
    ∀ i j, EnteredAt events first i → EnteredAt events second j → i < j

/-! ## One more event -/

/-- An entry of a list with one more at the end is that one or an entry of the list. -/
theorem concat_eq_append_cons_iff {α : Type} {xs earlier later : List α} {x y : α} :
    xs ++ [x] = earlier ++ y :: later ↔
      (later = [] ∧ xs = earlier ∧ x = y) ∨
        ∃ rest, later = rest ++ [x] ∧ xs = earlier ++ y :: rest := by
  rcases List.eq_nil_or_concat later with rfl | ⟨rest, last, rfl⟩
  · simp
  · have hassoc : earlier ++ y :: rest.concat last = earlier ++ y :: rest ++ [last] := by simp
    rw [hassoc, List.concat_eq_append]
    constructor
    · intro h
      obtain ⟨rfl, hlast⟩ := List.append_inj' h rfl
      obtain rfl := List.singleton_inj.mp hlast
      exact .inr ⟨rest, rfl, rfl⟩
    · rintro (⟨hnil, -⟩ | ⟨rest', heq, rfl⟩)
      · simp at hnil
      · obtain ⟨rfl, hlast⟩ := List.append_inj' heq rfl
        rw [List.singleton_inj.mp hlast]

variable {events : List Event} {e : Event} {symbol : String} {value : Construct} {moment : Nat}

theorem Event.gives_iff : e.Gives symbol ↔ ∃ value, e = .give symbol value := by
  cases e with
  | give other value => simp [Gives]
  | remove gone => simp [Gives]

theorem lastGiven_concat_iff :
    LastGiven (events ++ [e]) symbol value ↔
      e = .give symbol value ∨
        (¬e.Gives symbol ∧ ¬e.Removes symbol ∧ LastGiven events symbol value) := by
  simp only [LastGiven, concat_eq_append_cons_iff]
  constructor
  · rintro ⟨earlier, later, ⟨rfl, rfl, heq⟩ | ⟨rest, rfl, rfl⟩, hlater⟩
    · exact .inl heq
    · obtain ⟨hgives, hremoves⟩ := hlater e (by simp)
      refine .inr ⟨hgives, hremoves, earlier, rest, rfl, ?_⟩
      intro other hother
      exact hlater other (List.mem_append_left _ hother)
  · rintro (heq | ⟨hgives, hremoves, earlier, later, rfl, hlater⟩)
    · exact ⟨events, [], .inl ⟨rfl, rfl, heq⟩, by simp⟩
    · refine ⟨earlier, later ++ [e], .inr ⟨later, rfl, rfl⟩, ?_⟩
      intro other hother
      rcases List.mem_append.mp hother with hold | hnew
      · exact hlater other hold
      · rw [List.mem_singleton.mp hnew]
        exact ⟨hgives, hremoves⟩

theorem forgotten_concat_iff :
    Forgotten (events ++ [e]) symbol ↔
      e.Removes symbol ∨ (¬e.Gives symbol ∧ Forgotten events symbol) := by
  constructor
  · intro h
    by_cases hremoves : e.Removes symbol
    · exact .inl hremoves
    · refine .inr ⟨?_, ?_⟩
      · intro hgives
        obtain ⟨value, rfl⟩ := Event.gives_iff.mp hgives
        obtain ⟨other, hother, -⟩ := h events value [] rfl
        cases hother
      · rintro earlier value later rfl
        obtain ⟨other, hother, hout⟩ := h earlier value (later ++ [e]) (by simp)
        rcases List.mem_append.mp hother with hold | hnew
        · exact ⟨other, hold, hout⟩
        · rw [List.mem_singleton.mp hnew] at hout
          exact absurd hout hremoves
  · intro h earlier value later heq
    rcases concat_eq_append_cons_iff.mp heq with ⟨rfl, rfl, rfl⟩ | ⟨rest, rfl, rfl⟩
    · rcases h with hremoves | ⟨hgives, -⟩
      · exact absurd hremoves (by simp [Event.Removes])
      · exact absurd rfl hgives
    · rcases h with hremoves | ⟨-, hforgotten⟩
      · exact ⟨e, by simp, hremoves⟩
      · obtain ⟨other, hother, hout⟩ := hforgotten earlier value rest rfl
        exact ⟨other, List.mem_append_left _ hother, hout⟩

theorem enteredAt_concat_iff :
    EnteredAt (events ++ [e]) symbol moment ↔
      (e.Gives symbol ∧ Forgotten events symbol ∧ moment = events.length) ∨
        (¬e.Removes symbol ∧ EnteredAt events symbol moment) := by
  simp only [EnteredAt, concat_eq_append_cons_iff]
  constructor
  · rintro ⟨earlier, value, later, ⟨rfl, rfl, heq⟩ | ⟨rest, rfl, rfl⟩, hmoment, hforgotten,
      hlater⟩
    · exact .inl ⟨Event.gives_iff.mpr ⟨value, heq⟩, hforgotten, hmoment.symm⟩
    · refine .inr ⟨hlater e (by simp), earlier, value, rest, rfl, hmoment, hforgotten, ?_⟩
      intro other hother
      exact hlater other (List.mem_append_left _ hother)
  · rintro (⟨hgives, hforgotten, hmoment⟩ |
      ⟨hremoves, earlier, value, later, rfl, hmoment, hforgotten, hlater⟩)
    · obtain ⟨value, heq⟩ := Event.gives_iff.mp hgives
      exact ⟨events, value, [], .inl ⟨rfl, rfl, heq⟩, hmoment.symm, hforgotten, by simp⟩
    · refine ⟨earlier, value, later ++ [e], .inr ⟨later, rfl, rfl⟩, hmoment, hforgotten, ?_⟩
      intro other hother
      rcases List.mem_append.mp hother with hold | hnew
      · exact hlater other hold
      · rw [List.mem_singleton.mp hnew]
        exact hremoves

theorem EnteredAt.lt_length (h : EnteredAt events symbol moment) : moment < events.length := by
  obtain ⟨earlier, value, later, rfl, rfl, -⟩ := h
  simp

/-! ## Mappings keep up with events -/

/-- The mapping after an event. -/
def undergo (m : SymbolMapping) : Event → SymbolMapping
  | .give symbol value => m.insert symbol value
  | .remove gone => (m.retain fun symbol => !gone symbol).1

theorem foldl_undergo_events (m : SymbolMapping) (c : Change) :
    c.events.foldl undergo m = m.change c := by
  cases c with
  | insert symbol value => rfl
  | retain keep => simp [Change.events, undergo, change]
  | rebuild pairs =>
      have hnone : m.undergo (.remove fun _ => true) = empty := by
        simp [undergo, retain, empty]
      rw [Change.events, List.foldl_cons, hnone, List.foldl_map]
      rfl

theorem after_eq_foldl_history (changes : List Change) :
    after changes = (history changes).foldl undergo empty := by
  rw [after, history, List.foldl_flatMap]
  congr 1
  funext m c
  exact (foldl_undergo_events m c).symm

theorem reflects_empty : Reflects [] empty where
  distinct := distinct_empty
  get?_eq_some_iff := by
    intro symbol value
    simp [get?, LastGiven]
  get?_eq_none_iff := by
    intro symbol
    simp [get?, Forgotten]
  mem_keys_iff := by
    intro symbol
    simp [keys, EnteredAt]
  ordered := .nil

namespace Reflects

variable {m : SymbolMapping}

/-- A symbol that is there has not been removed since it was given a construct. -/
theorem not_forgotten (h : Reflects events m) (hmem : symbol ∈ m.keys) :
    ¬Forgotten events symbol := by
  intro hforgotten
  exact SymbolMapping.get?_eq_none_iff.mp ((h.get?_eq_none_iff symbol).mpr hforgotten) hmem

theorem forgotten (h : Reflects events m) (hnone : symbol ∉ m.keys) :
    Forgotten events symbol :=
  (h.get?_eq_none_iff symbol).mp (SymbolMapping.get?_eq_none_iff.mpr hnone)

/-- Giving a symbol a construct enters it, at the latest moment, if it was not there. -/
theorem enteredAt_give_iff (h : Reflects events m) {given : String} :
    EnteredAt (events ++ [.give given value]) symbol moment ↔
      (symbol = given ∧ given ∉ m.keys ∧ moment = events.length) ∨
        EnteredAt events symbol moment := by
  rw [enteredAt_concat_iff]
  simp only [Event.Gives, Event.Removes, not_false_eq_true, true_and]
  constructor
  · rintro (⟨rfl, hforgotten, hmoment⟩ | hold)
    · exact .inl ⟨rfl, fun hmem => h.not_forgotten hmem hforgotten, hmoment⟩
    · exact .inr hold
  · rintro (⟨rfl, hnone, hmoment⟩ | hold)
    · exact .inl ⟨rfl, h.forgotten hnone, hmoment⟩
    · exact .inr hold

/-- The order of the symbols after one was given a construct. -/
theorem ordered_give (h : Reflects events m) (given : String) (value : Construct) :
    (m.insert given value).keys.Pairwise fun first second =>
      ∀ i j, EnteredAt (events ++ [.give given value]) first i →
        EnteredAt (events ++ [.give given value]) second j → i < j := by
  by_cases hmem : given ∈ m.keys
  · rw [keys_insert_of_mem h.distinct hmem]
    refine h.ordered.imp ?_
    intro first second hlt i j hi hj
    rw [h.enteredAt_give_iff] at hi hj
    rcases hi with ⟨-, hnone, -⟩ | hi
    · exact absurd hmem hnone
    · rcases hj with ⟨-, hnone, -⟩ | hj
      · exact absurd hmem hnone
      · exact hlt i j hi hj
  · rw [keys_insert_of_notMem hmem, List.pairwise_append]
    refine ⟨?_, List.pairwise_singleton _ _, ?_⟩
    · refine h.ordered.imp_of_mem ?_
      intro first second hfirst hsecond hlt i j hi hj
      rw [h.enteredAt_give_iff] at hi hj
      rcases hi with ⟨rfl, -, -⟩ | hi
      · exact absurd hfirst hmem
      · rcases hj with ⟨rfl, -, -⟩ | hj
        · exact absurd hsecond hmem
        · exact hlt i j hi hj
    · intro first hfirst second hsecond i j hi hj
      obtain rfl := List.mem_singleton.mp hsecond
      rw [h.enteredAt_give_iff] at hi hj
      rcases hi with ⟨rfl, -, -⟩ | hi
      · exact absurd hfirst hmem
      · rcases hj with ⟨-, -, rfl⟩ | hj
        · exact hi.lt_length
        · exact absurd ((h.mem_keys_iff second).mpr ⟨j, hj⟩) hmem

theorem give (h : Reflects events m) (given : String) (value : Construct) :
    Reflects (events ++ [.give given value]) (m.insert given value) where
  distinct := Distinct.insert h.distinct given value
  get?_eq_some_iff := by
    intro symbol construct
    rw [get?_insert, lastGiven_concat_iff, ← h.get?_eq_some_iff]
    by_cases hsame : symbol = given
    · subst hsame
      simp [Event.Gives]
    · simp [Event.Gives, Event.Removes, hsame, Ne.symm hsame]
  get?_eq_none_iff := by
    intro symbol
    rw [get?_insert, forgotten_concat_iff, ← h.get?_eq_none_iff]
    by_cases hsame : symbol = given
    · subst hsame
      simp [Event.Gives, Event.Removes]
    · simp [Event.Gives, Event.Removes, hsame, Ne.symm hsame]
  mem_keys_iff := by
    intro symbol
    have hkeys : symbol ∈ (m.insert given value).keys ↔ symbol = given ∨ symbol ∈ m.keys :=
      mem_keys_put
    simp only [hkeys, h.enteredAt_give_iff, exists_or, ← h.mem_keys_iff]
    constructor
    · rintro (rfl | hold)
      · by_cases hmem : symbol ∈ m.keys
        · exact .inr hmem
        · exact .inl ⟨_, rfl, hmem, rfl⟩
      · exact .inr hold
    · rintro (⟨_, hsame, -⟩ | hold)
      · exact .inl hsame
      · exact .inr hold
  ordered := h.ordered_give given value

theorem remove (h : Reflects events m) (gone : String → Bool) :
    Reflects (events ++ [.remove gone]) (m.undergo (.remove gone)) where
  distinct := by
    rw [undergo, keys_retain]
    exact List.Nodup.filter _ h.distinct
  get?_eq_some_iff := by
    intro symbol construct
    rw [undergo, get?_retain, lastGiven_concat_iff, ← h.get?_eq_some_iff]
    cases hgone : gone symbol with
    | true => simp [Event.Removes, hgone]
    | false => simp [Event.Gives, Event.Removes, hgone]
  get?_eq_none_iff := by
    intro symbol
    rw [undergo, get?_retain, forgotten_concat_iff, ← h.get?_eq_none_iff]
    cases hgone : gone symbol with
    | true => simp [Event.Removes, hgone]
    | false => simp [Event.Gives, Event.Removes, hgone]
  mem_keys_iff := by
    intro symbol
    rw [undergo, keys_retain, List.mem_filter, h.mem_keys_iff]
    simp only [enteredAt_concat_iff, Event.Gives, Event.Removes, false_and, false_or,
      exists_and_left, and_comm, Bool.not_eq_true, Bool.not_eq_true']
  ordered := by
    rw [undergo, keys_retain]
    refine (h.ordered.filter _).imp ?_
    intro first second hlt i j hi hj
    rw [enteredAt_concat_iff] at hi hj
    exact hlt i j (hi.resolve_left fun h => h.1).2 (hj.resolve_left fun h => h.1).2

theorem undergo (h : Reflects events m) (e : Event) :
    Reflects (events ++ [e]) (m.undergo e) := by
  cases e with
  | give given value => exact h.give given value
  | remove gone => exact h.remove gone

/-- A mapping keeps up with any number of events. -/
theorem foldl_undergo (h : Reflects events m) (more : List Event) :
    Reflects (events ++ more) (more.foldl SymbolMapping.undergo m) := by
  induction more generalizing events m with
  | nil =>
      rw [List.append_nil]
      exact h
  | cons e rest ih =>
      have hrest := ih (h.undergo e)
      rw [List.append_assoc, List.singleton_append] at hrest
      exact hrest

end Reflects

/-- Whatever changes a mapping has gone through, it is the ordered dictionary that their history
describes.  Giving a symbol a construct again changes the construct only, and a new symbol goes to
the end; removal tells exactly the symbols that are gone and leaves the others as they were; all
ways to list the mapping agree, and its own entries build it up again. -/
theorem after_reflects_history (changes : List Change) :
    let m := after changes
    Reflects (history changes) m ∧
    (∀ symbol value, (m.insert symbol value).entries =
      if symbol ∈ m.keys then m.entries.map fun e => if e.1 = symbol then (symbol, value) else e
      else m.entries ++ [(symbol, value)]) ∧
    (∀ keep,
      (m.retain keep).2 = m.keys.filter (fun symbol => symbol ∉ (m.retain keep).1.keys) ∧
      (∀ symbol, symbol ∈ (m.retain keep).2 ↔ symbol ∈ m.keys ∧ keep symbol = false) ∧
      (m.retain keep).1.entries.Sublist m.entries ∧
      ∀ symbol, symbol ∉ (m.retain keep).2 → (m.retain keep).1.get? symbol = m.get? symbol) ∧
    m.size = m.keys.length ∧
    m.entries = m.keys.filterMap (fun symbol =>
      (m.get? symbol).map fun value => (symbol, value)) ∧
    m.toJson = .object (m.keys.filterMap fun symbol =>
      (m.get? symbol).map fun value => (symbol, value.toJson)) ∧
    ofList m.entries = m := by
  intro m
  have hreflects : Reflects (history changes) m := by
    rw [show m = after changes from rfl, after_eq_foldl_history]
    exact reflects_empty.foldl_undergo (history changes)
  have hdistinct : m.Distinct := hreflects.distinct
  refine ⟨hreflects, ?_, ?_, List.length_map _ |>.symm, hdistinct.entries_eq,
    hdistinct.toJson_eq, hdistinct.ofList_entries⟩
  · intro symbol value
    split
    · next hmem => exact put_of_mem hdistinct hmem
    · next hnone => exact put_of_notMem hnone
  · intro keep
    exact ⟨removed_eq m keep, fun symbol => mem_removed_iff, List.filter_sublist,
      fun symbol => get?_retain_of_notMem_removed⟩

/-- A symbol that was removed comes back at the end. -/
example : (after [.insert "m" .unmapped, .insert "c" .unmapped, .retain (· != "m"),
    .insert "m" (.named "mass"), .insert "c" .unmapped]).keys = ["c", "m"] := by decide

end SymbolMapping
end FormulaMap
