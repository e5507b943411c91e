import FormulaMap.Code.Automaton.Table

/-!
# Reading ends at the end

The table tells a reader to end at the end of the text and at no token.
-/

namespace FormulaMap
namespace Code
namespace Automaton

/-- Actions for every token, of which none but those for the end of the text may end a reading. -/
def AcceptsAtEnd (actions : Array (List Action)) : Prop :=
  ∀ n, Action.accept ∈ actions.getD n [] → n = endPosition

theorem accept_mem_actionsAt {s : State} {row : Row} {n : Nat}
    (h : Action.accept ∈ actionsAt s row n) : n = endPosition := by
  cases hn : n == endPosition with
  | true => exact beq_iff_eq.mp hn
  | false =>
      simp only [actionsAt, hn, Bool.and_false, Bool.false_eq_true, if_false,
        List.append_nil] at h
      split at h
      · split at h
        · simp at h
        · simp at h
      · split at h
        · simp at h
        · simp at h

theorem acceptsAtEnd_set {actions : Array (List Action)} {n : Nat} {found : List Action}
    (h : AcceptsAtEnd actions) (hfound : Action.accept ∈ found → n = endPosition) :
    AcceptsAtEnd (actions.set! n found) := by
  intro k hk
  rw [Array.set!_eq_setIfInBounds, Array.getD_eq_getD_getElem?, Array.getElem?_setIfInBounds] at hk
  split at hk
  · next heq =>
      subst heq
      split at hk
      · exact hfound hk
      · cases hk
  · rw [← Array.getD_eq_getD_getElem?] at hk
    exact h k hk

theorem acceptsAtEnd_addMember
    {found : Array (List Action) × Array (Option Nat)} (id : Nat) (h : AcceptsAtEnd found.1) :
    AcceptsAtEnd (addMember found id).1 := by
  simp only [addMember]
  generalize TokenSet.members (tokenCount + 1) (stateRow id).tokens = tokens
  generalize found.1 = actions at h
  induction tokens generalizing actions with
  | nil => exact h
  | cons n tokens ih =>
      rw [List.foldl_cons]
      exact ih _ (acceptsAtEnd_set h accept_mem_actionsAt)

theorem acceptsAtEnd_replicate (n : Nat) : AcceptsAtEnd (Array.replicate n []) := by
  intro k hk
  rw [Array.getD_eq_getD_getElem?, Array.getElem?_replicate] at hk
  split at hk
  · cases hk
  · cases hk

theorem acceptsAtEnd_foldl_addMember (ids : List Nat)
    {found : Array (List Action) × Array (Option Nat)} (h : AcceptsAtEnd found.1) :
    AcceptsAtEnd (ids.foldl addMember found).1 := by
  induction ids generalizing found with
  | nil => exact h
  | cons id ids ih =>
      rw [List.foldl_cons]
      exact ih (acceptsAtEnd_addMember id h)

theorem acceptsAtEnd_groupActions {found : Array (List Action) × Array (Option Nat)}
    (h : found ∈ groupActions) : AcceptsAtEnd found.1 := by
  rw [groupActions, Array.mem_map] at h
  obtain ⟨ids, -, rfl⟩ := h
  exact acceptsAtEnd_foldl_addMember ids (acceptsAtEnd_replicate _)

theorem acceptsAtEnd_groupEntry {found : Array (List Action) × Array (Option Nat)}
    (h : AcceptsAtEnd found.1) : AcceptsAtEnd (groupEntry found).actions := by
  intro n hn
  simp only [groupEntry, Entry.of] at hn
  rw [Array.getD_eq_getD_getElem?, Array.getElem?_map] at hn
  cases hactions : found.1[n]? with
  | none =>
      rw [hactions] at hn
      cases hn
  | some actions =>
      rw [hactions, Option.map_some, Option.getD_some, List.mem_map] at hn
      obtain ⟨a, ha, haccept⟩ := hn
      apply h n
      rw [Array.getD_eq_getD_getElem?, hactions, Option.getD_some]
      cases a with
      | accept => exact ha
      | shift next late => cases haccept
      | reduce head length weight production => cases haccept
      | skip => cases haccept
      | recover => cases haccept

theorem acceptsAtEnd_lostEntry : AcceptsAtEnd lostEntry.actions := by
  intro n hn
  simp only [lostEntry, Entry.of] at hn
  rw [Array.getD_eq_getD_getElem?, List.getElem?_toArray] at hn
  cases hactions : ((Token.all.map fun t =>
        if isPiece t then []
        else if comments.contains t.index then [Action.skip]
        else [Action.recover]) ++ [[Action.recover]])[n]? with
  | none =>
      rw [hactions] at hn
      cases hn
  | some actions =>
      rw [hactions, Option.getD_some] at hn
      have hmem := List.mem_of_getElem? hactions
      rw [List.mem_append, List.mem_map, List.mem_singleton] at hmem
      rcases hmem with ⟨t, -, rfl⟩ | rfl
      · split at hn
        · cases hn
        · split at hn
          · simp at hn
          · simp at hn
      · simp at hn

/-- No state of the table ends a reading at a token. -/
theorem acceptsAtEnd_entry (state : Nat) : AcceptsAtEnd (entry state).actions := by
  have hentry : entry state = lostEntry ∨ ∃ found ∈ groupActions, entry state = groupEntry found := by
    rw [entry, table, Array.getD_eq_getD_getElem?, Array.set!_eq_setIfInBounds,
      Array.getElem?_setIfInBounds]
    split
    · left
      split
      · rfl
      · rfl
    · rw [Array.getElem?_map]
      cases hfound : groupActions[state]? with
      | none =>
          left
          rfl
      | some found =>
          right
          exact ⟨found, Array.mem_of_getElem? hfound, rfl⟩
  rcases hentry with hentry | ⟨found, hmem, hentry⟩
  · rw [hentry]
    exact acceptsAtEnd_lostEntry
  · rw [hentry]
    exact acceptsAtEnd_groupEntry (acceptsAtEnd_groupActions hmem)

theorem eq_endPosition_of_accept_mem {state n : Nat} (h : Action.accept ∈ actions state n) :
    n = endPosition :=
  acceptsAtEnd_entry state n h

end Automaton
end Code
end FormulaMap
