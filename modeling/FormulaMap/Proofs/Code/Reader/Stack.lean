import FormulaMap.Proofs.Code.Reader.Places
import FormulaMap.Code.Reader.Stack
import Mathlib.Data.List.InsertIdx

/-!
# The stacks of a reading spell the text

Every way from an element of a stack to the one below spells what stands between their places.
Readings are added, moved and taken away all the time; what is known of them is their *view*: for
each its place and the token it waits with.  A tree may only be put on a reading that waits for
nothing, since a token it waits with belongs to its place.
-/

namespace FormulaMap
namespace Code
namespace Reader

/-- The token that a reading waits with. -/
def Head.awaited (h : Head) : Option Growth :=
  if h.status = .paused then h.lookahead else none

namespace Reading

variable {text : List Char} {r : Reading}

/-- The place to which an element of a stack has come. -/
def place (r : Reading) (n : Nat) : Nat := (r.node n).position

/-- The place of a reading and the token it waits with. -/
def standingOf (r : Reading) (h : Head) : Nat × Option Growth :=
  (r.place h.node, h.awaited)

/-- All readings with their places and what they wait with. -/
def view (r : Reading) : List (Nat × Option Growth) :=
  r.heads.toList.map r.standingOf

/-- A reading that stands on an element of a stack and waits with what starts there. -/
structure Placed (text : List Char) (r : Reading) (h : Head) : Prop where
  node_lt : h.node < r.nodes.size
  awaited : ∀ g ∈ h.awaited, Starts text (r.place h.node) g

/-- All that has been put together spells what was read. -/
structure Spelled (text : List Char) (r : Reading) : Prop where
  nonempty : 0 < r.nodes.size
  roots : ∀ n, (r.node n).links = [] → r.place n = 0
  links : ∀ n, ∀ l ∈ (r.node n).links,
    l.node < r.nodes.size ∧ Fits text (r.place l.node) (r.place n) l.growth.toList
  heads : ∀ h ∈ r.heads, Placed text r h
  finished : ∀ g ∈ r.finished, Whole text g

theorem spelled_start (text : List Char) (state : Nat) : Spelled text (start state) where
  nonempty := Nat.zero_lt_one
  roots := by
    intro n _
    rw [place, node, start]
    cases n with
    | zero => rfl
    | succ n => rfl
  links := by
    intro n l hl
    rw [node, start] at hl
    cases n with
    | zero => cases hl
    | succ n => cases hl
  heads := by
    intro h hh
    rw [start, List.mem_toArray, List.mem_singleton] at hh
    subst hh
    refine ⟨Nat.zero_lt_one, ?_⟩
    intro g hg
    cases hg
  finished := by
    intro g hg
    cases hg

/-! ## Readings -/

theorem mem_heads_or_eq (r : Reading) (v : Nat) :
    r.head v ∈ r.heads ∨ r.head v = ⟨0, 0, .halted, none, none⟩ := by
  rw [head, Array.getD_eq_getD_getElem?]
  cases hv : r.heads[v]? with
  | none =>
      right
      rfl
  | some h =>
      left
      exact Array.mem_of_getElem? hv

theorem Spelled.head (hr : Spelled text r) (v : Nat) : Placed text r (r.head v) := by
  rcases mem_heads_or_eq r v with hmem | hnone
  · exact hr.heads _ hmem
  · rw [hnone]
    refine ⟨hr.nonempty, ?_⟩
    intro g hg
    cases hg

/-- Other readings on the same stacks. -/
theorem Spelled.withHeads (hr : Spelled text r) {heads : Array Head}
    (hheads : ∀ h ∈ heads, Placed text r h) : Spelled text { r with heads := heads } where
  nonempty := hr.nonempty
  roots := hr.roots
  links := hr.links
  heads := by
    intro h hh
    exact ⟨(hheads h hh).node_lt, (hheads h hh).awaited⟩
  finished := hr.finished

@[simp]
theorem length_view (r : Reading) : r.view.length = r.heads.size := by
  rw [view, List.length_map, Array.length_toList]

theorem view_getElem?_eq_some {v : Nat} {e : Nat × Option Growth} :
    r.view[v]? = some e ↔ v < r.heads.size ∧ r.standingOf (r.head v) = e := by
  rw [view, List.getElem?_map, Array.getElem?_toList]
  constructor
  · intro h
    rw [Option.map_eq_some_iff] at h
    obtain ⟨found, hfound, rfl⟩ := h
    obtain ⟨hlt, hget⟩ := Array.getElem?_eq_some_iff.mp hfound
    refine ⟨hlt, ?_⟩
    rw [head, Array.getD_eq_getD_getElem?, hfound, Option.getD_some]
  · rintro ⟨hlt, rfl⟩
    rw [head, Array.getD_eq_getD_getElem?, Array.getElem?_eq_getElem hlt]
    rfl

/-- The reading of a number stands at a place and waits for nothing. -/
def At (r : Reading) (v p : Nat) : Prop := r.view[v]? = some (p, none)

theorem At.lt {v p : Nat} (h : r.At v p) : v < r.heads.size :=
  (view_getElem?_eq_some.mp h).1

theorem At.place {v p : Nat} (h : r.At v p) : r.place (r.head v).node = p :=
  (Prod.mk.inj (view_getElem?_eq_some.mp h).2).1

theorem At.awaited {v p : Nat} (h : r.At v p) : (r.head v).awaited = none :=
  (Prod.mk.inj (view_getElem?_eq_some.mp h).2).2

theorem lt_size_of_status_ne {v : Nat} (h : (r.head v).status ≠ .halted) :
    v < r.heads.size := by
  by_contra hlt
  apply h
  have hnone : r.head v = ⟨0, 0, .halted, none, none⟩ := by
    rw [head, Array.getD_eq_getD_getElem?, Array.getElem?_eq_none (by omega)]
    rfl
  rw [hnone]

theorem At.set_eq {v p : Nat} (h : r.At v p) : r.view.set v (p, none) = r.view := by
  apply List.ext_getElem?
  intro i
  rw [List.getElem?_set]
  split
  · next heq =>
      subst heq
      rw [if_pos (by rw [length_view]; exact h.lt)]
      exact h.symm
  · rfl

theorem at_of_active {v : Nat} (h : (r.head v).status = .active) :
    r.At v (r.place (r.head v).node) := by
  rw [At, view_getElem?_eq_some]
  constructor
  · apply lt_size_of_status_ne
    rw [h]
    decide
  · rw [standingOf, Head.awaited, h]
    rfl

theorem standingOf_head {v : Nat} (h : v < r.heads.size) :
    r.view[v]? = some (r.standingOf (r.head v)) :=
  view_getElem?_eq_some.mpr ⟨h, rfl⟩

/-! ## Changing and taking away readings -/

theorem Spelled.modifyHead (hr : Spelled text r) {v : Nat} {f : Head → Head}
    (hf : Placed text r (f (r.head v))) : Spelled text (r.modifyHead v f) := by
  apply hr.withHeads
  intro h hh
  rw [Array.mem_iff_getElem?] at hh
  obtain ⟨i, hi⟩ := hh
  rw [Array.getElem?_modify] at hi
  split at hi
  · next heq =>
      subst heq
      rw [Option.map_eq_some_iff] at hi
      obtain ⟨old, hold, rfl⟩ := hi
      have hhead : r.head v = old := by
        rw [Reading.head, Array.getD_eq_getD_getElem?, hold]
        rfl
      rw [← hhead]
      exact hf
  · exact hr.heads h (Array.mem_of_getElem? hi)

theorem view_modifyHead (r : Reading) (v : Nat) (f : Head → Head) :
    (r.modifyHead v f).view = r.view.set v (r.standingOf (f (r.head v))) := by
  apply List.ext_getElem?
  intro i
  have hview : (r.modifyHead v f).view = (r.heads.modify v f).toList.map r.standingOf := rfl
  rw [hview, List.getElem?_map, Array.getElem?_toList, Array.getElem?_modify, List.getElem?_set]
  by_cases hi : v = i
  · subst hi
    rw [if_pos rfl, if_pos rfl, length_view]
    by_cases hlt : v < r.heads.size
    · rw [if_pos hlt, Array.getElem?_eq_getElem hlt]
      have hhead : r.head v = r.heads[v] := by
        rw [head, Array.getD_eq_getD_getElem?, Array.getElem?_eq_getElem hlt]
        rfl
      rw [hhead]
      rfl
    · rw [if_neg hlt, Array.getElem?_eq_none (by omega)]
      rfl
  · rw [if_neg hi, if_neg hi, view, List.getElem?_map, Array.getElem?_toList]

/-- A change that leaves the place of a reading and what it waits with. -/
theorem view_modifyHead_of_eq {v : Nat} {f : Head → Head}
    (hf : r.standingOf (f (r.head v)) = r.standingOf (r.head v)) :
    (r.modifyHead v f).view = r.view := by
  rw [view_modifyHead, hf]
  apply List.ext_getElem?
  intro i
  rw [List.getElem?_set]
  split
  · next heq =>
      subst heq
      split
      · next hlt =>
          rw [length_view] at hlt
          rw [standingOf_head hlt]
      · next hlt => rw [List.getElem?_eq_none (by omega)]
  · rfl

theorem Spelled.remove (hr : Spelled text r) (v : Nat) : Spelled text (r.remove v) := by
  apply hr.withHeads
  intro h hh
  rw [Array.eraseIdxIfInBounds] at hh
  split at hh
  · exact hr.heads h (Array.mem_of_mem_eraseIdx hh)
  · exact hr.heads h hh

theorem view_remove (r : Reading) (v : Nat) : (r.remove v).view = r.view.eraseIdx v := by
  have hview : (r.remove v).view = (r.heads.eraseIdxIfInBounds v).toList.map r.standingOf := rfl
  rw [hview, Array.toList_eraseIdxIfInBounds, view, List.eraseIdx_map]

/-- Leaving out all but the first readings. -/
theorem Spelled.extract (hr : Spelled text r) (n : Nat) :
    Spelled text { r with heads := r.heads.extract 0 n } := by
  apply hr.withHeads
  intro h hh
  rw [Array.mem_extract_iff_getElem] at hh
  obtain ⟨i, hi, rfl⟩ := hh
  exact hr.heads _ (Array.getElem_mem _)

theorem view_extract (r : Reading) (n : Nat) :
    ({ r with heads := r.heads.extract 0 n } : Reading).view = r.view.take n := by
  rw [view, view, Array.toList_extract, List.extract_eq_take_drop, List.drop_zero, List.map_take]
  rfl

theorem Spelled.halt (hr : Spelled text r) (v : Nat) : Spelled text (r.halt v) := by
  apply hr.modifyHead
  refine ⟨(hr.head v).node_lt, ?_⟩
  intro g hg
  cases hg

theorem view_halt_of_at {v p : Nat} (h : r.At v p) : (r.halt v).view = r.view := by
  apply view_modifyHead_of_eq
  rw [standingOf, standingOf, h.awaited]
  rfl

theorem Spelled.settleCount (hr : Spelled text r) (v : Nat) : Spelled text (r.settleCount v) :=
  hr.modifyHead ⟨(hr.head v).node_lt, (hr.head v).awaited⟩

@[simp]
theorem view_settleCount (r : Reading) (v : Nat) : (r.settleCount v).view = r.view :=
  view_modifyHead_of_eq rfl

/-- A reading in the place of an earlier one. -/
theorem Spelled.renumber (hr : Spelled text r) (a b : Nat) : Spelled text (r.renumber a b) := by
  rw [Reading.renumber]
  split
  · exact hr
  · apply Spelled.remove
    apply hr.modifyHead
    exact ⟨(hr.head a).node_lt, (hr.head a).awaited⟩

theorem view_renumber {a b : Nat} {e : Nat × Option Growth} (hne : a ≠ b)
    (ha : r.view[a]? = some e) : (r.renumber a b).view = (r.view.set b e).eraseIdx a := by
  rw [Reading.renumber, if_neg hne, view_remove, view_modifyHead]
  have he : r.standingOf (r.head a) = e := (view_getElem?_eq_some.mp ha).2
  rw [← he]
  rfl

theorem at_renumber {v w p : Nat} (hw : r.At w p) (hlt : v < w) : (r.renumber w v).At v p := by
  have hview := view_renumber (Nat.ne_of_gt hlt) hw
  rw [At, hview, List.getElem?_eraseIdx_of_lt hlt, List.getElem?_set_self]
  rw [length_view]
  exact Nat.lt_trans hlt hw.lt

theorem Spelled.addHead (hr : Spelled text r) {h : Head} (hh : Placed text r h) :
    Spelled text { r with heads := r.heads.push h } := by
  apply hr.withHeads
  intro old hold
  rcases Array.mem_push.mp hold with hmem | rfl
  · exact hr.heads old hmem
  · exact hh

theorem view_addHead (r : Reading) (h : Head) :
    ({ r with heads := r.heads.push h } : Reading).view = r.view ++ [r.standingOf h] := by
  have hview : ({ r with heads := r.heads.push h } : Reading).view =
      (r.heads.push h).toList.map r.standingOf := rfl
  rw [hview, Array.toList_push, List.map_append]
  rfl

theorem Spelled.copy (hr : Spelled text r) (v : Nat) : Spelled text (r.copy v) := by
  apply hr.addHead
  refine ⟨(hr.head v).node_lt, ?_⟩
  intro g hg
  cases hg

theorem view_copy (r : Reading) (v : Nat) :
    (r.copy v).view = r.view ++ [(r.place (r.head v).node, none)] :=
  view_addHead r _

/-! ## Growing stacks -/

/-- A reading with a new element on top of its stack. -/
def raise (r : Reading) (v : Nat) (above : StackNode) (count : Nat) : Reading :=
  { r with
    heads := r.heads.set! v { r.head v with node := r.nodes.size, countAtFault := count }
    nodes := r.nodes.push above }

theorem node_raise (r : Reading) (v : Nat) (above : StackNode) (count n : Nat) :
    (r.raise v above count).node n = if n = r.nodes.size then above else r.node n := by
  rw [raise, node, node, Array.getD_eq_getD_getElem?, Array.getD_eq_getD_getElem?,
    Array.getElem?_push]
  split
  · rfl
  · rfl

theorem size_raise (r : Reading) (v : Nat) (above : StackNode) (count : Nat) :
    (r.raise v above count).nodes.size = r.nodes.size + 1 := by
  rw [raise, Array.size_push]

theorem place_raise_of_lt {v count n : Nat} {above : StackNode} (hn : n < r.nodes.size) :
    (r.raise v above count).place n = r.place n := by
  rw [place, node_raise, if_neg (Nat.ne_of_lt hn), place]

theorem place_raise_size (r : Reading) (v : Nat) (above : StackNode) (count : Nat) :
    (r.raise v above count).place r.nodes.size = above.position := by
  rw [place, node_raise, if_pos rfl]

/-- An element that is reached from the one below by trees that fit. -/
theorem Spelled.raise (hr : Spelled text r) {v count : Nat} {above : StackNode}
    {growth : Option Growth} (hlinks : above.links = [⟨(r.head v).node, growth⟩])
    (hfits : Fits text (r.place (r.head v).node) above.position growth.toList)
    (hawaited : ∀ g ∈ (r.head v).awaited, Starts text above.position g) :
    Spelled text (r.raise v above count) where
  nonempty := by
    rw [size_raise]
    exact Nat.succ_pos _
  roots := by
    intro n hn
    rw [place, node_raise]
    rw [node_raise] at hn
    split
    · next heq =>
        rw [if_pos heq, hlinks] at hn
        cases hn
    · next hne =>
        rw [if_neg hne] at hn
        exact hr.roots n hn
  links := by
    intro n l hl
    rw [node_raise] at hl
    rw [size_raise]
    split at hl
    · next heq =>
        subst heq
        rw [hlinks, List.mem_singleton] at hl
        subst hl
        have hbelow : (r.head v).node < r.nodes.size := (hr.head v).node_lt
        refine ⟨Nat.lt_succ_of_lt hbelow, ?_⟩
        rw [place_raise_size, place_raise_of_lt hbelow]
        exact hfits
    · next hne =>
        obtain ⟨hlt, hold⟩ := hr.links n l hl
        have hn : n < r.nodes.size := by
          by_contra hge
          rw [node, Array.getD_eq_getD_getElem?, Array.getElem?_eq_none (by omega)] at hl
          cases hl
        refine ⟨Nat.lt_succ_of_lt hlt, ?_⟩
        rw [place_raise_of_lt hlt, place_raise_of_lt hn]
        exact hold
  heads := by
    intro h hh
    rw [Array.mem_iff_getElem?] at hh
    obtain ⟨i, hi⟩ := hh
    have hheads : (r.raise v above count).heads[i]? =
        (r.heads.set! v { r.head v with node := r.nodes.size, countAtFault := count })[i]? := rfl
    rw [hheads, Array.set!_eq_setIfInBounds, Array.getElem?_setIfInBounds] at hi
    split at hi
    · split at hi
      · cases hi
        refine ⟨?_, ?_⟩
        · rw [size_raise]
          exact Nat.lt_succ_self _
        · intro g hg
          rw [place_raise_size]
          exact hawaited g hg
      · cases hi
    · have hold := hr.heads h (Array.mem_of_getElem? hi)
      refine ⟨?_, ?_⟩
      · rw [size_raise]
        exact Nat.lt_succ_of_lt hold.node_lt
      · intro g hg
        rw [place_raise_of_lt hold.node_lt]
        exact hold.awaited g hg
  finished := hr.finished

theorem Spelled.view_raise (hr : Spelled text r) (v count : Nat) (above : StackNode) :
    (r.raise v above count).view = r.view.set v (above.position, (r.head v).awaited) := by
  apply List.ext_getElem?
  intro i
  have hview : (r.raise v above count).view[i]? =
      (r.heads.set! v { r.head v with node := r.nodes.size, countAtFault := count })[i]?.map
        (r.raise v above count).standingOf := by
    rw [view, List.getElem?_map, Array.getElem?_toList]
    rfl
  rw [hview, Array.set!_eq_setIfInBounds, Array.getElem?_setIfInBounds, List.getElem?_set,
    length_view]
  by_cases hi : v = i
  · subst hi
    rw [if_pos rfl, if_pos rfl]
    by_cases hlt : v < r.heads.size
    · rw [if_pos hlt, if_pos hlt, Option.map_some, standingOf, place_raise_size]
      rfl
    · rw [if_neg hlt, if_neg hlt]
      rfl
  · rw [if_neg hi, if_neg hi, view, List.getElem?_map, Array.getElem?_toList]
    cases hold : r.heads[i]? with
    | none => rfl
    | some h =>
        have hlt := (hr.heads h (Array.mem_of_getElem? hold)).node_lt
        rw [Option.map_some, Option.map_some, standingOf, place_raise_of_lt hlt, standingOf]

/-- A tree that fits behind a reading is put on it. -/
theorem Spelled.push (hr : Spelled text r) (state : Nat) {v start stop : Nat} {g : Growth}
    (hv : r.At v start) (hg : Fits text start stop [g]) :
    Spelled text (r.push v (some g) state) ∧
      (r.push v (some g) state).view = r.view.set v (stop, none) := by
  obtain ⟨above, count, hpush, hlinks, hposition⟩ : ∃ above count,
      r.push v (some g) state = r.raise v above count ∧
      above.links = [⟨(r.head v).node, some g⟩] ∧
      above.position = r.place (r.head v).node + g.extent.characters :=
    ⟨_, _, rfl, rfl, rfl⟩
  have hstop : above.position = stop := by
    rw [hposition, hv.place, hg.stop_eq]
  rw [hpush]
  constructor
  · apply hr.raise hlinks
    · rw [hv.place, hstop]
      exact hg
    · rw [hv.awaited]
      intro old hold
      cases hold
  · rw [hr.view_raise, hstop, hv.awaited]

/-- A reading that meets a fault stays at its place. -/
theorem Spelled.pushNone (hr : Spelled text r) (v state : Nat) :
    Spelled text (r.push v none state) ∧ (r.push v none state).view = r.view := by
  obtain ⟨above, count, hpush, hlinks, hposition⟩ : ∃ above count,
      r.push v none state = r.raise v above count ∧
      above.links = [⟨(r.head v).node, none⟩] ∧
      above.position = r.place (r.head v).node :=
    ⟨_, _, rfl, rfl, rfl⟩
  rw [hpush]
  constructor
  · apply hr.raise hlinks
    · rw [hposition]
      exact fits_nil text _
    · rw [hposition]
      exact (hr.head v).awaited
  · have hsame : (r.modifyHead v id).view = r.view := view_modifyHead_of_eq rfl
    rw [view_modifyHead] at hsame
    rw [hr.view_raise, hposition]
    exact hsame

end Reading
end Reader
end Code
end FormulaMap
