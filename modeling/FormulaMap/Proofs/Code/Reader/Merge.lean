import FormulaMap.Proofs.Code.Reader.Stack

/-!
# Readings that become one

Two readings become one only at the same place, and then the ways down from one element are added
to another.  No place changes by that, and every way still spells what stands between its ends.
-/

namespace FormulaMap
namespace Code
namespace Reader
namespace Reading

variable {text : List Char} {r r' : Reading}

/-- Two readings that differ only in the ways between the elements of their stacks. -/
structure Rewired (r r' : Reading) : Prop where
  heads : r'.heads = r.heads
  finished : r'.finished = r.finished
  size : r'.nodes.size = r.nodes.size
  place : ∀ n, r'.place n = r.place n

theorem Rewired.refl (r : Reading) : Rewired r r :=
  ⟨rfl, rfl, rfl, fun _ => rfl⟩

theorem Rewired.trans {r'' : Reading} (h : Rewired r r') (h' : Rewired r' r'') : Rewired r r'' where
  heads := h'.heads.trans h.heads
  finished := h'.finished.trans h.finished
  size := h'.size.trans h.size
  place := fun n => (h'.place n).trans (h.place n)

theorem Rewired.view (h : Rewired r r') : r'.view = r.view := by
  rw [Reading.view, Reading.view, h.heads]
  apply List.map_congr_left
  intro head _
  rw [standingOf, standingOf, h.place]

/-- A way down that spells what stands between its ends. -/
def Fitting (text : List Char) (r : Reading) (self : Nat) (l : Link) : Prop :=
  l.node < r.nodes.size ∧ Fits text (r.place l.node) (r.place self) l.growth.toList

theorem Rewired.fitting {self : Nat} {l : Link} (h : Rewired r r')
    (hl : Fitting text r self l) : Fitting text r' self l := by
  rw [Fitting, h.size, h.place, h.place]
  exact hl

theorem node_modify (r : Reading) (self : Nat) (f : StackNode → StackNode) (n : Nat) :
    ({ r with nodes := r.nodes.modify self f } : Reading).node n =
      if self = n ∧ n < r.nodes.size then f (r.node n) else r.node n := by
  rw [node, node, Array.getD_eq_getD_getElem?, Array.getD_eq_getD_getElem?, Array.getElem?_modify]
  by_cases hn : n < r.nodes.size
  · by_cases heq : self = n
    · rw [if_pos heq, if_pos ⟨heq, hn⟩, Array.getElem?_eq_getElem hn]
      rfl
    · rw [if_neg heq, if_neg (not_and_of_not_left _ heq)]
  · rw [Array.getElem?_eq_none (by omega), if_neg (not_and_of_not_right _ hn)]
    split
    · rfl
    · rfl

/-- Other ways down from an element, all of which fit. -/
theorem Spelled.rewire (hr : Spelled text r) {self : Nat} {f : StackNode → StackNode}
    (hposition : ∀ s, (f s).position = s.position)
    (hlinks : ∀ l ∈ (f (r.node self)).links, Fitting text r self l)
    (hnil : (f (r.node self)).links = [] → (r.node self).links = []) :
    Spelled text { r with nodes := r.nodes.modify self f } ∧
      Rewired r { r with nodes := r.nodes.modify self f } := by
  have hrewired : Rewired r { r with nodes := r.nodes.modify self f } := by
    refine ⟨rfl, rfl, Array.size_modify, ?_⟩
    intro n
    rw [place, node_modify]
    split
    · exact hposition _
    · rfl
  refine ⟨⟨?_, ?_, ?_, ?_, hr.finished⟩, hrewired⟩
  · rw [hrewired.size]
    exact hr.nonempty
  · intro n hn
    rw [hrewired.place]
    rw [node_modify] at hn
    split at hn
    · next heq =>
        rw [← heq.1] at hn ⊢
        exact hr.roots self (hnil hn)
    · exact hr.roots n hn
  · intro n l hl
    rw [node_modify] at hl
    split at hl
    · next heq =>
        rw [← heq.1] at hl ⊢
        exact hrewired.fitting (hlinks l hl)
    · exact hrewired.fitting (hr.links n l hl)
  · intro h hh
    have hold := hr.heads h hh
    refine ⟨?_, ?_⟩
    · rw [hrewired.size]
      exact hold.node_lt
    · intro g hg
      rw [hrewired.place]
      exact hold.awaited g hg

/-- Adding ways down one after another, if every one of them can be added. -/
theorem Spelled.foldl_addLink_of {fuel : Nat}
    (hadd : ∀ {r : Reading}, Spelled text r → ∀ {self : Nat} {link : Link},
      Fitting text r self link →
      Spelled text (addLink fuel r self link) ∧ Rewired r (addLink fuel r self link))
    (hr : Spelled text r) {self : Nat} {links : List Link}
    (hlinks : ∀ l ∈ links, Fitting text r self l) :
    Spelled text (links.foldl (fun r l => addLink fuel r self l) r) ∧
      Rewired r (links.foldl (fun r l => addLink fuel r self l) r) := by
  induction links generalizing r with
  | nil => exact ⟨hr, Rewired.refl r⟩
  | cons link links ih =>
      obtain ⟨hspelled, hrewired⟩ := hadd hr (hlinks link List.mem_cons_self)
      have hmore : ∀ l ∈ links, Fitting text (addLink fuel r self link) self l :=
        fun l hl => hrewired.fitting (hlinks l (List.mem_cons_of_mem link hl))
      obtain ⟨hall, hrest⟩ := ih hspelled hmore
      exact ⟨hall, hrewired.trans hrest⟩

theorem place_eq_of_meets {a b : StackNode} (h : StackNode.meets a b = true) :
    a.position = b.position := by
  rw [StackNode.meets, Bool.and_eq_true, Bool.and_eq_true, beq_iff_eq, beq_iff_eq] at h
  exact h.1.2

/-- A way down that fits can be added, whatever it is made one with. -/
theorem Spelled.addLink (fuel : Nat) (hr : Spelled text r) {self : Nat} {link : Link}
    (hlink : Fitting text r self link) :
    Spelled text (addLink fuel r self link) ∧ Rewired r (addLink fuel r self link) := by
  induction fuel generalizing r self link with
  | zero => exact ⟨hr, Rewired.refl r⟩
  | succ fuel ih =>
      rw [Reading.addLink]
      split
      · exact ⟨hr, Rewired.refl r⟩
      · simp only
        split
        · next k hk =>
            split
            · exact ⟨hr, Rewired.refl r⟩
            · next old hold =>
                split
                · split
                  · -- the heavier of two trees that fit the same way
                    refine hr.rewire (fun _ => rfl) ?_ ?_
                    · intro l hl
                      rcases List.mem_or_eq_of_mem_set hl with hmem | rfl
                      · exact hr.links self l hmem
                      · exact hlink
                    · intro hnil
                      simpa using hnil
                  · exact ⟨hr, Rewired.refl r⟩
                · next hne =>
                    have hmatch := List.findIdx?_eq_some_iff_getElem.mp hk
                    obtain ⟨hlt, hmatches, -⟩ := hmatch
                    have hget : (r.node self).links[k] = old := by
                      rw [List.getElem?_eq_getElem hlt] at hold
                      exact Option.some.inj hold
                    rw [hget, Bool.and_eq_true, Bool.or_eq_true, beq_iff_eq] at hmatches
                    have hmeets := hmatches.2.resolve_left hne
                    have hplace : r.place old.node = r.place link.node :=
                      place_eq_of_meets hmeets
                    have hbelow : ∀ l ∈ (r.node link.node).links, Fitting text r old.node l := by
                      intro l hl
                      rw [Fitting, hplace]
                      exact hr.links link.node l hl
                    obtain ⟨hspelled, hrewired⟩ := hr.foldl_addLink_of ih hbelow
                    obtain ⟨hdone, hlast⟩ := hspelled.rewire
                      (f := fun s => { s with
                        weight := max s.weight ((r.node link.node).weight +
                          weightOf link.growth) }) (fun _ => rfl)
                      (fun l hl => hspelled.links self l hl) (fun hnil => hnil)
                    exact ⟨hdone, hrewired.trans hlast⟩
        · split
          · exact ⟨hr, Rewired.refl r⟩
          · refine hr.rewire (fun _ => rfl) ?_ ?_
            · intro l hl
              rcases List.mem_append.mp hl with hmem | hnew
              · exact hr.links self l hmem
              · rw [List.mem_singleton.mp hnew]
                exact hlink
            · intro hnil
              exact absurd hnil (by simp)

/-! ## Merging -/

theorem place_eq_of_canMerge {a b : Nat} (h : r.canMerge a b = true) :
    r.place (r.head a).node = r.place (r.head b).node := by
  rw [canMerge, Bool.and_eq_true] at h
  exact place_eq_of_meets h.2

/-- Two readings at one place become one; only the second is no longer there. -/
theorem Spelled.merge (hr : Spelled text r) {a b : Nat} (h : r.canMerge a b = true) :
    Spelled text (r.merge a b) ∧ (r.merge a b).view = r.view.eraseIdx b := by
  have hlinks : ∀ l ∈ (r.top b).links, Fitting text r (r.head a).node l := by
    intro l hl
    rw [Fitting, place_eq_of_canMerge h]
    exact hr.links (r.head b).node l hl
  obtain ⟨hspelled, hrewired⟩ :=
    hr.foldl_addLink_of (fun hr _ _ hlink => hr.addLink r.nodes.size hlink) hlinks
  simp only [Reading.merge]
  split
  · refine ⟨(hspelled.modifyHead ?_).remove b, ?_⟩
    · exact ⟨(hspelled.head a).node_lt, (hspelled.head a).awaited⟩
    · rw [view_remove, view_modifyHead_of_eq rfl, hrewired.view]
  · exact ⟨hspelled.remove b, by rw [view_remove, hrewired.view]⟩

end Reading
end Reader
end Code
end FormulaMap
