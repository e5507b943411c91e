import FormulaMap.Code.Reader.Reduce
import FormulaMap.Proofs.Code.Reader.Merge
import FormulaMap.Proofs.Code.Reader.Walk
import Mathlib.Data.List.Sort

/-!
# Putting together keeps the text

The phrase of a production spells what the trees taken for it spelled, with the trees behind it
that may stand anywhere.  So all readings that come of putting together stand where the reading
stood that they come from.
-/

namespace FormulaMap
namespace Code
namespace Reader

variable {text : List Char} {start stop : Nat}

theorem splitTrailing_append (gs : List Growth) :
    (splitTrailing gs).1 ++ (splitTrailing gs).2 = gs := by
  have hparts : (gs.reverse.dropWhile (·.facts.extra)).reverse ++
      (gs.reverse.takeWhile (·.facts.extra)).reverse = gs := by
    rw [← List.reverse_append, List.takeWhile_append_dropWhile, List.reverse_reverse]
  have hfront : (splitTrailing gs).1 = (gs.reverse.dropWhile (·.facts.extra)).reverse := by
    simp only [splitTrailing]
    conv_lhs =>
      arg 2
      rw [← hparts]
    apply List.take_left'
    have hlength := congrArg List.length hparts
    rw [List.length_append] at hlength
    omega
  rw [hfront]
  exact hparts

/-- The preferred one of the phrase so far and that of a further row. -/
def betterRow (label : Label) (production : Option Nat) (best : Option (Growth × List Growth))
    (row : List Growth) : Option (Growth × List Growth) :=
  let found := (Growth.node label production (splitTrailing row).1, (splitTrailing row).2)
  match best with
  | none => some found
  | some old => if old.1.prefersSecond found.1 then some found else some old

theorem bestNode_eq (label : Label) (production : Option Nat) (rows : List (List Growth)) :
    bestNode label production rows = rows.foldl (betterRow label production) none := by
  rw [bestNode]
  congr 1
  funext best row
  cases best with
  | none => rfl
  | some old => rfl

/-- A phrase stands where its row stood, with what is behind it. -/
theorem betterRow_spec (label : Label) (production : Option Nat)
    {best : Option (Growth × List Growth)} {row : List Growth}
    (hbest : ∀ found ∈ best, Fits text start stop (found.1 :: found.2))
    (hrow : Fits text start stop row) :
    ∃ found, betterRow label production best row = some found ∧
      Fits text start stop (found.1 :: found.2) := by
  rw [← splitTrailing_append row] at hrow
  obtain ⟨middle, hfront, htrailing⟩ := hrow.exists_of_append
  have hnew := (hfront.node label production).append htrailing
  cases best with
  | none => exact ⟨_, rfl, hnew⟩
  | some old =>
      rw [betterRow]
      simp only
      split
      · exact ⟨_, rfl, hnew⟩
      · exact ⟨old, rfl, hbest old rfl⟩

theorem foldl_betterRow_spec (label : Label) (production : Option Nat)
    {rows : List (List Growth)} {best : Option (Growth × List Growth)}
    (hbest : ∀ found ∈ best, Fits text start stop (found.1 :: found.2))
    (hrows : ∀ row ∈ rows, Fits text start stop row) (hsome : best.isSome ∨ rows ≠ []) :
    ∃ found, rows.foldl (betterRow label production) best = some found ∧
      Fits text start stop (found.1 :: found.2) := by
  induction rows generalizing best with
  | nil =>
      have hfound := hsome.resolve_right fun h => h rfl
      obtain ⟨found, rfl⟩ := Option.isSome_iff_exists.mp hfound
      exact ⟨found, rfl, hbest found rfl⟩
  | cons row rows ih =>
      obtain ⟨found, hfound, hfits⟩ :=
        betterRow_spec label production hbest (hrows row List.mem_cons_self)
      rw [List.foldl_cons, hfound]
      apply ih
      · intro other hother
        cases hother
        exact hfits
      · exact fun other hmem => hrows other (List.mem_cons_of_mem row hmem)
      · left
        rfl

/-- The preferred phrase of several rows that fit fits too, with what stands behind it. -/
theorem bestNode_spec (label : Label) (production : Option Nat) {rows : List (List Growth)}
    (hrows : ∀ row ∈ rows, Fits text start stop row) (hne : rows ≠ []) :
    ∃ found, bestNode label production rows = some found ∧
      Fits text start stop (found.1 :: found.2) := by
  rw [bestNode_eq]
  exact foldl_betterRow_spec label production (by simp) hrows (.inr hne)

/-! ## Groups of slices -/

theorem groupSlices_ne_nil (s : Reading.Slice) (rest : List Reading.Slice) :
    ∃ rows groups, groupSlices (s :: rest) = (s.version, rows) :: groups := by
  rw [groupSlices]
  split
  · split
    · next heq => exact ⟨_, _, by rw [heq]⟩
    · exact ⟨_, _, rfl⟩
  · exact ⟨_, _, rfl⟩

/-- Every row of a group comes from a slice, and no group is empty. -/
theorem rows_of_mem_groupSlices {slices : List Reading.Slice} {group : Nat × List (List Growth)}
    (h : group ∈ groupSlices slices) :
    group.2 ≠ [] ∧ ∀ row ∈ group.2, (⟨row, group.1⟩ : Reading.Slice) ∈ slices := by
  induction slices generalizing group with
  | nil => cases h
  | cons s rest ih =>
      have hfresh : ∀ row ∈ [s.growths], (⟨row, s.version⟩ : Reading.Slice) ∈ s :: rest := by
        intro row hrow
        rw [List.mem_singleton.mp hrow]
        exact List.mem_cons_self
      have hold : ∀ other ∈ groupSlices rest, other.2 ≠ [] ∧
          ∀ row ∈ other.2, (⟨row, other.1⟩ : Reading.Slice) ∈ s :: rest := by
        intro other hother
        obtain ⟨hne, hrows⟩ := ih hother
        exact ⟨hne, fun row hrow => List.mem_cons_of_mem s (hrows row hrow)⟩
      rw [groupSlices] at h
      split at h
      · next v rows groups heq =>
          split at h
          · next hversion =>
              rcases List.mem_cons.mp h with rfl | hmem
              · refine ⟨List.cons_ne_nil _ _, ?_⟩
                intro row hrow
                rcases List.mem_cons.mp hrow with rfl | hrow
                · rw [← hversion]
                  exact List.mem_cons_self
                · exact (hold (v, rows) (by rw [heq]; exact List.mem_cons_self)).2 row hrow
              · exact hold group (by rw [heq]; exact List.mem_cons_of_mem _ hmem)
          · rcases List.mem_cons.mp h with rfl | hmem
            · exact ⟨List.cons_ne_nil _ _, hfresh⟩
            · exact hold group (by rw [heq]; exact hmem)
      · rw [List.mem_singleton] at h
        subst h
        exact ⟨List.cons_ne_nil _ _, hfresh⟩

/-- The readings of sorted slices are grouped in increasing order. -/
theorem pairwise_groupSlices {slices : List Reading.Slice}
    (h : slices.Pairwise fun s t => s.version ≤ t.version) :
    ((groupSlices slices).map (·.1)).Pairwise (· < ·) := by
  induction slices with
  | nil => exact List.Pairwise.nil
  | cons s rest ih =>
      rw [List.pairwise_cons] at h
      have hrest := ih h.2
      rw [groupSlices]
      split
      · next v rows groups heq =>
          rw [heq] at hrest
          split
          · exact hrest
          · next hne =>
              rw [List.map_cons, List.pairwise_cons]
              refine ⟨?_, hrest⟩
              have hmin : s.version < v := by
                have hmem : (v, rows) ∈ groupSlices rest := by
                  rw [heq]
                  exact List.mem_cons_self
                obtain ⟨hrows, hslices⟩ := rows_of_mem_groupSlices hmem
                obtain ⟨row, hrow⟩ := List.exists_mem_of_ne_nil rows hrows
                have hle := h.1 _ (hslices row hrow)
                simp only at hle
                omega
              intro u hu
              rw [List.map_cons, List.mem_cons] at hu
              rw [List.map_cons, List.pairwise_cons] at hrest
              rcases hu with rfl | hu
              · exact hmin
              · exact Nat.lt_trans hmin (hrest.1 u hu)
      · exact List.pairwise_singleton _ _

theorem version_mem_groupSlices {slices : List Reading.Slice} {s : Reading.Slice}
    (h : s ∈ slices) : s.version ∈ (groupSlices slices).map (·.1) := by
  induction slices with
  | nil => cases h
  | cons first rest ih =>
      rcases List.mem_cons.mp h with rfl | hmem
      · obtain ⟨rows, groups, heq⟩ := groupSlices_ne_nil s rest
        rw [heq]
        exact List.mem_cons_self
      · have hrest := ih hmem
        rw [groupSlices]
        split
        · next v rows groups heq =>
            rw [heq] at hrest
            split
            · exact hrest
            · exact List.mem_cons_of_mem _ hrest
        · next heq =>
            rw [heq] at hrest
            cases hrest

namespace Reading

open Automaton

variable {r r' : Reading}

/-- The groups of what walks took are those of the new readings, one after another. -/
theorem Sliced.map_groupSlices {Taken : List Growth → Nat → Prop} {slices : List Slice}
    {first : Nat} (hs : Sliced Taken text r first stop slices) :
    (groupSlices slices).map (·.1) = List.range' first (r.heads.size - first) := by
  apply (pairwise_groupSlices hs.sorted).eq_of_mem_iff List.pairwise_lt_range'
  intro v
  rw [List.mem_range'_1]
  constructor
  · intro hv
    obtain ⟨group, hgroup, rfl⟩ := List.mem_map.mp hv
    obtain ⟨hne, hrows⟩ := rows_of_mem_groupSlices hgroup
    obtain ⟨row, hrow⟩ := List.exists_mem_of_ne_nil group.2 hne
    have hmem := hrows row hrow
    obtain ⟨p, hat, -, -⟩ := hs.ends _ hmem
    have hlt := hat.lt
    have hle := hs.range _ hmem
    simp only at hlt hle
    omega
  · rintro ⟨hle, hlt⟩
    obtain ⟨s, hmem, rfl⟩ := hs.cover v hle (by omega)
    exact version_mem_groupSlices hmem

/-- A group of rows that fit from the place of a reading. -/
def Grouped (text : List Char) (stop : Nat) (group : Nat × List (List Growth))
    (e : Nat × Option Growth) : Prop :=
  e.2 = none ∧ group.2 ≠ [] ∧ ∀ row ∈ group.2, Fits text e.1 stop row

theorem Sliced.forall₂_groupSlices {Taken : List Growth → Nat → Prop} {slices : List Slice}
    {first : Nat} (hs : Sliced Taken text r first stop slices) :
    List.Forall₂ (Grouped text stop) (groupSlices slices) (r.view.drop first) := by
  have hmap := hs.map_groupSlices
  have hlength : (groupSlices slices).length = r.heads.size - first := by
    have hlengths := congrArg List.length hmap
    rw [List.length_map, List.length_range'] at hlengths
    exact hlengths
  rw [List.forall₂_iff_get]
  refine ⟨?_, ?_⟩
  · rw [hlength, List.length_drop, length_view]
  · intro i hi hview
    have hversion : (groupSlices slices)[i].1 = first + i := by
      have hget : ((groupSlices slices).map (·.1))[i]? = some (first + i) := by
        rw [hmap, List.getElem?_range' (by omega), Nat.one_mul]
      rw [List.getElem?_map, List.getElem?_eq_getElem hi, Option.map_some] at hget
      exact Option.some.inj hget
    obtain ⟨hne, hrows⟩ := rows_of_mem_groupSlices (List.getElem_mem hi)
    have hentry : ∀ row ∈ (groupSlices slices)[i].2, ∃ p,
        (r.view.drop first)[i] = (p, none) ∧ Fits text p stop row := by
      intro row hrow
      obtain ⟨p, hat, hfits, -⟩ := hs.ends _ (hrows row hrow)
      refine ⟨p, ?_, hfits⟩
      rw [At, hversion, ← List.getElem?_drop, List.getElem?_eq_getElem hview] at hat
      exact Option.some.inj hat
    obtain ⟨some, hsome⟩ := List.exists_mem_of_ne_nil _ hne
    obtain ⟨p, hp, -⟩ := hentry some hsome
    refine ⟨?_, hne, ?_⟩
    · exact congrArg Prod.snd hp
    · intro row hrow
      obtain ⟨q, hq, hfits⟩ := hentry row hrow
      have hplace : (r.view.drop first)[i].1 = q := congrArg Prod.fst hq
      rw [List.get_eq_getElem, hplace]
      exact hfits

/-! ## Phrases on stacks -/

/-- Trees that fit one behind the other are put on a reading. -/
theorem Spelled.pushAll (hr : Spelled text r) (state : Nat) {v : Nat} {gs : List Growth}
    (hv : r.At v start) (hgs : Fits text start stop gs) :
    Spelled text (gs.foldl (fun r g => r.push v (some g) state) r) ∧
      (gs.foldl (fun r g => r.push v (some g) state) r).view = r.view.set v (stop, none) := by
  induction gs generalizing r start with
  | nil =>
      have hstop : stop = start := by
        have hspans := hgs.spans.2
        simpa using hspans
      subst hstop
      exact ⟨hr, hv.set_eq.symm⟩
  | cons g gs ih =>
      have hparts : Fits text start stop ([g] ++ gs) := hgs
      obtain ⟨middle, hfirst, hrest⟩ := hparts.exists_of_append
      obtain ⟨hspelled, hview⟩ := hr.push state hv hfirst
      obtain ⟨hall, hlast⟩ := ih hspelled (at_of_view_set hview hv.lt) hrest
      refine ⟨hall, ?_⟩
      rw [List.foldl_cons, hlast, hview, List.set_set]

theorem Spelled.putNode (hr : Spelled text r) (state : Nat) (weight : Int) {version : Nat}
    {found : Growth × List Growth} (hv : r.At version start)
    (hfound : Fits text start stop (found.1 :: found.2)) :
    Spelled text (r.putNode version state weight found) ∧
      (r.putNode version state weight found).view = r.view.set version (stop, none) := by
  have hparts : Fits text start stop ([found.1] ++ found.2) := hfound
  obtain ⟨middle, hfirst, hrest⟩ := hparts.exists_of_append
  exact hr.pushAll state hv ((hfirst.weigh weight).append hrest)

/-- Puts the phrase of a group together, `removed` being the number of readings taken away so
far. -/
def reduceGroup (v head : Nat) (weight : Int) (production halted : Nat)
    (state : Reading × Nat) (group : Nat × List (List Growth)) : Reading × Nat :=
  let version := group.1 - state.2
  if version > versionBound + versionReserve + halted then
    (state.1.remove version, state.2 + 1)
  else
    match bestNode (.phrase head) (some production) group.2 with
    | none => state
    | some found =>
      let r := state.1.putNode version ((goto? (state.1.top version).state head).getD 0) weight found
      match r.partner? version ((List.range version).filter (· != v)) with
      | some j => (r.merge j version, state.2 + 1)
      | none => (r, state.2)

theorem reduce_eq (r : Reading) (v head length : Nat) (weight : Int) (production : Nat) :
    r.reduce v head length weight production =
      let popped := r.popCount v length
      let halted := (popped.1.heads.filter (·.status == .halted)).size
      let reduced := ((groupSlices popped.2).foldl (reduceGroup v head weight production halted)
        (popped.1, 0)).1
      (reduced, if r.heads.size < reduced.heads.size then some r.heads.size else none) :=
  rfl

theorem canMerge_of_partner? {v j : Nat} {candidates : List Nat}
    (h : r.partner? v candidates = some j) : r.canMerge j v = true := by
  rw [partner?] at h
  have hfound := List.find?_some h
  exact hfound

/-- One group after another, either its reading comes to stand where the trees end or it is no
longer there. -/
theorem reduceGroups_spec (v head production halted : Nat) (weight : Int) {removed : Nat}
    {groups : List (Nat × List (List Growth))} {front rest : List (Nat × Option Growth)}
    (hr : Spelled text r) (hview : r.view = front ++ rest)
    (hgroups : List.Forall₂ (Grouped text stop) groups rest)
    (hversions : groups.map (·.1) = List.range' (front.length + removed) groups.length) :
    Spelled text (groups.foldl (reduceGroup v head weight production halted) (r, removed)).1 ∧
      ∃ k, (groups.foldl (reduceGroup v head weight production halted) (r, removed)).1.view =
        front ++ List.replicate k (stop, none) := by
  induction groups generalizing r removed front rest with
  | nil =>
      cases hgroups
      exact ⟨hr, 0, hview⟩
  | cons group groups ih =>
      cases hgroups with
      | @cons _ e _ rest hgroup hgroups =>
          obtain ⟨hnone, hne, hrows⟩ := hgroup
          rw [List.map_cons, List.length_cons, List.range'_succ, List.cons.injEq] at hversions
          obtain ⟨hfirst, hversions⟩ := hversions
          have hversion : group.1 - removed = front.length := by omega
          have hat : r.At front.length e.1 := by
            rw [At, hview, List.getElem?_append_right (Nat.le_refl _), Nat.sub_self, ← hnone]
            rfl
          have herase : ∀ (x : Nat × Option Growth),
              (front ++ x :: rest).eraseIdx front.length = front ++ rest := by
            intro x
            rw [List.eraseIdx_append_of_length_le (Nat.le_refl _), Nat.sub_self]
            rfl
          have hgone : groups.map (·.1) =
              List.range' (front.length + (removed + 1)) groups.length := hversions
          rw [List.foldl_cons, reduceGroup]
          simp only [hversion]
          split
          · have hremoved : (r.remove front.length).view = front ++ rest := by
              rw [view_remove, hview, herase]
            exact ih (hr.remove _) hremoved hgroups hgone
          · obtain ⟨found, hbest, hfits⟩ :=
              bestNode_spec (.phrase head) (some production) hrows hne
            rw [hbest]
            simp only
            obtain ⟨hput, hputView⟩ :=
              hr.putNode ((goto? (r.top front.length).state head).getD 0) weight hat hfits
            rw [hview, List.set_append_right _ _ (Nat.le_refl _), Nat.sub_self,
              List.set_cons_zero] at hputView
            split
            · next j hpartner =>
                obtain ⟨hmerged, hmergedView⟩ := hput.merge (canMerge_of_partner? hpartner)
                rw [hputView, herase] at hmergedView
                exact ih hmerged hmergedView hgroups hgone
            · have hkept : groups.map (·.1) =
                  List.range' ((front ++ [(stop, none)]).length + removed) groups.length := by
                rw [hversions, List.length_append, List.length_singleton]
                congr 1
                omega
              rw [List.append_cons] at hputView
              obtain ⟨hall, k, hk⟩ := ih hput hputView hgroups hkept
              refine ⟨hall, k + 1, ?_⟩
              rw [hk, List.append_assoc, List.replicate_succ]
              rfl

/-- Putting together adds readings that all stand where the first one stands. -/
theorem reduce_spec (hr : Spelled text r) (v head length : Nat) (weight : Int)
    (production : Nat) :
    ∃ r' version, r.reduce v head length weight production = (r', version) ∧ Spelled text r' ∧
      (∃ k, r'.view = r.view ++ List.replicate k (r.place (r.head v).node, none)) ∧
      ∀ w, version = some w → w = r.heads.size ∧ r'.At w (r.place (r.head v).node) := by
  obtain ⟨popped, slices, hpop, hspelled, hwidened, hsliced⟩ := popCount_spec hr v length
  rw [reduce_eq, hpop]
  simp only
  obtain ⟨behind, hbehind⟩ := hwidened.view
  have hgroups := hsliced.forall₂_groupSlices
  have hdrop : popped.view.drop r.heads.size = behind := by
    rw [← hbehind, ← length_view, List.drop_left]
  rw [hdrop] at hgroups
  have hversions := hsliced.map_groupSlices
  have hsizes : popped.heads.size - r.heads.size = (groupSlices slices).length := by
    have hlengths := congrArg List.length hversions
    rw [List.length_map, List.length_range'] at hlengths
    exact hlengths.symm
  rw [hsizes, ← length_view, ← Nat.add_zero r.view.length] at hversions
  obtain ⟨hreduced, k, hk⟩ := reduceGroups_spec v head production
    (popped.heads.filter (·.status == .halted)).size weight hspelled hbehind.symm hgroups hversions
  refine ⟨_, _, rfl, hreduced, ⟨k, hk⟩, ?_⟩
  intro w hw
  split at hw
  · next hlt =>
      cases hw
      refine ⟨rfl, ?_⟩
      rw [← length_view, ← length_view, hk, List.length_append, List.length_replicate] at hlt
      rw [At, hk, List.getElem?_append_right (by rw [length_view]), length_view, Nat.sub_self,
        List.getElem?_replicate, if_pos (by omega)]
  · cases hw

end Reading
end Reader
end Code
end FormulaMap
