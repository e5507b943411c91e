import FormulaMap.Proofs.Code.Reader.Reduce

/-!
# The end of a reading

Before some tokens all is put together that can be, and at the end of the text the trees on a stack
become one.  The first leaves every other reading where it stands; the second gives a tree of the
whole text, unless the text is a single token.
-/

namespace FormulaMap
namespace Code
namespace Reader

variable {text : List Char} {start stop : Nat}

/-- The tree of a whole text spells what the trees it is made of spell. -/
theorem wholeTree_spec {growths : List Growth} {g : Growth}
    (hfits : Fits text 0 stop growths) (hstop : text.length ≤ stop)
    (h : Reading.wholeTree growths = some g) : Whole text g := by
  rw [Reading.wholeTree] at h
  simp only at h
  split at h
  · cases h
  · next k _ =>
      cases hroot : growths[growths.length - 1 - k]? with
      | none =>
          rw [hroot] at h
          cases h
      | some root =>
          rw [hroot] at h
          cases root with
          | leaf facts blank cs =>
              right
              cases h
              have hmeasured := hfits.measured _ (List.mem_of_getElem? hroot)
              cases hmeasured with
              | leaf label gap size => exact ⟨facts, blank, cs, rfl, label⟩
          | branch facts production children =>
              left
              cases h
              obtain ⟨hlt, hget⟩ := List.getElem?_eq_some_iff.mp hroot
              have hparts : growths = growths.take (growths.length - 1 - k) ++
                  (.branch facts production children ::
                    growths.drop (growths.length - 1 - k + 1)) := by
                rw [← hget, ← List.drop_eq_getElem_cons hlt, List.take_append_drop]
              have hspelling := congrArg Growth.spellingAll hparts
              rw [hfits.spans.eq_text hstop] at hspelling
              rw [hspelling, Growth.spelling_node]
              simp

namespace Reading

open Automaton

variable {r r' : Reading}

theorem Spelled.withFinished (hr : Spelled text r) {finished : Option Growth} {accepted : Nat}
    (h : ∀ g ∈ finished, Whole text g) :
    Spelled text { r with finished := finished, accepted := accepted } where
  nonempty := hr.nonempty
  roots := hr.roots
  links := hr.links
  heads := by
    intro h hh
    exact ⟨(hr.heads h hh).node_lt, (hr.heads h hh).awaited⟩
  finished := h

/-- Keeps the preferred one of the tree found so far and that of a slice. -/
def finishSlice (r : Reading) (slice : Slice) : Reading :=
  let better := match r.finished, wholeTree slice.growths with
    | some old, some new => if old.prefersSecond new then some new else some old
    | none, new => new
    | old, none => old
  { r with finished := better, accepted := r.accepted + 1 }

theorem Spelled.finishSlice (hr : Spelled text r) {slice : Slice}
    (hslice : Fits text 0 stop slice.growths) (hstop : text.length ≤ stop) :
    Spelled text (r.finishSlice slice) := by
  have hnew : ∀ g ∈ wholeTree slice.growths, Whole text g := by
    intro g hg
    exact wholeTree_spec hslice hstop hg
  apply hr.withFinished
  intro g hg
  split at hg
  · next old new hold hwhole =>
      split at hg
      · apply hnew
        rw [hwhole]
        exact hg
      · apply hr.finished
        rw [hold]
        exact hg
  · exact hnew g hg
  · exact hr.finished g hg

theorem Spelled.foldl_finishSlice (hr : Spelled text r) {slices : List Slice}
    (hslices : ∀ slice ∈ slices, Fits text 0 stop slice.growths) (hstop : text.length ≤ stop) :
    Spelled text (slices.foldl Reading.finishSlice r) := by
  induction slices generalizing r with
  | nil => exact hr
  | cons slice slices ih =>
      exact ih (hr.finishSlice (hslices slice List.mem_cons_self) hstop)
        fun other hmem => hslices other (List.mem_cons_of_mem slice hmem)

theorem accept_eq (r : Reading) (v : Nat) (finish : Growth) :
    r.accept v finish =
      let popped := (r.push v (some finish) 1).popAll v
      let ended := popped.2.foldl finishSlice popped.1
      (match popped.2.head? with
        | some slice => ended.remove slice.version
        | none => ended).halt v :=
  rfl

/-- At the end of the text every stack spells all of it. -/
theorem Spelled.accept (hr : Spelled text r) {v p : Nat} {finish : Growth} (hv : r.At v p)
    (hfinish : Starts text p finish)
    (hlabel : finish.label = .token Automaton.endPosition) :
    Spelled text (r.accept v finish) := by
  have hfits := hfinish.fits (by rw [hlabel]; simp)
  have hend : text.length ≤ p + finish.extent.characters := by
    rw [hfinish.measured.characters, hfinish.finish hlabel, List.length_drop]
    omega
  obtain ⟨hpushed, hview⟩ := hr.push 1 hv hfits
  obtain ⟨popped, slices, hpop, hspelled, -, hsliced⟩ := popAll_spec hpushed v
  rw [(at_of_view_set hview hv.lt).place] at hsliced
  have hslices : ∀ slice ∈ slices,
      Fits text 0 (p + finish.extent.characters) slice.growths := by
    intro slice hslice
    obtain ⟨q, -, hfits, rfl⟩ := hsliced.ends slice hslice
    exact hfits
  rw [accept_eq, hpop]
  apply Spelled.halt
  split
  · exact (hspelled.foldl_finishSlice hslices hend).remove _
  · exact hspelled.foldl_finishSlice hslices hend

/-! ## Putting together all that can be -/

theorem place_eq_of_keeps {n v : Nat} (h : Keeps n r r') (hv : v < n) (hn : n ≤ r.heads.size) :
    r'.place (r'.head v).node = r.place (r.head v).node := by
  have hold := standingOf_head (r := r) (Nat.lt_of_lt_of_le hv hn)
  have hnew := standingOf_head (r := r') (Nat.lt_of_lt_of_le hv (h.le_size hn))
  rw [h v hv, hold] at hnew
  exact (Prod.mk.inj (Option.some.inj hnew)).1.symm

/-- Takes an action of a reading if it is one of putting together. -/
def reduceFor (v : Nat) (state : Reading × Option Nat) (a : Action) : Reading × Option Nat :=
  match a with
  | .reduce head length weight production => state.1.reduce v head length weight production
  | _ => (state.1, none)

/-- All that is put together for a reading stands where it stands, behind the readings that were
there. -/
theorem reduceFor_spec (hr : Spelled text r) {v n : Nat} (hv : v < n) (hn : n ≤ r.heads.size)
    (actions : List Action) (last : Option Nat)
    (hlast : ∀ w, last = some w → n ≤ w ∧ r.At w (r.place (r.head v).node)) :
    ∃ r' last', actions.foldl (reduceFor v) (r, last) = (r', last') ∧ Spelled text r' ∧
      Keeps n r r' ∧ ∀ w, last' = some w → n ≤ w ∧ r'.At w (r.place (r.head v).node) := by
  induction actions generalizing r last with
  | nil => exact ⟨r, last, rfl, hr, Keeps.refl _ r, hlast⟩
  | cons a actions ih =>
      rw [List.foldl_cons]
      have hother : ∃ r' last', actions.foldl (reduceFor v) (r, none) = (r', last') ∧
          Spelled text r' ∧ Keeps n r r' ∧
          ∀ w, last' = some w → n ≤ w ∧ r'.At w (r.place (r.head v).node) := by
        apply ih hr hn
        intro w hw
        cases hw
      cases a with
      | reduce head length weight production =>
          obtain ⟨reduced, version, hreduce, hspelled, ⟨k, hk⟩, hversion⟩ :=
            reduce_spec hr v head length weight production
          have hkeeps : Keeps n r reduced := by
            refine Keeps.mono (keeps_of_isPrefix ?_) hn
            rw [hk]
            exact List.prefix_append _ _
          have hplace := place_eq_of_keeps hkeeps hv hn
          have hnext : ∀ w, version = some w →
              n ≤ w ∧ reduced.At w (reduced.place (reduced.head v).node) := by
            intro w hw
            obtain ⟨rfl, hat⟩ := hversion w hw
            rw [hplace]
            exact ⟨hn, hat⟩
          obtain ⟨r', last', hfold, hall, hrest, hlast'⟩ :=
            ih hspelled (hkeeps.le_size hn) version hnext
          refine ⟨r', last', ?_, hall, hkeeps.trans hrest, ?_⟩
          · rw [reduceFor, hreduce]
            exact hfold
          · rw [← hplace]
            exact hlast'
      | shift next late => exact hother
      | accept => exact hother
      | skip => exact hother
      | recover => exact hother

theorem reduceAll_eq (tokens : List Nat) (narrow : Bool) (first initial fuel round v : Nat)
    (can : Bool) (r : Reading) :
    reduceAll tokens narrow first initial (fuel + 1) round v can r =
      if r.heads.size ≤ v then (r, can)
      else
        match r.partner? v ((List.range v).drop initial) with
        | some j =>
          reduceAll tokens narrow first initial fuel (round + 1) v can (r.merge j v)
        | none =>
          let reads := readsAny (r.top v).state tokens
          let reduced := (reductions (r.top v).state tokens).foldl (reduceFor v) (r, none)
          let next := if v = first then r.heads.size else v + 1
          if reads then reduceAll tokens narrow first initial fuel (round + 1) next true reduced.1
          else
            match reduced.2 with
            | some w =>
              if round < versionBound then
                reduceAll tokens narrow first initial fuel (round + 1) v can
                  (reduced.1.renumber w v)
              else if narrow then
                reduceAll tokens narrow first initial fuel (round + 1) next can
                  (reduced.1.remove v)
              else reduceAll tokens narrow first initial fuel (round + 1) next can reduced.1
            | none =>
              reduceAll tokens narrow first initial fuel (round + 1) next can
                (if narrow then reduced.1.remove v else reduced.1) :=
  rfl

/-- What putting together leaves of the first readings: they come before the one that it is done
for, or that one stands at a place and is not taken away, also not for one of them. -/
def Spares (n first initial : Nat) (narrow : Bool) (r : Reading) : Prop :=
  n ≤ first ∨ narrow = false ∧ n ≤ initial ∧ ∃ p, r.At first p

theorem Spares.of_keeps {n first initial : Nat} {narrow : Bool} (h : Spares n first initial narrow r)
    (hkeeps : Keeps n r r') : Spares n first initial narrow r' := by
  rcases h with hle | ⟨hwide, hinitial, p, hat⟩
  · exact .inl hle
  · by_cases hlt : first < n
    · exact .inr ⟨hwide, hinitial, p, hkeeps.at hlt hat⟩
    · exact .inl (Nat.le_of_not_lt hlt)

/-- A reading that becomes one with an earlier one is none of the first. -/
theorem Spares.le_of_partner? {n first initial v j : Nat} {narrow : Bool}
    (h : Spares n first initial narrow r) (hv : v = first ∨ n ≤ v)
    (hpartner : r.partner? v ((List.range v).drop initial) = some j) : n ≤ v := by
  rcases hv with rfl | hle
  · rcases h with hle | ⟨-, hinitial, -⟩
    · exact hle
    · by_contra hless
      have hnone : (List.range v).drop initial = [] := by
        rw [List.drop_eq_nil_iff, List.length_range]
        omega
      rw [hnone] at hpartner
      cases hpartner
  · exact hle

/-- A reading that is taken away is none of the first. -/
theorem Spares.le_of_narrow {n first initial v : Nat} (h : Spares n first initial true r)
    (hv : v = first ∨ n ≤ v) : n ≤ v := by
  rcases hv with rfl | hle
  · rcases h with hle | ⟨hwide, -, -⟩
    · exact hle
    · cases hwide
  · exact hle

/-- A reading whose place is taken by what was put together for it is none of the first, or stands
there. -/
theorem Spares.le_or_at {n first initial v : Nat} {narrow : Bool}
    (h : Spares n first initial narrow r) (hv : v = first ∨ n ≤ v) :
    n ≤ v ∨ r.At v (r.place (r.head v).node) := by
  rcases hv with rfl | hle
  · rcases h with hle | ⟨-, -, p, hat⟩
    · exact .inl hle
    · right
      rw [hat.place]
      exact hat
  · exact .inl hle

/-- Putting together all that can be leaves the first readings as they are. -/
theorem reduceAll_spec (tokens : List Nat) (narrow : Bool) (first initial : Nat) {n : Nat}
    (fuel round : Nat) {v : Nat} (can : Bool) (hr : Spelled text r) (hn : n ≤ r.heads.size)
    (hv : v = first ∨ n ≤ v) (hspares : Spares n first initial narrow r) :
    ∃ r' ok, reduceAll tokens narrow first initial fuel round v can r = (r', ok) ∧
      Spelled text r' ∧ Keeps n r r' := by
  induction fuel generalizing round v can r with
  | zero => exact ⟨r, can, rfl, hr, Keeps.refl n r⟩
  | succ fuel ih =>
      have hgo : ∀ {next : Reading} {round u : Nat} {can : Bool}, Spelled text next →
          Keeps n r next → (u = first ∨ n ≤ u) →
          ∃ r' ok, reduceAll tokens narrow first initial fuel round u can next = (r', ok) ∧
            Spelled text r' ∧ Keeps n r r' := by
        intro next round u can hspelled hkeeps hu
        obtain ⟨r', ok, hall, hlast, hrest⟩ :=
          ih round can hspelled (hkeeps.le_size hn) hu (hspares.of_keeps hkeeps)
        exact ⟨r', ok, hall, hlast, hkeeps.trans hrest⟩
      rw [reduceAll_eq]
      split
      · exact ⟨r, can, rfl, hr, Keeps.refl n r⟩
      · next hlt =>
          split
          · next j hpartner =>
              obtain ⟨hmerged, hview⟩ := hr.merge (canMerge_of_partner? hpartner)
              have hle := hspares.le_of_partner? hv hpartner
              exact hgo hmerged (keeps_of_view_eraseIdx hview hle) hv
          · obtain ⟨reduced, last, hfold, hspelled, hkept, hlast⟩ :=
              reduceFor_spec hr (Nat.lt_of_not_le hlt) (Nat.le_refl _)
                (reductions (r.top v).state tokens) none (by simp)
            simp only [hfold]
            have hkeeps : Keeps n r reduced := hkept.mono hn
            have hnext : (if v = first then r.heads.size else v + 1) = first ∨
                n ≤ if v = first then r.heads.size else v + 1 := by
              right
              split
              · exact hn
              · next hne => exact Nat.le_succ_of_le (hv.resolve_left hne)
            have hremove : narrow = true → Keeps n r (reduced.remove v) := by
              intro hnarrow
              rw [hnarrow] at hspares
              have hle := hspares.le_of_narrow hv
              exact hkeeps.trans (keeps_of_view_eraseIdx (view_remove _ _) hle)
            split
            · exact hgo hspelled hkeeps hnext
            · split
              · next w =>
                  obtain ⟨hw, hat⟩ := hlast w rfl
                  split
                  · have hvw : v < w := Nat.lt_of_lt_of_le (Nat.lt_of_not_le hlt) hw
                    have hsame := (hspares.le_or_at hv).imp_right
                      fun h => hkept.at (Nat.lt_of_not_le hlt) h
                    have hrenumbered := keeps_renumber hat hvw (Nat.le_trans hn hw) hsame
                    exact hgo (hspelled.renumber w v) (hkeeps.trans hrenumbered) hv
                  · split
                    · next hnarrow => exact hgo (hspelled.remove v) (hremove hnarrow) hnext
                    · exact hgo hspelled hkeeps hnext
              · by_cases hnarrow : narrow = true
                · rw [if_pos hnarrow]
                  exact hgo (hspelled.remove v) (hremove hnarrow) hnext
                · rw [if_neg hnarrow]
                  exact hgo hspelled hkeeps hnext

/-- Whatever is put together before any token, the readings that were there stay. -/
theorem reduceBeforeAny_spec (hr : Spelled text r) {v p : Nat} (hv : r.At v p) :
    ∃ r' ok, r.reduceBeforeAny v = (r', ok) ∧ Spelled text r' ∧ Keeps r.heads.size r r' :=
  reduceAll_spec _ _ _ _ _ _ _ hr (Nat.le_refl _) (.inl rfl) (.inr ⟨rfl, Nat.le_refl _, p, hv⟩)

theorem reduceBefore_spec (hr : Spelled text r) {v : Nat} (hv : v ≤ r.heads.size)
    (label : Label) :
    ∃ r' ok, r.reduceBefore v label = (r', ok) ∧ Spelled text r' ∧ Keeps v r r' := by
  unfold reduceBefore
  split
  · split
    · exact reduceAll_spec _ _ _ _ _ _ _ hr hv (.inl rfl) (.inl (Nat.le_refl _))
    · exact reduceAll_spec _ _ _ _ _ _ _ hr hv (.inl rfl) (.inl (Nat.le_refl _))
  · exact reduceAll_spec _ _ _ _ _ _ _ hr hv (.inl rfl) (.inl (Nat.le_refl _))

end Reading
end Reader
end Code
end FormulaMap
