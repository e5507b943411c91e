import FormulaMap.Code.Reader.Recover
import FormulaMap.Proofs.Code.Reader.Accept

/-!
# Finding the way again keeps the text

A reading at a fault goes on from an earlier place, over a token that is missing, or over a stretch
of text.  What it took off its stack for that becomes part of a fault, so that nothing of the text
is lost, and the readings that were there before stay where they are.
-/

namespace FormulaMap
namespace Code
namespace Reader

variable {text : List Char} {start stop : Nat}

theorem fits_missing (text : List Char) (start n : Nat) :
    Fits text start start [Growth.missing n] where
  measured := by
    intro g hg
    rw [List.mem_singleton.mp hg]
    exact Growth.measured_missing n
  openable := by
    intro g hg
    rw [List.mem_singleton.mp hg]
    refine .sound ?_
    simp [Growth.label, Growth.missing, Growth.facts]
  spans := by
    have hnone : Growth.spellingAll [Growth.missing n] = [] := by
      simp [Growth.missing]
    rw [hnone]
    exact spans_nil text start

namespace Reading

open Automaton

variable {r r' : Reading}

/-! ## Comparing readings -/

theorem standing_spec (hr : Spelled text r) (v : Nat) :
    ∃ r' s, r.standing v = (r', s) ∧ Spelled text r' ∧ r'.view = r.view :=
  ⟨_, _, rfl, hr.settleCount v, view_settleCount r v⟩

theorem anyBetter_spec (hr : Spelled text r) (v : Nat) (s : Standing) (n i : Nat) :
    ∃ r' better, anyBetter v s n i r = (r', better) ∧ Spelled text r' ∧ r'.view = r.view := by
  induction n generalizing r i with
  | zero => exact ⟨r, false, rfl, hr, rfl⟩
  | succ n ih =>
      rw [anyBetter]
      split
      · exact ih hr (i + 1)
      · obtain ⟨settled, other, hstanding, hsettled, hview⟩ := standing_spec hr i
        have hmore : ∃ r' better, anyBetter v s n (i + 1) settled = (r', better) ∧
            Spelled text r' ∧ r'.view = r.view := by
          obtain ⟨r', better, hmore, hspelled, hsame⟩ := ih hsettled (i + 1)
          exact ⟨r', better, hmore, hspelled, hsame.trans hview⟩
        rw [hstanding]
        simp only
        split
        · exact ⟨settled, true, rfl, hsettled, hview⟩
        · split
          · exact ⟨settled, true, rfl, hsettled, hview⟩
          · exact hmore
        · exact hmore

/-- Looking for something better changes no place. -/
theorem betterExists_spec (hr : Spelled text r) (v cost : Nat) :
    ∃ r' better, r.betterExists v cost = (r', better) ∧ Spelled text r' ∧ r'.view = r.view := by
  rw [betterExists]
  split
  · exact ⟨r, true, rfl, hr, rfl⟩
  · obtain ⟨r', better, hany, hspelled, hview⟩ := anyBetter_spec (hr.settleCount v) v
      ⟨cost, (r.settleCount v).countSinceFault v, ((r.settleCount v).top v).weight, false⟩
      (r.settleCount v).heads.size 0
    exact ⟨r', better, hany, hspelled, hview.trans (view_settleCount r v)⟩

/-! ## Earlier places -/

/-- Goes on from the reading of a slice, if that has come to the state aimed at; `state.2` is the
last reading that this was done for. -/
def returnSlice (goal : Nat) (state : Reading × Option Nat) (slice : Slice) :
    Reading × Option Nat :=
  if state.2 = some slice.version then state
  else if (state.1.top slice.version).state != goal then (state.1.halt slice.version, state.2)
  else
    let popped := state.1.popFault slice.version
    let parts := splitTrailing ((popped.2.head?.map Growth.children).getD [] ++ slice.growths)
    let r := if parts.1.isEmpty then popped.1
      else popped.1.push slice.version (some (Growth.node .fault none parts.1).asExtra) goal
    (parts.2.foldl (fun r g => r.push slice.version (some g) goal) r, some slice.version)

theorem returnTo_eq (r : Reading) (v depth goal : Nat) :
    r.returnTo v depth goal =
      let popped := r.popCount v depth
      let returned := popped.2.foldl (returnSlice goal) (popped.1, none)
      (returned.1, returned.2.isSome) :=
  rfl

/-- The fault on a stack and what was taken off after it become one fault. -/
theorem Spelled.returnSlice (hr : Spelled text r) (goal : Nat) {slice : Slice} {p : Nat}
    {last : Option Nat} (hlast : last ≠ some slice.version) (hat : r.At slice.version p)
    (hfits : Fits text p stop slice.growths) :
    ∃ r' last', returnSlice goal (r, last) slice = (r', last') ∧ Spelled text r' ∧
      (last' = some slice.version ∨ last' = last ∧ r'.At slice.version p) ∧
      ∀ u < r.heads.size, u ≠ slice.version → r'.view[u]? = r.view[u]? := by
  rw [Reading.returnSlice, if_neg hlast]
  split
  · have hview := view_halt_of_at hat
    refine ⟨_, _, rfl, hr.halt _, .inr ⟨rfl, ?_⟩, ?_⟩
    · rw [At, hview]
      exact hat
    · intro u _ _
      rw [hview]
  · obtain ⟨popped, fault, q, hpop, hspelled, hpopped, hbefore, hothers⟩ := popFault_spec hr hat
    have hparts := hbefore.append hfits
    rw [← splitTrailing_append (_ ++ slice.growths)] at hparts
    obtain ⟨middle, hinside, htrailing⟩ := hparts.exists_of_append
    simp only [hpop]
    generalize splitTrailing ((fault.head?.map Growth.children).getD [] ++ slice.growths) = parts
      at hinside htrailing
    obtain ⟨put, hput, hputSpelled, hputAt, hputView⟩ : ∃ put,
        (if parts.1.isEmpty then popped
          else popped.push slice.version (some (Growth.node .fault none parts.1).asExtra) goal) =
          put ∧ Spelled text put ∧ put.At slice.version middle ∧
        ∀ u, u ≠ slice.version → put.view[u]? = popped.view[u]? := by
      split
      · next hempty =>
          have hmiddle : middle = q := by
            have hspans := hinside.spans.2
            rw [List.isEmpty_iff.mp hempty] at hspans
            simpa using hspans
          refine ⟨popped, rfl, hspelled, ?_, fun _ _ => rfl⟩
          rw [hmiddle]
          exact hpopped
      · obtain ⟨hpushed, hview⟩ :=
          hspelled.push goal hpopped (hinside.node .fault none).asExtra
        refine ⟨_, rfl, hpushed, at_of_view_set hview hpopped.lt, ?_⟩
        intro u hu
        rw [hview, List.getElem?_set_ne (Ne.symm hu)]
    rw [hput]
    obtain ⟨hall, hview⟩ := hputSpelled.pushAll goal hputAt htrailing
    refine ⟨_, _, rfl, hall, .inl rfl, ?_⟩
    intro u hlt hu
    rw [hview, List.getElem?_set_ne (Ne.symm hu), hputView u hu, hothers u hlt hu]

/-- Slices that are left to go on from: the reading of each is the one that this was last done
for, or stands where the slice begins. -/
structure Returning (text : List Char) (r : Reading) (stop : Nat) (last : Option Nat)
    (slices : List Slice) : Prop where
  sorted : slices.Pairwise fun s t => s.version ≤ t.version
  last_le : ∀ u, last = some u → ∀ slice ∈ slices, u ≤ slice.version
  ends : ∀ slice ∈ slices, last = some slice.version ∨
    ∃ p, r.At slice.version p ∧ Fits text p stop slice.growths

theorem Returning.tail {last : Option Nat} {slice : Slice} {slices : List Slice}
    (h : Returning text r stop last (slice :: slices)) : Returning text r stop last slices where
  sorted := (List.pairwise_cons.mp h.sorted).2
  last_le := fun u hu other hmem => h.last_le u hu other (List.mem_cons_of_mem slice hmem)
  ends := fun other hmem => h.ends other (List.mem_cons_of_mem slice hmem)

theorem Returning.step {last : Option Nat} {slice : Slice} {slices : List Slice}
    (h : Returning text r stop last (slice :: slices)) (hr : Spelled text r) (goal : Nat)
    (hlast : last ≠ some slice.version) :
    ∃ r' last', returnSlice goal (r, last) slice = (r', last') ∧ Spelled text r' ∧
      Returning text r' stop last' slices ∧
      ∀ u < r.heads.size, u ≠ slice.version → r'.view[u]? = r.view[u]? := by
  obtain ⟨p, hat, hfits⟩ := (h.ends slice List.mem_cons_self).resolve_left hlast
  obtain ⟨r', last', hreturn, hspelled, hversion, hothers⟩ := hr.returnSlice goal hlast hat hfits
  have hsorted := List.pairwise_cons.mp h.sorted
  refine ⟨r', last', hreturn, hspelled, ⟨hsorted.2, ?_, ?_⟩, hothers⟩
  · intro u hu other hmem
    rcases hversion with hnew | ⟨hold, -⟩
    · rw [hnew] at hu
      cases hu
      exact hsorted.1 other hmem
    · exact h.tail.last_le u (hold.symm.trans hu) other hmem
  · intro other hmem
    have hle := hsorted.1 other hmem
    by_cases hsame : other.version = slice.version
    · -- the same reading again: it was gone on from, or it still stands where it stood
      rcases hversion with hnew | ⟨hold, hat'⟩
      · left
        rw [hnew, hsame]
      · rcases h.tail.ends other hmem with hthis | ⟨q, hq, hrest⟩
        · left
          rw [hold, hthis]
        · right
          rw [hsame] at hq
          have heq : q = p := hq.place.symm.trans hat.place
          rw [heq] at hrest
          rw [hsame]
          exact ⟨p, hat', hrest⟩
    · rcases h.tail.ends other hmem with hthis | ⟨q, hq, hrest⟩
      · have hearlier := h.last_le _ hthis slice List.mem_cons_self
        omega
      · right
        refine ⟨q, ?_, hrest⟩
        rw [At, hothers _ hq.lt hsame]
        exact hq

/-- Going on from the readings of all slices leaves the readings before them as they are. -/
theorem Returning.foldl_returnSlice {n : Nat} {slices : List Slice} {last : Option Nat}
    (h : Returning text r stop last slices) (hr : Spelled text r) (goal : Nat)
    (hfirst : ∀ slice ∈ slices, n ≤ slice.version) (hn : n ≤ r.heads.size) :
    Spelled text (slices.foldl (returnSlice goal) (r, last)).1 ∧
      Keeps n r (slices.foldl (returnSlice goal) (r, last)).1 := by
  induction slices generalizing r last with
  | nil => exact ⟨hr, Keeps.refl n r⟩
  | cons slice slices ih =>
      have hfirst' := fun other hmem => hfirst other (List.mem_cons_of_mem slice hmem)
      rw [List.foldl_cons]
      by_cases hdone : last = some slice.version
      · rw [returnSlice, if_pos hdone]
        exact ih h.tail hr hfirst' hn
      · obtain ⟨r', last', hreturn, hspelled, hreturning, hothers⟩ := h.step hr goal hdone
        have hkeeps : Keeps n r r' := by
          intro u hu
          have hge := hfirst slice List.mem_cons_self
          exact hothers u (by omega) (by omega)
        obtain ⟨hall, hrest⟩ := ih hreturning hspelled hfirst' (hkeeps.le_size hn)
        rw [hreturn]
        exact ⟨hall, hkeeps.trans hrest⟩

theorem returnTo_spec (hr : Spelled text r) (v depth goal : Nat) :
    ∃ r' ok, r.returnTo v depth goal = (r', ok) ∧ Spelled text r' ∧
      Keeps r.heads.size r r' := by
  obtain ⟨popped, slices, hpop, hspelled, hwidened, hsliced⟩ := popCount_spec hr v depth
  have hkeeps := keeps_of_isPrefix hwidened.view
  have hreturning : Returning text popped (r.place (r.head v).node) none slices := by
    refine ⟨hsliced.sorted, ?_, ?_⟩
    · intro u hu
      cases hu
    · intro slice hmem
      obtain ⟨p, hat, hfits, -⟩ := hsliced.ends slice hmem
      exact .inr ⟨p, hat, hfits⟩
  obtain ⟨hall, hrest⟩ :=
    hreturning.foldl_returnSlice hspelled goal hsliced.range hsliced.first_le
  rw [returnTo_eq, hpop]
  exact ⟨_, _, rfl, hall, hkeeps.trans hrest⟩

/-- Trying earlier places leaves the readings that were known as they are. -/
theorem tryEarlier_spec (s : Source) (v cost known nodes : Nat) (lookahead : Label)
    (places : List Earlier) (hr : Spelled text r) (hknown : known ≤ r.heads.size) :
    ∃ r' ok, tryEarlier s v cost known nodes lookahead places r = (r', ok) ∧ Spelled text r' ∧
      Keeps known r r' := by
  induction places generalizing r with
  | nil => exact ⟨r, false, rfl, hr, Keeps.refl known r⟩
  | cons e rest ih =>
      rw [tryEarlier]
      split
      · exact ih hr hknown
      · obtain ⟨compared, better, hbetter, hcompared, hview⟩ := betterExists_spec hr v
          (cost + passingCost e.depth
            (Extent.ofText (s.between e.position (r.top v).position)))
        have hkeeps : Keeps known r compared := keeps_of_view_eq hview
        have hsize := hkeeps.le_size hknown
        simp only [hbetter]
        split
        · exact ⟨compared, false, rfl, hcompared, hkeeps⟩
        · split
          · obtain ⟨r', ok, hrest, hspelled, hmore⟩ := ih hcompared hsize
            exact ⟨r', ok, hrest, hspelled, hkeeps.trans hmore⟩
          · obtain ⟨returned, ok, hreturn, hspelled, hkept⟩ := returnTo_spec hcompared v
              (if nodes > 0 then e.depth + 1 else e.depth) e.state
            have hreturned := hkeeps.trans (hkept.mono hsize)
            rw [hreturn]
            cases ok with
            | true => exact ⟨returned, true, rfl, hspelled, hreturned⟩
            | false =>
                obtain ⟨r', ok, hrest, hlast, hmore⟩ := ih hspelled (hreturned.le_size hknown)
                exact ⟨r', ok, hrest, hlast, hreturned.trans hmore⟩

/-- Those that are kept for their numbers alone come first. -/
theorem filter_zipIdx_eq_take_append (initial : Nat) (hs : List Head) (n : Nat) :
    ∃ behind,
      ((hs.zipIdx n).filter fun e => e.2 < n + initial || e.1.status == .active).map (·.1) =
        hs.take initial ++ behind := by
  induction initial generalizing hs n with
  | zero => exact ⟨_, rfl⟩
  | succ initial ih =>
      cases hs with
      | nil => exact ⟨[], rfl⟩
      | cons h hs =>
          obtain ⟨behind, hbehind⟩ := ih hs (n + 1)
          refine ⟨behind, ?_⟩
          have hn : n + 1 + initial = n + (initial + 1) := by omega
          rw [hn] at hbehind
          rw [List.zipIdx_cons, List.filter_cons_of_pos (by simp), List.map_cons, hbehind]
          rfl

theorem view_removeHalted (r : Reading) (initial : Nat) :
    ∃ behind, (r.removeHalted initial).view = r.view.take initial ++ behind := by
  obtain ⟨behind, hbehind⟩ := filter_zipIdx_eq_take_append initial r.heads.toList 0
  rw [Nat.zero_add] at hbehind
  refine ⟨behind.map r.standingOf, ?_⟩
  have hview : (r.removeHalted initial).view = ((r.heads.toList.zipIdx.filter fun e =>
      e.2 < initial || e.1.status == .active).map (·.1)).map r.standingOf := rfl
  rw [hview, hbehind, List.map_append, List.map_take, view]

/-- Taking away the readings that have ended leaves those before a number. -/
theorem Spelled.removeHalted (hr : Spelled text r) {initial : Nat}
    (hinitial : initial ≤ r.heads.size) :
    Spelled text (r.removeHalted initial) ∧ Keeps initial r (r.removeHalted initial) := by
  constructor
  · apply hr.withHeads
    intro h hh
    rw [List.mem_toArray, List.mem_map] at hh
    obtain ⟨⟨old, i⟩, hold, rfl⟩ := hh
    exact hr.heads old (Array.mem_toList_iff.mp (List.fst_mem_of_mem_zipIdx
      (List.mem_of_mem_filter hold)))
  · intro u hu
    obtain ⟨behind, hbehind⟩ := view_removeHalted r initial
    rw [hbehind, List.getElem?_append_left, List.getElem?_take_of_lt hu]
    rw [List.length_take, length_view]
    omega

/-! ## Passing over text -/

/-- What is passed over stands on the stack as a run, with the run that was there before. -/
theorem Spelled.passToken (hr : Spelled text r) {v p : Nat} {g : Growth} (hv : r.At v p)
    (hg : Starts text p g) (nodes : Nat) : Spelled text (r.passToken v nodes g) := by
  have hskipped : Starts text p (if isSkipped g.label then g.asExtra else g) := by
    split
    · exact hg.asExtra
    · exact hg
  have hrun := hskipped.fits_run
  rw [Reading.passToken]
  simp only
  generalize Growth.node .faultRun none [if isSkipped g.label then g.asExtra else g] = run at hrun
  split
  · obtain ⟨popped, slices, hpop, hspelled, hwidened, hsliced⟩ := popCount_spec hr v 1
    have hpopped := hv.of_isPrefix hwidened.view
    rw [hpop]
    cases slices with
    | nil => exact (hspelled.push 0 hpopped hrun).1
    | cons slice others =>
        obtain ⟨q, hat, hfits, -⟩ := hsliced.ends slice List.mem_cons_self
        have hrange := hsliced.range slice List.mem_cons_self
        rw [hv.place] at hfits
        obtain ⟨cut, hcut, hcutSpelled, hcutAt⟩ : ∃ cut,
            (if others.isEmpty then popped
              else { popped with heads := popped.heads.extract 0 (slice.version + 1) }) = cut ∧
            Spelled text cut ∧ cut.At slice.version q := by
          split
          · exact ⟨popped, rfl, hspelled, hat⟩
          · refine ⟨_, rfl, hspelled.extract _, ?_⟩
            rw [At, view_extract, List.getElem?_take_of_lt (Nat.lt_succ_self _)]
            exact hat
        have hrenumbered := at_renumber hcutAt (Nat.lt_of_lt_of_le hv.lt hrange)
        have hrow := (hfits.append hrun).node .faultRun none
        simp only [hcut]
        exact ((hcutSpelled.renumber slice.version v).push 0 hrenumbered hrow).1
  · exact (hr.push 0 hv hrun).1

/-- Tries the earlier places of a reading, unless it has come to a fault. -/
def tryPlaces (s : Source) (r : Reading) (v : Nat) (g : Growth) : Reading × Bool :=
  let settled := r.settleCount v
  match (settled.head v).summary with
  | some places =>
    if g.label = Label.fault then (settled, false)
    else settled.tryEarlier s v (settled.faultCost v) r.heads.size (settled.countSinceFault v)
      g.label places
  | none => (settled, false)

theorem recover_eq (s : Source) (r : Reading) (v : Nat) (g : Growth) :
    r.recover s v g =
      let settled := r.settleCount v
      let tried := r.tryPlaces s v g
      let left := tried.1.removeHalted r.heads.size
      if tried.2 && versionBound < left.heads.size then left.halt v
      else if g.label = Label.token endPosition then
        (left.push v (some (Growth.node .fault none [])) 1).accept v g
      else
        let compared := left.betterExists v (settled.faultCost v + passingCost 1 g.extent)
        if compared.2 then compared.1.halt v
        else compared.1.passToken v (settled.countSinceFault v) g :=
  rfl

/-- A reading goes on inside a fault with what it has found. -/
theorem Spelled.recover (hr : Spelled text r) (s : Source) {v p : Nat} {g : Growth}
    (hv : r.At v p) (hg : Starts text p g) : Spelled text (r.recover s v g) := by
  obtain ⟨tried, returned, htried, hspelled, hkeeps⟩ : ∃ tried returned,
      r.tryPlaces s v g = (tried, returned) ∧ Spelled text tried ∧
        Keeps r.heads.size r tried := by
    have hsettled := hr.settleCount v
    have hsame : Keeps r.heads.size r (r.settleCount v) :=
      keeps_of_view_eq (view_settleCount r v)
    rw [tryPlaces]
    split
    · next places _ =>
        split
        · exact ⟨_, false, rfl, hsettled, hsame⟩
        · obtain ⟨tried, returned, htried, hspelled, hkeeps⟩ := tryEarlier_spec s v
            ((r.settleCount v).faultCost v) r.heads.size ((r.settleCount v).countSinceFault v)
            g.label places hsettled (hsame.le_size (Nat.le_refl _))
          exact ⟨tried, returned, htried, hspelled, hsame.trans hkeeps⟩
    · exact ⟨_, false, rfl, hsettled, hsame⟩
  obtain ⟨hleft, hleftKeeps⟩ := hspelled.removeHalted (hkeeps.le_size (Nat.le_refl _))
  have hat := (hkeeps.trans hleftKeeps).at hv.lt hv
  rw [recover_eq, htried]
  simp only
  split
  · exact hleft.halt v
  · split
    · next hlabel =>
        obtain ⟨hpushed, hview⟩ := hleft.push 1 hat ((fits_nil text p).node .fault none)
        exact hpushed.accept (at_of_view_set hview hat.lt) hg hlabel
    · obtain ⟨compared, better, hbetter, hcompared, hview⟩ := betterExists_spec hleft v
        ((r.settleCount v).faultCost v + passingCost 1 g.extent)
      rw [hbetter]
      simp only
      split
      · exact hcompared.halt v
      · apply hcompared.passToken _ hg
        rw [At, hview]
        exact hat

/-! ## Going into a fault -/

/-- Putting in a token that may be missing leaves the readings that were there as they are. -/
theorem putMissing_spec (hr : Spelled text r) (v : Nat) (lookahead : Label) (tokens : List Nat) :
    ∃ r' found, r.putMissing v lookahead tokens = (r', found) ∧ Spelled text r' ∧
      Keeps r.heads.size r r' := by
  induction tokens generalizing r with
  | nil => exact ⟨r, false, rfl, hr, Keeps.refl _ r⟩
  | cons n rest ih =>
      rw [putMissing]
      simp only
      split
      · exact ih hr
      · generalize stateBehind (r.top v).state n = next
        have hcopied := hr.copy v
        have hcopyView := view_copy r v
        have hcopy : (r.copy v).At r.heads.size (r.place (r.head v).node) := by
          rw [At, hcopyView, List.getElem?_append_right (by rw [length_view]), length_view,
            Nat.sub_self]
          rfl
        have hcopyKeeps : Keeps r.heads.size r (r.copy v) := by
          apply keeps_of_isPrefix
          rw [hcopyView]
          exact List.prefix_append _ _
        obtain ⟨hpushed, hview⟩ := hcopied.push next hcopy (fits_missing text _ n)
        have hkeeps := hcopyKeeps.trans (keeps_of_view_set hview (Nat.le_refl _))
        have hsize := hkeeps.le_size (Nat.le_refl _)
        obtain ⟨reduced, ok, hreduce, hspelled, hreducedKeeps⟩ :=
          reduceBefore_spec hpushed hsize lookahead
        have hreduced := hkeeps.trans hreducedKeeps
        rw [hreduce]
        cases ok with
        | true => exact ⟨reduced, true, rfl, hspelled, hreduced⟩
        | false =>
            obtain ⟨r', found, hrest, hlast, hmore⟩ := ih hspelled
            exact ⟨r', found, hrest, hlast,
              hreduced.trans (hmore.mono (hreduced.le_size (Nat.le_refl _)))⟩

theorem enterFaults_spec (hr : Spelled text r) (lookahead : Label) (versions : List Nat)
    (found : Bool) :
    Spelled text (r.enterFaults lookahead versions found) ∧
      Keeps r.heads.size r (r.enterFaults lookahead versions found) := by
  induction versions generalizing r found with
  | nil => exact ⟨hr, Keeps.refl _ r⟩
  | cons v rest ih =>
      obtain ⟨put, ok, hput, hspelled, hkeeps⟩ : ∃ put ok,
          (if found then (r, true) else r.putMissing v lookahead tokenOrder) = (put, ok) ∧
          Spelled text put ∧ Keeps r.heads.size r put := by
        split
        · exact ⟨r, true, rfl, hr, Keeps.refl _ r⟩
        · exact putMissing_spec hr v lookahead tokenOrder
      obtain ⟨hpushed, hview⟩ := hspelled.pushNone v 0
      have hfirst := hkeeps.trans (keeps_of_view_eq hview)
      obtain ⟨hall, hrest⟩ := ih hpushed ok
      rw [enterFaults, hput]
      exact ⟨hall, hfirst.trans (hrest.mono (hfirst.le_size (Nat.le_refl _)))⟩

theorem mergeAll_spec (hr : Spelled text r) (v next n : Nat) :
    Spelled text (mergeAll v next n r) ∧ Keeps next r (mergeAll v next n r) := by
  induction n generalizing r with
  | zero => exact ⟨hr, Keeps.refl next r⟩
  | succ n ih =>
      rw [mergeAll]
      split
      · next hmerge =>
          obtain ⟨hmerged, hview⟩ := hr.merge hmerge
          obtain ⟨hall, hrest⟩ := ih hmerged
          exact ⟨hall, (keeps_of_view_eraseIdx hview (Nat.le_refl next)).trans hrest⟩
      · exact ih hr

theorem enterFault_eq (s : Source) (r : Reading) (v : Nat) (g : Growth) :
    r.enterFault s v g =
      let reduced := (r.reduceBeforeAny v).1
      let entered := reduced.enterFaults g.label
        (v :: (List.range reduced.heads.size).drop r.heads.size) false
      let merged := entered.mergeAll v r.heads.size (reduced.heads.size - r.heads.size)
      (merged.recordSummary v summaryDepth).recover s v g :=
  rfl

/-- A reading that can do nothing with a token is still at its place when it goes on inside a
fault. -/
theorem Spelled.enterFault (hr : Spelled text r) (s : Source) {v p : Nat} {g : Growth}
    (hv : r.At v p) (hg : Starts text p g) : Spelled text (r.enterFault s v g) := by
  obtain ⟨reduced, ok, hreduce, hreduced, hkept⟩ := reduceBeforeAny_spec hr hv
  rw [enterFault_eq, hreduce]
  simp only
  obtain ⟨hentered, henteredKeeps⟩ := enterFaults_spec hreduced g.label
    (v :: (List.range reduced.heads.size).drop r.heads.size) false
  generalize reduced.enterFaults g.label
    (v :: (List.range reduced.heads.size).drop r.heads.size) false = entered
    at hentered henteredKeeps
  obtain ⟨hmerged, hmergedKeeps⟩ := mergeAll_spec hentered v r.heads.size
    (reduced.heads.size - r.heads.size)
  generalize entered.mergeAll v r.heads.size (reduced.heads.size - r.heads.size) = merged
    at hmerged hmergedKeeps
  obtain ⟨hsummed, hsummedKeeps⟩ := recordSummary_spec hmerged v summaryDepth
  have hsize := hkept.le_size (Nat.le_refl _)
  have hthere := (hkept.trans (henteredKeeps.mono hsize)).trans hmergedKeeps
  have hall := hthere.trans (hsummedKeeps.mono (hthere.le_size (Nat.le_refl _)))
  exact hsummed.recover s (hall.at hv.lt hv) hg

end Reading
end Reader
end Code
end FormulaMap
