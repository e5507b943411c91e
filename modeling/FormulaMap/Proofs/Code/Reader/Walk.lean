import FormulaMap.Proofs.Code.Reader.Stack

/-!
# Walks down the stacks

A walk passes trees that fit between the element it has come to and the place it started from.
What a walk took is the stack of a reading of its own, and the slices list these readings in order
without a gap.
-/

namespace FormulaMap
namespace Code
namespace Reader
namespace Reading

variable {text : List Char} {r r' : Reading} {stop first : Nat}

/-- The same stacks with further readings behind those that were there. -/
structure Widened (r r' : Reading) : Prop where
  nodes : r'.nodes = r.nodes
  view : r.view <+: r'.view

theorem Widened.refl (r : Reading) : Widened r r :=
  ⟨rfl, List.prefix_rfl⟩

theorem Widened.trans {r'' : Reading} (h : Widened r r') (h' : Widened r' r'') : Widened r r'' :=
  ⟨h'.nodes.trans h.nodes, h.view.trans h'.view⟩

theorem Widened.node (h : Widened r r') (n : Nat) : r'.node n = r.node n := by
  rw [Reading.node, h.nodes, Reading.node]

theorem Widened.place (h : Widened r r') (n : Nat) : r'.place n = r.place n := by
  rw [Reading.place, h.node, Reading.place]

theorem At.of_isPrefix {v p : Nat} (h : r.At v p) (hview : r.view <+: r'.view) : r'.At v p := by
  obtain ⟨behind, hbehind⟩ := hview
  rw [At, ← hbehind, List.getElem?_append_left]
  · exact h
  · rw [length_view]
    exact h.lt

/-- A walk that has passed trees which fit up to a place. -/
structure Walking (text : List Char) (r : Reading) (stop : Nat) (w : Walker) : Prop where
  node_lt : w.node < r.nodes.size
  fits : Fits text (r.place w.node) stop w.growths

theorem Widened.walking {w : Walker} (h : Widened r r') (hw : Walking text r stop w) :
    Walking text r' stop w := by
  refine ⟨?_, ?_⟩
  · rw [h.nodes]
    exact hw.node_lt
  · rw [h.place]
    exact hw.fits

/-- A way down is a step of a walk. -/
theorem Walking.follow {w : Walker} {l : Link} (hw : Walking text r stop w)
    (hr : Spelled text r) (hl : l ∈ (r.node w.node).links) : Walking text r stop (w.follow l) := by
  obtain ⟨hlt, hfits⟩ := hr.links w.node l hl
  have hpassed := hfits.append hw.fits
  rw [Walker.follow]
  split
  · next hnone =>
      rw [hnone] at hpassed
      exact ⟨hlt, hpassed⟩
  · next g hsome =>
      rw [hsome] at hpassed
      exact ⟨hlt, hpassed⟩

/-- What walks took, of which it is known in addition that it is `Taken`: the readings from the
first new one on, in order and without a gap, each with what was passed above it. -/
structure Sliced (Taken : List Growth → Nat → Prop) (text : List Char) (r : Reading)
    (first stop : Nat) (slices : List Slice) : Prop where
  first_le : first ≤ r.heads.size
  sorted : slices.Pairwise fun s t => s.version ≤ t.version
  range : ∀ s ∈ slices, first ≤ s.version
  cover : ∀ v, first ≤ v → v < r.heads.size → ∃ s ∈ slices, s.version = v
  ends : ∀ s ∈ slices, ∃ p, r.At s.version p ∧ Fits text p stop s.growths ∧ Taken s.growths p

theorem mem_take_append_cons_drop {slices : List Slice} {n : Nat} {new s : Slice} :
    s ∈ slices.take n ++ new :: slices.drop n ↔ s = new ∨ s ∈ slices := by
  have hparts : s ∈ slices ↔ s ∈ slices.take n ∨ s ∈ slices.drop n := by
    rw [← List.mem_append, List.take_append_drop]
  rw [List.mem_append, List.mem_cons, hparts]
  tauto

theorem pairwise_version_insert {slices : List Slice} {m : Nat} {new : Slice}
    (hsorted : slices.Pairwise fun s t => s.version ≤ t.version) (hm : m < slices.length)
    (hnew : new.version = slices[m].version) :
    (slices.take (m + 1) ++ new :: slices.drop (m + 1)).Pairwise
      fun s t => s.version ≤ t.version := by
  have hparts := hsorted
  rw [← List.take_append_drop (m + 1) slices, List.pairwise_append] at hparts
  obtain ⟨htake, hdrop, hcross⟩ := hparts
  have hlast : slices.take (m + 1) = slices.take m ++ [slices[m]] :=
    List.take_succ_eq_append_getElem hm
  rw [List.pairwise_append, List.pairwise_cons]
  refine ⟨htake, ⟨?_, hdrop⟩, ?_⟩
  · intro t ht
    rw [hnew]
    apply hcross _ _ t ht
    rw [hlast]
    exact List.mem_append_right _ (List.mem_singleton_self _)
  · have hbefore : ∀ s ∈ slices.take (m + 1), s.version ≤ new.version := by
      intro s hs
      rw [hnew]
      rw [hlast, List.pairwise_append] at htake
      rw [hlast, List.mem_append] at hs
      rcases hs with hs | hs
      · exact htake.2.2 s hs _ (List.mem_singleton_self _)
      · exact Nat.le_of_eq (congrArg Slice.version (List.mem_singleton.mp hs))
    intro s hs t ht
    rcases List.mem_cons.mp ht with rfl | ht
    · exact hbefore s hs
    · exact hcross s hs t ht

/-- What ends where an earlier walk ended stands behind what that took. -/
theorem Sliced.insert {Taken : List Growth → Nat → Prop} {slices : List Slice} {m : Nat}
    {new : Slice} (hs : Sliced Taken text r first stop slices) (hm : m < slices.length)
    (hversion : new.version = slices[m].version)
    (hnew : ∃ p, r.At new.version p ∧ Fits text p stop new.growths ∧ Taken new.growths p) :
    Sliced Taken text r first stop (slices.take (m + 1) ++ new :: slices.drop (m + 1)) where
  first_le := hs.first_le
  sorted := pairwise_version_insert hs.sorted hm hversion
  range := by
    intro s hin
    rcases mem_take_append_cons_drop.mp hin with rfl | hold
    · rw [hversion]
      exact hs.range slices[m] (List.getElem_mem hm)
    · exact hs.range s hold
  cover := by
    intro u hfirst hu
    obtain ⟨s, hin, hsu⟩ := hs.cover u hfirst hu
    exact ⟨s, mem_take_append_cons_drop.mpr (.inr hin), hsu⟩
  ends := by
    intro s hin
    rcases mem_take_append_cons_drop.mp hin with rfl | hold
    · exact hnew
    · exact hs.ends s hold

/-- What ends elsewhere is the stack of a further reading. -/
theorem Sliced.add {Taken : List Growth → Nat → Prop} {slices : List Slice} {p : Nat}
    {growths : List Growth} (hs : Sliced Taken text r first stop slices)
    (hview : r'.view = r.view ++ [(p, none)]) (hfits : Fits text p stop growths)
    (htaken : Taken growths p) :
    Sliced Taken text r' first stop (slices ++ [⟨growths, r.heads.size⟩]) := by
  have hsize : r'.heads.size = r.heads.size + 1 := by
    rw [← length_view, hview, List.length_append, length_view]
    rfl
  have hbegins : r.view <+: r'.view := by
    rw [hview]
    exact List.prefix_append _ _
  have hlast : r'.At r.heads.size p := by
    have hlength : r.view.length ≤ r.heads.size := Nat.le_of_eq (length_view r)
    rw [At, hview, List.getElem?_append_right hlength, length_view, Nat.sub_self]
    rfl
  refine ⟨?_, ?_, ?_, ?_, ?_⟩
  · rw [hsize]
    exact Nat.le_succ_of_le hs.first_le
  · rw [List.pairwise_append]
    refine ⟨hs.sorted, List.pairwise_singleton _ _, ?_⟩
    intro s hin t ht
    obtain ⟨q, hat, -, -⟩ := hs.ends s hin
    rw [List.mem_singleton.mp ht]
    exact Nat.le_of_lt hat.lt
  · intro s hin
    rcases List.mem_append.mp hin with hold | hnew
    · exact hs.range s hold
    · rw [List.mem_singleton.mp hnew]
      exact hs.first_le
  · intro u hfirst hu
    by_cases hold : u < r.heads.size
    · obtain ⟨s, hin, hsu⟩ := hs.cover u hfirst hold
      exact ⟨s, List.mem_append_left _ hin, hsu⟩
    · refine ⟨⟨growths, r.heads.size⟩, ?_, ?_⟩
      · exact List.mem_append_right _ (List.mem_singleton_self _)
      · simp only
        omega
  · intro s hin
    rcases List.mem_append.mp hin with hold | hnew
    · obtain ⟨q, hat, hold⟩ := hs.ends s hold
      exact ⟨q, hat.of_isPrefix hbegins, hold⟩
    · rw [List.mem_singleton.mp hnew]
      exact ⟨p, hlast, hfits, htaken⟩

/-- Taking what a walk passed gives a reading its place, unless an earlier walk ended there. -/
theorem Sliced.addSlice {Taken : List Growth → Nat → Prop} {slices : List Slice} {w : Walker}
    (hs : Sliced Taken text r first stop slices) (hr : Spelled text r)
    (hw : Walking text r stop w) (htaken : Taken w.growths (r.place w.node)) (v : Nat) :
    ∃ r' slices', Reading.addSlice r v slices w = (r', slices') ∧ Spelled text r' ∧ Widened r r' ∧
      Sliced Taken text r' first stop slices' := by
  rw [Reading.addSlice]
  simp only
  split
  · next k hk =>
      obtain ⟨hlt, hends, -⟩ := List.findIdx?_eq_some_iff_getElem.mp hk
      rw [List.length_reverse] at hlt
      rw [List.getElem_reverse, beq_iff_eq] at hends
      have hplace : slices.length - k = slices.length - 1 - k + 1 := by omega
      have hm : slices.length - 1 - k < slices.length := by omega
      have hversion : ((slices[slices.length - k - 1]?).map (·.version)).getD 0 =
          slices[slices.length - 1 - k].version := by
        have hindex : slices.length - k - 1 = slices.length - 1 - k := by omega
        rw [hindex, List.getElem?_eq_getElem hm]
        rfl
      rw [hversion, hplace]
      refine ⟨_, _, rfl, hr, Widened.refl r, hs.insert hm rfl ?_⟩
      obtain ⟨p, hat, -, -⟩ := hs.ends _ (List.getElem_mem hm)
      have hp : r.place w.node = p := by
        rw [← hat.place, hends]
      rw [← hp] at hat
      exact ⟨r.place w.node, hat, hw.fits, htaken⟩
  · have hplaced : Placed text r ⟨w.node, (r.head v).countAtFault, .active, none, none⟩ := by
      refine ⟨hw.node_lt, ?_⟩
      intro g hg
      cases hg
    have hview := view_addHead r ⟨w.node, (r.head v).countAtFault, .active, none, none⟩
    refine ⟨_, _, rfl, hr.addHead hplaced, ⟨rfl, ?_⟩, hs.add hview hw.fits htaken⟩
    rw [hview]
    exact List.prefix_append _ _

/-! ## Walking -/

section Rounds

variable {σ : Type} {decide : σ → Walker → StackNode → σ × Verdict}
  {Going : Walker → Prop} {Taken : List Growth → Nat → Prop}

/-- What a decision about walks keeps: those that go on are `Going`, and what is taken is
`Taken`. -/
structure Guides (decide : σ → Walker → StackNode → σ × Verdict) (Going : Walker → Prop)
    (Taken : List Growth → Nat → Prop) : Prop where
  going : ∀ s w n l, Going w → (decide s w n).2.stop = false → Going (w.follow l)
  taken : ∀ s w n, Going w → (decide s w n).2.take = true →
    (n.links = [] → n.position = 0) → Taken w.growths n.position

/-- A walk gives a slice if that is decided, and the stacks stay as they are. -/
theorem Guides.take (hguides : Guides decide Going Taken) {w : Walker} {s : σ}
    {slices : List Slice} (hr : Spelled text r) (hs : Sliced Taken text r first stop slices)
    (hw : Walking text r stop w) (hgoing : Going w) (v : Nat) :
    ∃ r' slices', (if (decide s w (r.node w.node)).2.take then Reading.addSlice r v slices w
        else (r, slices)) = (r', slices') ∧
      Spelled text r' ∧ Widened r r' ∧ Sliced Taken text r' first stop slices' := by
  split
  · next htake =>
      apply hs.addSlice hr hw
      exact hguides.taken s w (r.node w.node) hgoing htake (hr.roots w.node)
  · exact ⟨r, slices, rfl, hr, Widened.refl r, hs⟩

/-- A walk that goes on does so along any way down. -/
theorem Guides.follow (hguides : Guides decide Going Taken) {w : Walker} {s : σ} {l : Link}
    (hr : Spelled text r) (hw : Walking text r stop w) (hgoing : Going w)
    (hstop : (decide s w (r.node w.node)).2.stop = false) (hl : l ∈ (r.node w.node).links) :
    Walking text r stop (w.follow l) ∧ Going (w.follow l) :=
  ⟨hw.follow hr hl, hguides.going s w (r.node w.node) l hgoing hstop⟩

theorem walkRound_spec (hguides : Guides decide Going Taken) (v : Nat) {walkers : List Walker}
    {kept added : List Walker} {s : σ} {slices : List Slice} (hr : Spelled text r)
    (hwalking : ∀ w ∈ walkers ++ (kept ++ added), Walking text r stop w ∧ Going w)
    (hs : Sliced Taken text r first stop slices) :
    ∃ walkers' s' r' slices',
      walkRound decide v walkers kept added s r slices = (walkers', s', r', slices') ∧
      Spelled text r' ∧ Widened r r' ∧
      (∀ w ∈ walkers', Walking text r' stop w ∧ Going w) ∧
      Sliced Taken text r' first stop slices' := by
  induction walkers generalizing kept added s r slices with
  | nil =>
      refine ⟨_, _, _, _, rfl, hr, Widened.refl r, ?_, hs⟩
      intro w hw
      apply hwalking w
      rw [List.mem_append, List.mem_reverse] at hw
      simpa using hw
  | cons w rest ih =>
      obtain ⟨hwalks, hgoing⟩ := hwalking w (by simp)
      obtain ⟨r', slices', htake, hr', hwidened, hs'⟩ :=
        hguides.take (s := s) hr hs hwalks hgoing v
      have hothers : ∀ u ∈ rest ++ (kept ++ added), Walking text r' stop u ∧ Going u := by
        intro u hu
        obtain ⟨hwalk, hgo⟩ := hwalking u (List.mem_cons_of_mem w hu)
        exact ⟨hwidened.walking hwalk, hgo⟩
      -- the rest of the round, with whatever has been added to it
      have hround : ∀ {kept added : List Walker} {s' : σ},
          (∀ u ∈ rest ++ (kept ++ added), Walking text r' stop u ∧ Going u) →
          ∃ walkers' s'' r'' slices'',
            walkRound decide v rest kept added s' r' slices' = (walkers', s'', r'', slices'') ∧
            Spelled text r'' ∧ Widened r r'' ∧
            (∀ w ∈ walkers', Walking text r'' stop w ∧ Going w) ∧
            Sliced Taken text r'' first stop slices'' := by
        intro kept added s' hall
        obtain ⟨walkers', s'', r'', slices'', hround, hspelled, hwider, hlast, hsliced⟩ :=
          ih (s := s') hr' hall hs'
        exact ⟨walkers', s'', r'', slices'', hround, hspelled, hwidened.trans hwider, hlast,
          hsliced⟩
      rw [walkRound]
      simp only [htake]
      split
      · exact hround hothers
      · next link others hlinks =>
          split
          · exact hround hothers
          · next hstop =>
              have hfollow : ∀ l ∈ link :: others,
                  Walking text r' stop (w.follow l) ∧ Going (w.follow l) := by
                intro l hl
                rw [← hlinks] at hl
                obtain ⟨hwalk, hgo⟩ :=
                  hguides.follow (s := s) hr hwalks hgoing (eq_false_of_ne_true hstop) hl
                exact ⟨hwidened.walking hwalk, hgo⟩
              apply hround
              intro u hu
              simp only [List.mem_append, List.mem_cons, List.mem_map] at hu
              rcases hu with hu | (rfl | hu) | (hu | ⟨l, hl, rfl⟩)
              · exact hothers u (by simp [hu])
              · exact hfollow link List.mem_cons_self
              · exact hothers u (by simp [hu])
              · exact hothers u (by simp [hu])
              · exact hfollow l (List.mem_cons_of_mem link (List.mem_of_mem_take hl))

theorem walkRounds_spec (hguides : Guides decide Going Taken) (v fuel : Nat)
    {walkers : List Walker} {s : σ} {slices : List Slice} (hr : Spelled text r)
    (hwalking : ∀ w ∈ walkers, Walking text r stop w ∧ Going w)
    (hs : Sliced Taken text r first stop slices) :
    ∃ s' r' slices', walkRounds decide v fuel walkers s r slices = (s', r', slices') ∧
      Spelled text r' ∧ Widened r r' ∧ Sliced Taken text r' first stop slices' := by
  induction fuel generalizing walkers s r slices with
  | zero => exact ⟨s, r, slices, by rw [walkRounds], hr, Widened.refl r, hs⟩
  | succ fuel ih =>
      cases walkers with
      | nil => exact ⟨s, r, slices, by rw [walkRounds]; simp, hr, Widened.refl r, hs⟩
      | cons w rest =>
          have hall : ∀ u ∈ (w :: rest) ++ ([] ++ []), Walking text r stop u ∧ Going u := by
            simpa using hwalking
          obtain ⟨walkers', s', r', slices', hround, hspelled, hwidened, hall, hsliced⟩ :=
            walkRound_spec (s := s) hguides v hr hall hs
          rw [walkRounds]
          · simp only [hround]
            obtain ⟨s'', r'', slices'', hrounds, hlast, hwider, hend⟩ :=
              ih (s := s') hspelled hall hsliced
            exact ⟨s'', r'', slices'', hrounds, hlast, hwidened.trans hwider, hend⟩
          · simp

/-- Walks down the stacks of a reading take trees that fit up to its place. -/
theorem walk_spec (hguides : Guides decide Going Taken) (hr : Spelled text r) (v : Nat) (s : σ)
    (hgoing : Going ⟨(r.head v).node, [], 0⟩) :
    ∃ s' r' slices, walk decide s r v = (s', r', slices) ∧ Spelled text r' ∧ Widened r r' ∧
      Sliced Taken text r' r.heads.size (r.place (r.head v).node) slices := by
  have hnone : Sliced Taken text r r.heads.size (r.place (r.head v).node) [] := by
    refine ⟨Nat.le_refl _, List.Pairwise.nil, ?_, ?_, ?_⟩
    · intro t ht
      cases ht
    · intro u hfirst hu
      omega
    · intro t ht
      cases ht
  apply walkRounds_spec hguides v _ hr _ hnone
  intro w hw
  rw [List.mem_singleton] at hw
  subst hw
  exact ⟨⟨(hr.head v).node_lt, fits_nil text _⟩, hgoing⟩

end Rounds

/-- Taking trees off a stack: each slice fits up to the place of the reading. -/
theorem popCount_spec (hr : Spelled text r) (v count : Nat) :
    ∃ r' slices, r.popCount v count = (r', slices) ∧ Spelled text r' ∧ Widened r r' ∧
      Sliced (fun _ _ => True) text r' r.heads.size (r.place (r.head v).node) slices := by
  have hguides : Guides (fun (_ : Unit) (w : Walker) (_ : StackNode) =>
      ((), if w.count = count then (⟨true, true⟩ : Verdict) else ⟨false, false⟩))
      (fun _ => True) (fun _ _ => True) :=
    ⟨fun _ _ _ _ _ _ => trivial, fun _ _ _ _ _ _ => trivial⟩
  obtain ⟨s', r', slices, hwalk, hspelled, hwidened, hsliced⟩ :=
    walk_spec hguides hr v () trivial
  refine ⟨r', slices, ?_, hspelled, hwidened, hsliced⟩
  rw [popCount, hwalk]

/-- Taking all trees off a stack: each slice fits from the start of the text. -/
theorem popAll_spec (hr : Spelled text r) (v : Nat) :
    ∃ r' slices, r.popAll v = (r', slices) ∧ Spelled text r' ∧ Widened r r' ∧
      Sliced (fun _ p => p = 0) text r' r.heads.size (r.place (r.head v).node) slices := by
  have hguides : Guides (fun (_ : Unit) (_ : Walker) (node : StackNode) =>
      ((), (⟨false, node.links.isEmpty⟩ : Verdict)))
      (fun _ => True) (fun _ p => p = 0) := by
    refine ⟨fun _ _ _ _ _ _ => trivial, ?_⟩
    intro _ w n _ htake hroot
    exact hroot (List.isEmpty_iff.mp htake)
  obtain ⟨s', r', slices, hwalk, hspelled, hwidened, hsliced⟩ :=
    walk_spec hguides hr v () trivial
  refine ⟨r', slices, ?_, hspelled, hwidened, hsliced⟩
  rw [popAll, hwalk]

/-! ## What stays as it is -/

/-- The first readings keep their places and what they wait with. -/
def Keeps (n : Nat) (r r' : Reading) : Prop :=
  ∀ u < n, r'.view[u]? = r.view[u]?

theorem Keeps.refl (n : Nat) (r : Reading) : Keeps n r r :=
  fun _ _ => rfl

theorem Keeps.trans {n : Nat} {r'' : Reading} (h : Keeps n r r') (h' : Keeps n r' r'') :
    Keeps n r r'' :=
  fun u hu => (h' u hu).trans (h u hu)

theorem Keeps.mono {m n : Nat} (h : Keeps n r r') (hm : m ≤ n) : Keeps m r r' :=
  fun u hu => h u (Nat.lt_of_lt_of_le hu hm)

theorem Keeps.at {n v p : Nat} (h : Keeps n r r') (hv : v < n) (hat : r.At v p) : r'.At v p :=
  (h v hv).trans hat

theorem Keeps.le_size {n : Nat} (h : Keeps n r r') (hn : n ≤ r.heads.size) :
    n ≤ r'.heads.size := by
  cases n with
  | zero => exact Nat.zero_le _
  | succ n =>
      have hlast : r'.view[n]? = some (r.standingOf (r.head n)) :=
        (h n (Nat.lt_succ_self n)).trans (standingOf_head hn)
      exact (view_getElem?_eq_some.mp hlast).1

theorem keeps_of_view_eq {n : Nat} (h : r'.view = r.view) : Keeps n r r' := by
  intro u _
  rw [h]

theorem keeps_of_isPrefix (h : r.view <+: r'.view) : Keeps r.heads.size r r' := by
  obtain ⟨behind, hbehind⟩ := h
  intro u hu
  rw [← hbehind, List.getElem?_append_left (by rw [length_view]; exact hu)]

theorem keeps_of_view_eraseIdx {n v : Nat} (h : r'.view = r.view.eraseIdx v) (hn : n ≤ v) :
    Keeps n r r' := by
  intro u hu
  rw [h, List.getElem?_eraseIdx_of_lt (Nat.lt_of_lt_of_le hu hn)]

theorem keeps_of_view_set {n v : Nat} {e : Nat × Option Growth} (h : r'.view = r.view.set v e)
    (hn : n ≤ v) : Keeps n r r' := by
  intro u hu
  rw [h, List.getElem?_set_ne (by omega)]

/-- A later reading takes the place of an earlier one. -/
theorem keeps_renumber {n v w p : Nat} (hw : r.At w p) (hlt : v < w) (hn : n ≤ w)
    (hv : n ≤ v ∨ r.At v p) : Keeps n r (r.renumber w v) := by
  have hview := view_renumber (Nat.ne_of_gt hlt) hw
  rcases hv with hle | hat
  · intro u hu
    rw [hview, List.getElem?_eraseIdx_of_lt (by omega), List.getElem?_set_ne (by omega)]
  · rw [hat.set_eq] at hview
    exact keeps_of_view_eraseIdx hview hn

theorem at_of_view_set {v p : Nat} (h : r'.view = r.view.set v (p, none))
    (hv : v < r.heads.size) : r'.At v p := by
  rw [At, h, List.getElem?_set_self (by rw [length_view]; exact hv)]

/-! ## Faults and earlier places -/

/-- What is decided on the way to a fault: the first tree passed is taken if it is one. -/
def faultVerdict (found : Bool) (w : Walker) (_ : StackNode) : Bool × Verdict :=
  match w.growths.getLast? with
  | none => (found, ⟨false, false⟩)
  | some g => if !found && isFault g then (true, ⟨true, true⟩) else (found, ⟨true, false⟩)

theorem popFault_eq (r : Reading) (v : Nat) :
    r.popFault v =
      if (r.top v).links.any fun l => (l.growth.map isFault).getD false then
        let (_, r, slices) := walk faultVerdict false r v
        match slices with
        | [] => (r, [])
        | slice :: _ => (r.renumber slice.version v, slice.growths)
      else (r, []) :=
  rfl

theorem guides_faultVerdict : Guides faultVerdict (fun w => w.growths.length ≤ 1)
    (fun gs _ => ∃ g, gs = [g] ∧ g.label = .fault) := by
  constructor
  · intro found w n l hgoing hstop
    rw [faultVerdict] at hstop
    split at hstop
    · next hnone =>
        rw [List.getLast?_eq_none_iff] at hnone
        rw [Walker.follow]
        split
        · exact hgoing
        · simp [hnone]
    · split at hstop
      · cases hstop
      · cases hstop
  · intro found w n hgoing htake _
    rw [faultVerdict] at htake
    split at htake
    · cases htake
    · next g hlast =>
        split at htake
        · next hfault =>
            rw [Bool.and_eq_true] at hfault
            refine ⟨g, ?_, beq_iff_eq.mp hfault.2⟩
            obtain ⟨front, hfront⟩ := List.getLast?_eq_some_iff.mp hlast
            rw [hfront, List.length_append, List.length_singleton] at hgoing
            have hnil : front = [] := List.length_eq_zero_iff.mp (by omega)
            rw [hfront, hnil, List.nil_append]
        · cases htake

/-- Taking the fault off a stack opens it: its parts fit behind the place the reading is then at. -/
theorem popFault_spec (hr : Spelled text r) {v : Nat} (hv : r.At v stop) :
    ∃ r' fault p, r.popFault v = (r', fault) ∧ Spelled text r' ∧ r'.At v p ∧
      Fits text p stop ((fault.head?.map Growth.children).getD []) ∧
      ∀ u < r.heads.size, u ≠ v → r'.view[u]? = r.view[u]? := by
  rw [popFault_eq]
  split
  · obtain ⟨s', r', slices, hwalk, hspelled, hwidened, hsliced⟩ :=
      walk_spec guides_faultVerdict hr v false (Nat.zero_le 1)
    rw [hwalk]
    have hkeeps := keeps_of_isPrefix hwidened.view
    cases slices with
    | nil =>
      refine ⟨r', [], stop, rfl, hspelled, hv.of_isPrefix hwidened.view, fits_nil text stop, ?_⟩
      intro u hu _
      exact hkeeps u hu
    | cons slice others =>
        obtain ⟨p, hat, hfits, g, hgrowths, hfault⟩ := hsliced.ends slice List.mem_cons_self
        have hversion := hsliced.range slice List.mem_cons_self
        have hlt := hv.lt
        have hbehind : v < slice.version := Nat.lt_of_lt_of_le hlt hversion
        have hview := view_renumber (Nat.ne_of_gt hbehind) hat
        rw [hv.place, hgrowths] at hfits
        refine ⟨_, _, p, rfl, hspelled.renumber _ _, at_renumber hat hbehind, ?_, ?_⟩
        · rw [hgrowths]
          exact hfits.children hfault
        · intro u hu huv
          rw [hview, List.getElem?_eraseIdx_of_lt (by omega), List.getElem?_set_ne (Ne.symm huv)]
          exact hkeeps u hu
  · exact ⟨r, [], stop, rfl, hr, hv, fits_nil text stop, fun _ _ _ => rfl⟩

theorem recordSummary_spec (hr : Spelled text r) (v depth : Nat) :
    Spelled text (r.recordSummary v depth) ∧ Keeps r.heads.size r (r.recordSummary v depth) := by
  have hguides : Guides (fun (found : List Earlier) (w : Walker) (node : StackNode) =>
      if depth < w.count then (found, (⟨true, false⟩ : Verdict))
      else
        let known := (found.takeWhile fun e => !(e.depth < w.count)).any fun e =>
          e.depth == w.count && e.state == node.state
        (if known then found else ⟨node.position, w.count, node.state⟩ :: found, ⟨false, false⟩))
      (fun _ => True) (fun _ _ => True) :=
    ⟨fun _ _ _ _ _ _ => trivial, fun _ _ _ _ _ _ => trivial⟩
  obtain ⟨s', r', slices, hwalk, hspelled, hwidened, -⟩ := walk_spec hguides hr v [] trivial
  rw [recordSummary, hwalk]
  constructor
  · exact hspelled.modifyHead ⟨(hspelled.head v).node_lt, (hspelled.head v).awaited⟩
  · exact (keeps_of_isPrefix hwidened.view).trans (keeps_of_view_eq (view_modifyHead_of_eq rfl))

end Reading
end Reader
end Code
end FormulaMap
