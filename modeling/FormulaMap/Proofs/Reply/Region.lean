import FormulaMap.Proofs.Reply.Decoding
import FormulaMap.Proofs.Text.Occurrences
import FormulaMap.Proofs.Text.Trimming

/-!
# What surrounds the object of a reply

The object is found by cutting a reply several times: blanks, fence markers and a tag are taken off
its ends, then all that stands outside its braces.  No cut but the last can move a brace, because
none takes an opening brace off the start or a closing one off the end.  So only the last one
counts, and a reply is what its outermost braces hold, whatever stands around them.
-/

namespace FormulaMap
namespace Reply

/-- Whether one text is another with more around it: before it no opening brace, and behind it no
closing one. -/
def Wraps (outer inner : List Char) : Prop :=
  ∃ pre post, outer = pre ++ inner ++ post ∧ '\x7b' ∉ pre ∧ '\x7d' ∉ post

/-- Whether a text is what the leftmost opening through the rightmost closing brace of another
hold. -/
def IsRegion (cs object : List Char) : Prop :=
  Wraps cs object ∧ object.head? = some '\x7b' ∧ object.getLast? = some '\x7d'

/-- Whether some opening brace of a text has a closing one behind it. -/
def HasBraces (cs : List Char) : Prop :=
  ∃ before inside behind, cs = before ++ '\x7b' :: (inside ++ '\x7d' :: behind)

/-! ## Cutting without moving a brace -/

theorem Wraps.refl (cs : List Char) : Wraps cs cs :=
  ⟨[], [], by simp, by simp, by simp⟩

theorem Wraps.trans {outer middle inner : List Char} (h : Wraps outer middle)
    (h' : Wraps middle inner) : Wraps outer inner := by
  obtain ⟨pre, post, rfl, hpre, hpost⟩ := h
  obtain ⟨pre', post', rfl, hpre', hpost'⟩ := h'
  exact ⟨pre ++ pre', post' ++ post, by simp, by simp [hpre, hpre'], by simp [hpost, hpost']⟩

theorem wraps_trimStart (cs : List Char) : Wraps cs (Text.trimStart cs) := by
  refine ⟨cs.takeWhile Text.isBlank, [], ?_, ?_, List.not_mem_nil⟩
  · rw [List.append_nil]
    exact List.takeWhile_append_dropWhile.symm
  · intro hmem
    have hblank := List.mem_takeWhile_imp hmem
    cases hblank

theorem wraps_trimEnd (cs : List Char) : Wraps cs (Text.trimEnd cs) := by
  refine ⟨[], cs.rtakeWhile Text.isBlank, ?_, List.not_mem_nil, ?_⟩
  · rw [List.nil_append, Text.trimEnd_eq_rdropWhile]
    exact List.rdropWhile_append_rtakeWhile.symm
  · intro hmem
    have hblank := List.mem_rtakeWhile_imp hmem
    cases hblank

theorem wraps_trim (cs : List Char) : Wraps cs (Text.trim cs) :=
  (wraps_trimStart cs).trans (wraps_trimEnd _)

theorem wraps_of_after? {opening cs rest : List Char} (hopening : '\x7b' ∉ opening)
    (h : Text.after? opening cs = some rest) : Wraps cs rest :=
  ⟨opening, [], by simp [Text.eq_append_of_after? h], hopening, List.not_mem_nil⟩

theorem wraps_of_before? {ending cs rest : List Char} (hending : '\x7d' ∉ ending)
    (h : Text.before? ending cs = some rest) : Wraps cs rest :=
  ⟨[], ending, by simp [Text.eq_append_of_before? h], List.not_mem_nil, hending⟩

/-- Taking off the marker and the tag at the start moves no brace. -/
theorem wraps_openingStripped (cs : List Char) :
    Wraps cs (match Text.after? fence cs with
      | some rest => Text.trimStart ((Text.after? fenceTag rest).getD rest)
      | none => cs) := by
  cases hfence : Text.after? fence cs with
  | none => exact Wraps.refl cs
  | some rest =>
      have hrest : Wraps cs rest := wraps_of_after? (by decide) hfence
      have htag : Wraps rest ((Text.after? fenceTag rest).getD rest) := by
        cases htag : Text.after? fenceTag rest with
        | none => exact Wraps.refl rest
        | some more => exact wraps_of_after? (by decide) htag
      exact (hrest.trans htag).trans (wraps_trimStart _)

/-- Neither does taking off the marker at the end. -/
theorem wraps_endingStripped (cs : List Char) :
    Wraps cs (match Text.before? fence cs with
      | some rest => Text.trimEnd rest
      | none => cs) := by
  cases hfence : Text.before? fence cs with
  | none => exact Wraps.refl cs
  | some rest => exact (wraps_of_before? (by decide) hfence).trans (wraps_trimEnd rest)

theorem wraps_stripFenceChars (cs : List Char) : Wraps cs (stripFenceChars cs) :=
  ((wraps_trim cs).trans (wraps_openingStripped _)).trans (wraps_endingStripped _)

/-! ## The region of the outermost braces -/

theorem throughLastBrace_eq_rdropWhile (cs : List Char) :
    throughLastBrace cs = cs.rdropWhile (· != '\x7d') := rfl

/-- What stands behind the last closing brace does not count. -/
theorem throughLastBrace_append (cs : List Char) {post : List Char} (hpost : '\x7d' ∉ post) :
    throughLastBrace (cs ++ post) = throughLastBrace cs := by
  have hall : ∀ c ∈ post.reverse, (c != '\x7d') = true := by
    intro c hc
    rw [List.mem_reverse] at hc
    simpa using ne_of_mem_of_not_mem hc hpost
  rw [throughLastBrace, throughLastBrace, List.reverse_append,
    List.dropWhile_append_of_pos hall]

/-- Nor what stands around a text without bringing it a brace to start or to end with. -/
theorem locateObjectChars?_of_wraps {outer inner : List Char} (h : Wraps outer inner) :
    locateObjectChars? outer = locateObjectChars? inner := by
  obtain ⟨pre, post, rfl, hpre, hpost⟩ := h
  have hall : ∀ c ∈ pre, (c != '\x7b') = true := by
    intro c hc
    simpa using ne_of_mem_of_not_mem hc hpre
  have hobject : throughLastBrace ((pre ++ inner ++ post).dropWhile (· != '\x7b')) =
      throughLastBrace (inner.dropWhile (· != '\x7b')) := by
    rw [List.append_assoc, List.dropWhile_append_of_pos hall, List.dropWhile_append]
    split
    · next hnone =>
        -- the leftmost opening brace is behind the text, and so is no closing one
        have hsuffix : post.dropWhile (· != '\x7b') <:+ post := List.dropWhile_suffix _
        have hout : '\x7d' ∉ post.dropWhile (· != '\x7b') := fun hmem =>
          hpost (hsuffix.subset hmem)
        rw [List.isEmpty_iff.mp hnone]
        exact throughLastBrace_append [] hout
    · exact throughLastBrace_append _ hpost
  rw [locateObjectChars?, locateObjectChars?, hobject]

theorem locateObjectChars?_stripFenceChars (cs : List Char) :
    locateObjectChars? (stripFenceChars cs) = locateObjectChars? cs :=
  (locateObjectChars?_of_wraps (wraps_stripFenceChars cs)).symm

theorem isRegion_of_locateObjectChars? {cs object : List Char}
    (h : locateObjectChars? cs = some object) : IsRegion cs object := by
  have hparts := List.takeWhile_append_dropWhile (p := (· != '\x7b')) (l := cs)
  simp only [locateObjectChars?] at h
  generalize hbelow : cs.dropWhile (· != '\x7b') = below at h hparts
  split at h
  · cases h
  · next hsome =>
      rw [Option.some.injEq] at h
      rw [h, List.isEmpty_iff] at hsome
      have hends : object ++ below.rtakeWhile (· != '\x7d') = below := by
        rw [← h, throughLastBrace_eq_rdropWhile]
        exact List.rdropWhile_append_rtakeWhile
      refine ⟨⟨cs.takeWhile (· != '\x7b'), below.rtakeWhile (· != '\x7d'), ?_, ?_, ?_⟩, ?_, ?_⟩
      · rw [List.append_assoc, hends, hparts]
      · intro hmem
        have hother := List.mem_takeWhile_imp hmem
        simp at hother
      · intro hmem
        have hother := List.mem_rtakeWhile_imp hmem
        simp at hother
      · obtain ⟨c, more, rfl⟩ := List.exists_cons_of_ne_nil hsome
        have hfirst := List.head?_dropWhile_not (· != '\x7b') cs
        rw [hbelow, ← hends] at hfirst
        simpa using hfirst
      · have hne : below.rdropWhile (· != '\x7d') ≠ [] := by
          rw [← throughLastBrace_eq_rdropWhile, h]
          exact hsome
        have hlast := List.rdropWhile_last_not (· != '\x7d') below hne
        simp only [← throughLastBrace_eq_rdropWhile, h] at hlast
        rw [List.getLast?_eq_getLast_of_ne_nil hsome]
        simpa using hlast

/-- What lies between the outermost braces is found, and nothing else is. -/
theorem locateObjectChars?_eq_some_iff {cs object : List Char} :
    locateObjectChars? cs = some object ↔ IsRegion cs object := by
  constructor
  · exact isRegion_of_locateObjectChars?
  · rintro ⟨hwraps, hfirst, hlast⟩
    obtain ⟨more, rfl⟩ := List.head?_eq_some_iff.mp hfirst
    obtain ⟨front, hfront⟩ := List.getLast?_eq_some_iff.mp hlast
    have hbelow : ('\x7b' :: more).dropWhile (· != '\x7b') = '\x7b' :: more := by simp
    have hthrough : throughLastBrace ('\x7b' :: more) = '\x7b' :: more := by
      rw [hfront, throughLastBrace_eq_rdropWhile, List.rdropWhile_concat_neg _ _ _ (by simp)]
    rw [locateObjectChars?_of_wraps hwraps, locateObjectChars?, hbelow, hthrough]
    rfl

/-- There is something to be found exactly if some opening brace has a closing one behind it. -/
theorem exists_isRegion_iff {cs : List Char} : (∃ object, IsRegion cs object) ↔ HasBraces cs := by
  constructor
  · rintro ⟨object, ⟨pre, post, rfl, -, -⟩, hfirst, hlast⟩
    obtain ⟨more, rfl⟩ := List.head?_eq_some_iff.mp hfirst
    cases more using List.reverseRecOn with
    | nil => cases hlast
    | append_singleton inside c =>
        rw [← List.cons_append, List.getLast?_concat, Option.some.injEq] at hlast
        exact ⟨pre, inside, post, by simp [hlast]⟩
  · rintro ⟨before, inside, behind, rfl⟩
    cases hobject : locateObjectChars? (before ++ '\x7b' :: (inside ++ '\x7d' :: behind)) with
    | some object => exact ⟨object, isRegion_of_locateObjectChars? hobject⟩
    | none =>
        -- what is left from the leftmost opening brace on has a closing one
        simp only [locateObjectChars?] at hobject
        split at hobject
        · next hempty =>
            rw [List.isEmpty_iff, throughLastBrace_eq_rdropWhile, List.rdropWhile_eq_nil_iff]
              at hempty
            have hmem : '\x7d' ∈ (before ++ '\x7b' :: (inside ++ '\x7d' :: behind)).dropWhile
                (· != '\x7b') := by
              rw [List.dropWhile_append]
              split
              · simp
              · simp
            have hother := hempty '\x7d' hmem
            simp at hother
        · cases hobject

/-! ## Replies -/

theorem locateObject?_stripFences (raw : String) :
    locateObject? (stripFences raw) = locateObject? raw := by
  rw [locateObject?, stripFences, String.toList_ofList, locateObjectChars?_stripFenceChars,
    locateObject?]

theorem locateObject?_eq_some_iff {raw object : String} :
    locateObject? raw = some object ↔ IsRegion raw.toList object.toList := by
  rw [locateObject?, Option.map_eq_some_iff]
  constructor
  · rintro ⟨found, hfound, rfl⟩
    rw [String.toList_ofList]
    exact locateObjectChars?_eq_some_iff.mp hfound
  · intro h
    exact ⟨object.toList, locateObjectChars?_eq_some_iff.mpr h, String.ofList_toList⟩

theorem locateObject?_eq_none_iff {raw : String} :
    locateObject? raw = none ↔ ¬HasBraces raw.toList := by
  rw [locateObject?, Option.map_eq_none_iff, ← exists_isRegion_iff, Option.eq_none_iff_forall_ne_some]
  simp only [ne_eq, locateObjectChars?_eq_some_iff, not_exists]

theorem parse_of_isRegion {raw object : String} (h : IsRegion raw.toList object.toList)
    (candidates : NameSet) :
    parse raw candidates = (decode object candidates).map fun m => (object, m) := by
  unfold parse
  rw [locateObject?_stripFences, locateObject?_eq_some_iff.mpr h]
  cases hdecode : decode object candidates with
  | error fault => simp only [hdecode, Except.map]
  | ok m => simp only [hdecode, Except.map]

theorem parse_of_not_hasBraces {raw : String} (h : ¬HasBraces raw.toList) (candidates : NameSet) :
    parse raw candidates = .error (.noObject raw) := by
  unfold parse
  rw [locateObject?_stripFences, locateObject?_eq_none_iff.mpr h]

/-- A reply is decided by the region of its outermost braces alone.  Without one there is no object
and the whole reply is kept as it came; with one, what comes out is what decoding the region gives,
and the region is kept.  Taking fences off changes nothing about it, and neither does putting text
around the reply that has no opening brace before it and no closing one behind it. -/
theorem parse_by_outermost_braces (raw : String) (candidates : NameSet) :
    locateObject? (stripFences raw) = locateObject? raw ∧
    (¬HasBraces raw.toList → parse raw candidates = .error (.noObject raw)) ∧
    (HasBraces raw.toList → ∃ object : String,
      (∀ other : String, IsRegion raw.toList other.toList ↔ other = object) ∧
      parse raw candidates = (decode object candidates).map (fun m => (object, m)) ∧
      ∀ fault, decode object candidates = .error fault → fault.raw = object) ∧
    ∀ pre post : String, '\x7b' ∉ pre.toList → '\x7d' ∉ post.toList → HasBraces raw.toList →
      parse (pre ++ raw ++ post) candidates = parse raw candidates := by
  have hregion : HasBraces raw.toList → ∃ object : String, IsRegion raw.toList object.toList := by
    intro h
    obtain ⟨object, hobject⟩ := exists_isRegion_iff.mpr h
    exact ⟨String.ofList object, by rwa [String.toList_ofList]⟩
  refine ⟨locateObject?_stripFences raw, fun h => parse_of_not_hasBraces h candidates, ?_, ?_⟩
  · intro h
    obtain ⟨object, hobject⟩ := hregion h
    refine ⟨object, ?_, parse_of_isRegion hobject candidates,
      fun fault hfault => (raw_of_decode hfault).1⟩
    intro other
    rw [← locateObject?_eq_some_iff, locateObject?_eq_some_iff.mpr hobject, Option.some.injEq]
    exact eq_comm
  · intro pre post hpre hpost h
    obtain ⟨object, hobject⟩ := hregion h
    have hwraps : Wraps (pre ++ raw ++ post).toList raw.toList :=
      ⟨pre.toList, post.toList, by simp, hpre, hpost⟩
    have houter : IsRegion (pre ++ raw ++ post).toList object.toList :=
      ⟨hwraps.trans hobject.1, hobject.2⟩
    rw [parse_of_isRegion houter, parse_of_isRegion hobject]

end Reply
end FormulaMap
