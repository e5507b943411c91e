import FormulaMap.Proofs.Code.Reader.Spelling

/-!
# Trees at their places

A tree *fits* between two places of a text if it spells what stands there.  What a reading finds
at a place starts there, and what it finds as the end of the text reaches to the end.
-/

namespace FormulaMap
namespace Code
namespace Reader

/-- A text stands between two places of a text. -/
def Spans (text : List Char) (start stop : Nat) (cs : List Char) : Prop :=
  cs <+: text.drop start ∧ stop = start + cs.length

theorem spans_nil (text : List Char) (start : Nat) : Spans text start start [] :=
  ⟨List.nil_prefix, rfl⟩

theorem Spans.append {text left right : List Char} {start middle stop : Nat}
    (hleft : Spans text start middle left) (hright : Spans text middle stop right) :
    Spans text start stop (left ++ right) := by
  obtain ⟨⟨behind, hbehind⟩, rfl⟩ := hleft
  obtain ⟨hbegins, rfl⟩ := hright
  have hmiddle : text.drop (start + left.length) = behind := by
    rw [← List.drop_drop, ← hbehind, List.drop_left]
  rw [hmiddle] at hbegins
  constructor
  · rw [← hbehind]
    exact (List.prefix_append_right_inj left).mpr hbegins
  · rw [List.length_append, Nat.add_assoc]

/-- What stands at the start of a text and reaches as far is the whole text. -/
theorem Spans.eq_text {text cs : List Char} {stop : Nat} (h : Spans text 0 stop cs)
    (hstop : text.length ≤ stop) : cs = text := by
  obtain ⟨hbegins, rfl⟩ := h
  rw [List.drop_zero] at hbegins
  apply hbegins.eq_of_length_le
  omega

/-- Trees that spell what stands between two places, and can be taken apart again. -/
structure Fits (text : List Char) (start stop : Nat) (gs : List Growth) : Prop where
  measured : ∀ g ∈ gs, g.Measured
  openable : ∀ g ∈ gs, g.Openable
  spans : Spans text start stop (Growth.spellingAll gs)

theorem fits_nil (text : List Char) (start : Nat) : Fits text start start [] where
  measured := by simp
  openable := by simp
  spans := by
    rw [Growth.spellingAll_nil]
    exact spans_nil text start

theorem Fits.append {text : List Char} {start middle stop : Nat} {left right : List Growth}
    (hleft : Fits text start middle left) (hright : Fits text middle stop right) :
    Fits text start stop (left ++ right) where
  measured := by
    intro g hg
    rcases List.mem_append.mp hg with hg | hg
    · exact hleft.measured g hg
    · exact hright.measured g hg
  openable := by
    intro g hg
    rcases List.mem_append.mp hg with hg | hg
    · exact hleft.openable g hg
    · exact hright.openable g hg
  spans := by
    rw [Growth.spellingAll_append]
    exact hleft.spans.append hright.spans

/-- Trees one behind the other have a place between them. -/
theorem Fits.exists_of_append {text : List Char} {start stop : Nat} {left right : List Growth}
    (h : Fits text start stop (left ++ right)) :
    ∃ middle, Fits text start middle left ∧ Fits text middle stop right := by
  have hspans := h.spans
  rw [Growth.spellingAll_append] at hspans
  obtain ⟨⟨behind, hbehind⟩, hstop⟩ := hspans
  have hmiddle : text.drop (start + (Growth.spellingAll left).length) =
      Growth.spellingAll right ++ behind := by
    rw [← List.drop_drop, ← hbehind, List.append_assoc, List.drop_left]
  refine ⟨start + (Growth.spellingAll left).length, ⟨?_, ?_, ?_, rfl⟩, ⟨?_, ?_, ?_, ?_⟩⟩
  · exact fun g hg => h.measured g (List.mem_append_left right hg)
  · exact fun g hg => h.openable g (List.mem_append_left right hg)
  · rw [← hbehind, List.append_assoc]
    exact List.prefix_append _ _
  · exact fun g hg => h.measured g (List.mem_append_right left hg)
  · exact fun g hg => h.openable g (List.mem_append_right left hg)
  · rw [hmiddle]
    exact List.prefix_append _ _
  · rw [hstop, List.length_append, Nat.add_assoc]

/-- A tree put together from trees that fit fits in their place. -/
theorem Fits.node {text : List Char} {start stop : Nat} {gs : List Growth}
    (h : Fits text start stop gs) (label : Label) (production : Option Nat) :
    Fits text start stop [Growth.node label production gs] where
  measured := by
    intro g hg
    rw [List.mem_singleton.mp hg]
    exact Growth.measured_node h.measured
  openable := by
    intro g hg
    rw [List.mem_singleton.mp hg]
    exact .row h.openable
  spans := by
    simpa using h.spans

theorem Fits.asExtra {text : List Char} {start stop : Nat} {g : Growth}
    (h : Fits text start stop [g]) : Fits text start stop [g.asExtra] where
  measured := by
    intro e he
    rw [List.mem_singleton.mp he]
    exact (h.measured g (List.mem_singleton_self g)).asExtra
  openable := by
    intro e he
    rw [List.mem_singleton.mp he]
    exact (h.openable g (List.mem_singleton_self g)).asExtra
  spans := by
    simpa using h.spans

theorem Fits.weigh {text : List Char} {start stop : Nat} {g : Growth}
    (h : Fits text start stop [g]) (weight : Int) : Fits text start stop [g.weigh weight] where
  measured := by
    intro e he
    rw [List.mem_singleton.mp he]
    exact (h.measured g (List.mem_singleton_self g)).weigh weight
  openable := by
    intro e he
    rw [List.mem_singleton.mp he]
    exact (h.openable g (List.mem_singleton_self g)).weigh weight
  spans := by
    simpa using h.spans

/-- A fault that fits can be replaced by what is in it. -/
theorem Fits.children {text : List Char} {start stop : Nat} {g : Growth}
    (h : Fits text start stop [g]) (hfault : g.label = .fault) :
    Fits text start stop g.children where
  measured := (h.measured g (List.mem_singleton_self g)).children
  openable := (h.openable g (List.mem_singleton_self g)).children hfault
  spans := by
    rw [(h.openable g (List.mem_singleton_self g)).spellingAll_children hfault]
    simpa using h.spans

theorem Fits.stop_eq {text : List Char} {start stop : Nat} {g : Growth}
    (h : Fits text start stop [g]) : stop = start + g.extent.characters := by
  rw [(h.measured g (List.mem_singleton_self g)).characters, h.spans.2]
  simp

/-! ## The whole text -/

/-- A tree of the whole text, or a single token. -/
def Whole (text : List Char) (g : Growth) : Prop :=
  g.spelling = text ∨
    ∃ facts blank cs, g = .leaf facts blank cs ∧ ∀ head, facts.label ≠ .phrase head

/-! ## What is found at a place -/

/-- A token that starts at a place; as the end of the text it reaches to the end. -/
structure Starts (text : List Char) (start : Nat) (g : Growth) : Prop where
  single : ∃ facts blank cs, g = .leaf facts blank cs
  measured : g.Measured
  isPrefix : g.spelling <+: text.drop start
  finish : g.label = .token Automaton.endPosition → g.spelling = text.drop start

theorem Starts.fits {text : List Char} {start : Nat} {g : Growth} (h : Starts text start g)
    (hlabel : g.label ≠ .fault) : Fits text start (start + g.extent.characters) [g] where
  measured := by
    intro e he
    rw [List.mem_singleton.mp he]
    exact h.measured
  openable := by
    intro e he
    rw [List.mem_singleton.mp he]
    exact .sound hlabel
  spans := by
    refine ⟨by simpa using h.isPrefix, ?_⟩
    rw [h.measured.characters]
    simp

/-- What is passed over becomes part of a run, whatever it is. -/
theorem Starts.fits_run {text : List Char} {start : Nat} {g : Growth} (h : Starts text start g) :
    Fits text start (start + g.extent.characters) [Growth.node .faultRun none [g]] where
  measured := by
    intro e he
    rw [List.mem_singleton.mp he]
    apply Growth.measured_node
    intro part hpart
    rw [List.mem_singleton.mp hpart]
    exact h.measured
  openable := by
    intro e he
    rw [List.mem_singleton.mp he]
    refine .sound ?_
    simp [Growth.label, Growth.node, Growth.facts, Growth.join]
  spans := by
    refine ⟨by simpa using h.isPrefix, ?_⟩
    rw [h.measured.characters]
    simp

theorem Starts.asExtra {text : List Char} {start : Nat} {g : Growth} (h : Starts text start g) :
    Starts text start g.asExtra where
  single := by
    obtain ⟨facts, blank, cs, rfl⟩ := h.single
    exact ⟨_, _, _, rfl⟩
  measured := h.measured.asExtra
  isPrefix := by
    rw [Growth.spelling_asExtra]
    exact h.isPrefix
  finish := by
    intro hlabel
    rw [Growth.spelling_asExtra]
    apply h.finish
    cases g with
    | leaf facts blank text => exact hlabel
    | branch facts production children => exact hlabel

end Reader
end Code
end FormulaMap
