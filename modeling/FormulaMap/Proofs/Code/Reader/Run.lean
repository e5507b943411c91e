import FormulaMap.Code.Reader.Run
import FormulaMap.Proofs.Code.Automaton.Accepting
import FormulaMap.Proofs.Code.Reader.Recover
import FormulaMap.Proofs.Code.Reader.Tokens

/-!
# A text that is read is spelled

Every step of a reading keeps that its stacks spell the text up to its place, and so does giving
up, joining, exchanging and resuming readings.  So the tree that is found at the end spells the
whole text, unless it is a single token.
-/

namespace FormulaMap
namespace Code
namespace Reader

open Automaton

variable {text : List Char}

/-- A keyword read as a name starts where it started. -/
theorem Starts.asName {start : Nat} {g : Growth} (h : Starts text start g) :
    Starts text start (Reading.asName g) := by
  obtain ⟨facts, blank, cs, rfl⟩ := h.single
  have hmeasured := h.measured
  cases hmeasured with
  | leaf label gap size =>
      refine ⟨⟨_, _, _, rfl⟩, .leaf (by simp) gap size, ?_, ?_⟩
      · rw [Reading.asName, Growth.spelling_leaf, ← Growth.spelling_leaf facts]
        exact h.isPrefix
      · intro hlabel
        have hend : Token.identifier.index = endPosition := Label.token.inj hlabel
        exact absurd hend Token.identifier.index_ne_endPosition

/-- Actions that a token of the text may have: none for what is no token, and the end of a reading
at the end of the text only. -/
structure Meant (todo : List Action) (g : Growth) : Prop where
  label : todo ≠ [] → g.label ≠ .fault
  accept : Action.accept ∈ todo → g.label = .token endPosition

theorem Meant.tail {a : Action} {todo : List Action} {g : Growth} (h : Meant (a :: todo) g) :
    Meant todo g :=
  ⟨fun _ => h.label (List.cons_ne_nil a todo), fun ha => h.accept (List.mem_cons_of_mem a ha)⟩

theorem meant_actions {state n : Nat} {g : Growth} (hg : g.label = .token n) :
    Meant (actions state n) g := by
  constructor
  · intro _
    rw [hg]
    simp
  · intro ha
    rw [hg, eq_endPosition_of_accept_mem ha]

theorem meant_actionsFor (state : Nat) (g : Growth) :
    Meant (Reading.actionsFor state g.label) g := by
  cases hg : g.label with
  | token n => exact meant_actions hg
  | phrase head => exact ⟨fun h => absurd rfl h, fun ha => nomatch ha⟩
  | fault => exact ⟨fun h => absurd rfl h, fun ha => nomatch ha⟩
  | faultRun => exact ⟨fun h => absurd rfl h, fun ha => nomatch ha⟩

namespace Reading

variable {r : Reading}

/-! ## Over a token -/

/-- As long as a reading has not gone on, it stands where it stood, and so does what was put
together for it. -/
theorem act_spec (s : Source) (hr : Spelled text r) {v p : Nat} {g : Growth} (hv : r.At v p)
    (hg : Starts text p g) {todo : List Action} (htodo : Meant todo g) {progress : Progress}
    (hprogress : ∀ w, progress = .reduced (some w) → v < w ∧ r.At w p) :
    ∃ r' progress', act s v g todo progress r = (r', progress') ∧ Spelled text r' ∧
      (progress' = .done ∨ r'.At v p ∧
        ∀ w, progress' = .reduced (some w) → v < w ∧ r'.At w p) := by
  induction todo generalizing r progress with
  | nil => exact ⟨r, progress, rfl, hr, .inr ⟨hv, hprogress⟩⟩
  | cons a rest ih =>
      have hfits := hg.fits (htodo.label (List.cons_ne_nil a rest))
      unfold act
      cases a with
      | shift next late =>
          cases late with
          | true => exact ih hr hv htodo.tail hprogress
          | false => exact ⟨_, _, rfl, (hr.push next hv hfits).1, .inl rfl⟩
      | skip => exact ⟨_, _, rfl, (hr.push (r.top v).state hv hfits.asExtra).1, .inl rfl⟩
      | accept =>
          have hlabel := htodo.accept List.mem_cons_self
          exact ⟨_, _, rfl, hr.accept hv hg hlabel, .inl rfl⟩
      | recover => exact ⟨_, _, rfl, hr.recover s hv hg, .inl rfl⟩
      | reduce head length weight production =>
          obtain ⟨reduced, version, hreduce, hspelled, ⟨k, hk⟩, hversion⟩ :=
            reduce_spec hr v head length weight production
          have hbegins : r.view <+: reduced.view := by
            rw [hk]
            exact List.prefix_append _ _
          simp only [hreduce]
          apply ih hspelled (hv.of_isPrefix hbegins) htodo.tail
          intro w hw
          cases version with
          | some found =>
              cases hw
              obtain ⟨hfound, hat⟩ := hversion w rfl
              rw [hv.place] at hat
              rw [hfound]
              rw [hfound] at hat
              exact ⟨hv.lt, hat⟩
          | none =>
              cases progress with
              | reduced old =>
                  obtain ⟨hlt, hat⟩ := hprogress w hw
                  exact ⟨hlt, hat.of_isPrefix hbegins⟩
              | done => cases hw
              | nothing => cases hw

theorem Spelled.pause (hr : Spelled text r) {v p : Nat} {g : Growth} (hv : r.At v p)
    (hg : Starts text p g) : Spelled text (r.pause v g) := by
  apply hr.modifyHead
  refine ⟨(hr.head v).node_lt, ?_⟩
  intro found hfound
  cases hfound
  rw [hv.place]
  exact hg

/-- A reading is taken over a token that starts at its place. -/
theorem Spelled.overToken (hr : Spelled text r) (s : Source) {v p : Nat} (fuel : Nat) {g : Growth}
    (hv : r.At v p) (hg : Starts text p g) {todo : List Action} (htodo : Meant todo g) :
    Spelled text (overToken s v fuel g todo r) := by
  induction fuel generalizing r g todo with
  | zero => exact hr.halt v
  | succ fuel ih =>
      have hnothing : ∀ w, Progress.nothing = .reduced (some w) → v < w ∧ r.At w p := by
        intro w hw
        cases hw
      obtain ⟨acted, progress, hact, hspelled, hstands⟩ := act_spec s hr hv hg htodo hnothing
      rw [Reading.overToken, hact]
      cases progress with
      | done => exact hspelled
      | reduced version =>
          obtain ⟨hat, hversion⟩ := hstands.resolve_left (by simp)
          cases version with
          | none => exact hspelled.halt v
          | some w =>
              obtain ⟨hlt, hatw⟩ := hversion w rfl
              exact ih (hspelled.renumber w v) (at_renumber hatw hlt) hg (meant_actionsFor _ g)
      | nothing =>
          obtain ⟨hat, -⟩ := hstands.resolve_left (by simp)
          simp only
          split
          · exact hspelled.recover s hat hg
          · split
            · refine ih hspelled hat hg.asName (meant_actions ?_)
              obtain ⟨facts, blank, cs, rfl⟩ := hg.single
              rfl
            · exact hspelled.pause hat hg

theorem Spelled.step (hr : Spelled text r) {v : Nat} (hv : (r.head v).status = .active) :
    Spelled text (r.step (Source.ofText text) v) :=
  hr.overToken _ _ (at_of_active hv) (Source.starts_next text _ _) (meant_actionsFor _ _)

/-! ## All readings -/

theorem stepAhead_spec (v fuel last : Nat) (hr : Spelled text r) :
    ∃ r' last', stepAhead (Source.ofText text) v fuel last r = (r', last') ∧ Spelled text r' := by
  induction fuel generalizing r with
  | zero => exact ⟨r, last, rfl, hr⟩
  | succ fuel ih =>
      rw [stepAhead]
      split
      · exact ⟨r, last, rfl, hr⟩
      · next hactive =>
          have hv : (r.head v).status = .active := by simpa using hactive
          simp only
          split
          · exact ⟨_, _, rfl, hr.step hv⟩
          · exact ih (hr.step hv)

theorem stepAll_spec (fuel v last : Nat) (hr : Spelled text r) :
    ∃ r' last', stepAll (Source.ofText text) fuel v last r = (r', last') ∧ Spelled text r' := by
  induction fuel generalizing r v last with
  | zero => exact ⟨r, last, rfl, hr⟩
  | succ fuel ih =>
      rw [stepAll]
      split
      · exact ⟨r, last, rfl, hr⟩
      · obtain ⟨ahead, furthest, hahead, hspelled⟩ :=
          stepAhead_spec v (stepBound (Source.ofText text).length) last hr
        rw [hahead]
        exact ih _ _ hspelled

theorem Spelled.swap (hr : Spelled text r) (i j : Nat) : Spelled text (r.swap i j) := by
  have hfirst : Spelled text (r.modifyHead i fun _ => r.head j) := hr.modifyHead (hr.head j)
  exact hfirst.modifyHead ⟨(hr.head i).node_lt, (hr.head i).awaited⟩

theorem compareBelow_spec (standing : Standing) (fuel i j : Nat) (hr : Spelled text r) :
    ∃ r' next, compareBelow standing fuel i j r = (r', next) ∧ Spelled text r' := by
  induction fuel generalizing r i j with
  | zero => exact ⟨r, i, rfl, hr⟩
  | succ fuel ih =>
      rw [compareBelow]
      split
      · exact ⟨r, i + 1, rfl, hr⟩
      · obtain ⟨settled, other, hstanding, hsettled, -⟩ := standing_spec hr j
        rw [hstanding]
        simp only
        split
        · exact ⟨_, _, rfl, hsettled.remove i⟩
        · exact ih _ _ (hsettled.remove j)
        · split
          · next hmerge => exact ⟨_, _, rfl, (hsettled.merge hmerge).1⟩
          · split
            · exact ih _ _ (hsettled.swap i j)
            · exact ih _ _ hsettled

theorem condenseFrom_spec (fuel i : Nat) (best : Option Nat) (hr : Spelled text r) :
    ∃ r' best', condenseFrom fuel i best r = (r', best') ∧ Spelled text r' := by
  induction fuel generalizing r i best with
  | zero => exact ⟨r, best, rfl, hr⟩
  | succ fuel ih =>
      rw [condenseFrom]
      split
      · exact ⟨r, best, rfl, hr⟩
      · split
        · exact ih _ _ (hr.remove i)
        · obtain ⟨settled, standing, hstanding, hsettled, -⟩ := standing_spec hr i
          obtain ⟨compared, next, hcompare, hcompared⟩ :=
            compareBelow_spec standing (2 * settled.heads.size + 2) i 0 hsettled
          rw [hstanding]
          simp only [hcompare]
          exact ih _ _ hcompared

/-- What a waiting reading goes on with starts at its place. -/
theorem resumeFrom_spec (s : Source) (fuel i count : Nat) (going : Bool) (best : Option Nat)
    (hr : Spelled text r) :
    ∃ r' best', resumeFrom s fuel i count going best r = (r', best') ∧ Spelled text r' := by
  induction fuel generalizing r i count going best with
  | zero => exact ⟨r, best, rfl, hr⟩
  | succ fuel ih =>
      rw [resumeFrom]
      split
      · exact ⟨r, best, rfl, hr⟩
      · simp only
        split
        · next g hstatus hlookahead =>
            split
            · have hlt : i < r.heads.size := by
                apply lt_size_of_status_ne
                rw [hstatus]
                decide
              have hg : Starts text (r.place (r.head i).node) g := by
                apply (hr.head i).awaited
                rw [Head.awaited, if_pos hstatus]
                exact hlookahead
              have hplaced : Placed text r
                  { r.head i with status := .active, lookahead := none } := by
                refine ⟨(hr.head i).node_lt, ?_⟩
                intro found hfound
                cases hfound
              have hview := view_modifyHead r i fun h =>
                { h with status := .active, lookahead := none }
              have hresumed : Spelled text (r.modifyHead i fun h =>
                  { h with status := .active, lookahead := none }) := hr.modifyHead hplaced
              exact ih _ _ _ _ (hresumed.enterFault s (at_of_view_set hview hlt) hg)
            · exact ih _ _ _ _ (hr.remove i)
        · exact ih _ _ _ _ hr

theorem condense_spec (s : Source) (hr : Spelled text r) :
    ∃ r' best, r.condense s = (r', best) ∧ Spelled text r' := by
  obtain ⟨condensed, best, hcondense, hspelled⟩ :=
    condenseFrom_spec (4 * (r.heads.size + 1) * (r.heads.size + 1)) 0 none hr
  rw [condense]
  simp only [hcondense]
  exact resumeFrom_spec s _ _ _ _ _ (hspelled.extract versionBound)

theorem runFrom_spec (fuel last : Nat) (hr : Spelled text r) :
    Spelled text (runFrom (Source.ofText text) fuel last r) := by
  induction fuel generalizing r last with
  | zero => exact hr
  | succ fuel ih =>
      obtain ⟨stepped, furthest, hstep, hstepped⟩ :=
        stepAll_spec (stepBound (Source.ofText text).length) 0 last hr
      obtain ⟨condensed, best, hcondense, hcondensed⟩ :=
        condense_spec (Source.ofText text) hstepped
      have hnext : ∀ settled : Bool, Spelled text
          (if settled || condensed.heads.isEmpty then condensed
            else runFrom (Source.ofText text) fuel furthest condensed) := by
        intro settled
        split
        · exact hcondensed
        · exact ih furthest hcondensed
      rw [runFrom, hstep]
      simp only [hcondense]
      exact hnext _

end Reading

/-- The tree of a text is one of the whole text, unless it is a single token. -/
theorem whole_of_read {g : Growth} (h : read text = some g) : Whole text g :=
  (Reading.runFrom_spec _ 0 (Reading.spelled_start text 1)).finished g h

end Reader
end Code
end FormulaMap
