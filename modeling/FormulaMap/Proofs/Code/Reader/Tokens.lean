import FormulaMap.Proofs.Code.Reader.Places

/-!
# What a reading finds

Whatever is scanned at a place of a text, a token, a stretch that is none, or the end, spells what
stands there; only the end of the text is labelled as that, and it takes all that is left.
-/

namespace FormulaMap
namespace Code

theorem Token.index_ne_endPosition (t : Token) : t.index ≠ Automaton.endPosition := by
  have hlt : t.index < Automaton.endPosition := by
    cases t <;> decide +kernel
  exact Nat.ne_of_lt hlt

namespace Lexis

/-- What a scan gives that stops in front of a place. -/
def stopped (start position : Nat) (found : Option (Token × Nat)) : Scanned :=
  match found with
  | some (t, stop) => .token t start stop
  | none => .stuck start position

theorem stopped_ne_finish (start position stop : Nat) (found : Option (Token × Nat)) :
    stopped start position found ≠ .finish stop := by
  cases found with
  | none => simp [stopped]
  | some t => simp [stopped]

/-- The token found by a scan up to a place. -/
def foundBy (position : Nat) (found : Option (Token × Nat)) (threads : List Thread) :
    Option (Token × Nat) :=
  match completed threads with
  | some t => some (t, position)
  | none => found

theorem scanFrom_cons (start position : Nat) (ending : Bool) (found : Option (Token × Nat))
    (threads : List Thread) (c : Char) (text : List Char) :
    scanFrom start position ending found threads (c :: text) =
      (advanceAll threads c).elim (stopped start position (foundBy position found threads))
        fun next => scanFrom (if next.2 then position + 1 else start) (position + 1)
          (ending && next.2) (foundBy position found threads) next.1 text := by
  rw [scanFrom]
  cases advanceAll threads c with
  | none => rfl
  | some next => rfl

/-- A scan that comes to the end of a text has passed all of it. -/
theorem stop_of_scanFrom_finish {start position stop : Nat} {ending : Bool}
    {found : Option (Token × Nat)} {threads : List Thread} {text : List Char}
    (h : scanFrom start position ending found threads text = .finish stop) :
    stop = position + text.length := by
  induction text generalizing start position ending found threads with
  | nil =>
      have hnil : scanFrom start position ending found threads [] =
          if ending then .finish position
          else stopped start position (foundBy position found threads) := rfl
      rw [hnil] at h
      split at h
      · cases h
        rfl
      · exact absurd h (stopped_ne_finish _ _ _ _)
  | cons c text ih =>
      rw [scanFrom_cons] at h
      cases hnext : advanceAll threads c with
      | none =>
          rw [hnext] at h
          exact absurd h (stopped_ne_finish _ _ _ _)
      | some next =>
          rw [hnext] at h
          have hstop := ih h
          rw [hstop, List.length_cons]
          omega

end Lexis

namespace Reader
namespace Source

variable {text : List Char}

theorem getD_endsOf (cs : List Char) (n : Nat) : (endsOf cs).getD n [] = cs.drop n := by
  induction cs generalizing n with
  | nil =>
      cases n with
      | zero => rfl
      | succ n => simp [endsOf]
  | cons c cs ih =>
      cases n with
      | zero => rfl
      | succ n =>
          rw [endsOf, List.getD_cons_succ, ih, List.drop_succ_cons]

@[simp]
theorem tail_ofText (text : List Char) (position : Nat) :
    (ofText text).tail position = text.drop position := by
  rw [← getD_endsOf, tail, ofText]
  simp

theorem between_ofText (text : List Char) (start stop : Nat) :
    (ofText text).between start stop = (text.drop start).take (stop - start) := by
  rw [between, tail_ofText]

/-- What stands between three places in a row starts at the first of them. -/
theorem between_append_between_isPrefix (text : List Char) (start blank stop : Nat) :
    (ofText text).between start (start + blank) ++
      (ofText text).between (start + blank) stop <+: text.drop start := by
  rw [between_ofText, between_ofText, Nat.add_sub_cancel_left, ← List.drop_drop]
  refine ⟨((text.drop start).drop blank).drop (stop - (start + blank)), ?_⟩
  rw [List.append_assoc, List.take_append_drop, List.take_append_drop]

theorem length_scannable (text : List Char) (position : Nat) :
    ((ofText text).scannable position).length = (text.drop position).length := by
  unfold scannable
  split
  · next heq =>
      rw [tail_ofText] at heq
      rw [heq]
      rfl
  · rw [tail_ofText]

/-- A token that is none of the end of the text starts where its texts stand. -/
theorem starts_token {label : Label} {start blank stop : Nat} {keyword : Bool}
    (hphrase : ∀ head, label ≠ .phrase head) (hlabel : label ≠ .token Automaton.endPosition) :
    Starts text start (Growth.token label ((ofText text).between start (start + blank))
      ((ofText text).between (start + blank) stop) keyword) where
  single := ⟨_, _, _, rfl⟩
  measured := Growth.measured_token hphrase _ _ _
  isPrefix := by
    rw [Growth.token, Growth.spelling_leaf]
    exact between_append_between_isPrefix text start blank stop
  finish := fun h => absurd h hlabel

theorem starts_tokenAt (state position : Nat) (t : Token) (start stop : Nat) :
    Starts text position ((ofText text).tokenAt state position t start stop) := by
  simp only [tokenAt]
  split
  · apply starts_token (by simp)
    simpa using t.index_ne_endPosition
  · next k _ =>
      apply starts_token (by simp)
      split
      · simpa using t.index_ne_endPosition
      · simpa using k.index_ne_endPosition

theorem starts_growthOf {state position : Nat} {scanned : Lexis.Scanned}
    (hfinish : ∀ stop, scanned = .finish stop → stop = (text.drop position).length) :
    Starts text position ((ofText text).growthOf state position scanned) := by
  cases scanned with
  | token t start stop => exact starts_tokenAt state position t start stop
  | stuck start reached =>
      simp only [growthOf, faultAt]
      apply starts_token (by simp)
      simp
  | finish stop =>
      have hspelling : ((ofText text).growthOf state position (.finish stop)).spelling =
          text.drop position := by
        rw [growthOf, Growth.token, Growth.spelling_leaf, between_ofText, Nat.add_sub_cancel_left,
          hfinish stop rfl, List.take_length, List.append_nil]
      refine ⟨⟨_, _, _, rfl⟩, Growth.measured_token (by simp) _ _ _, ?_, fun _ => hspelling⟩
      exact hspelling ▸ List.prefix_rfl

/-- What a reading finds next starts at its place. -/
theorem starts_next (text : List Char) (state position : Nat) :
    Starts text position ((ofText text).next state position) := by
  have hscan : ∀ state stop, (ofText text).scan state position = .finish stop →
      stop = (text.drop position).length := by
    intro state stop h
    rw [scan, Lexis.scan] at h
    rw [Lexis.stop_of_scanFrom_finish h, length_scannable, Nat.zero_add]
  rw [next]
  split
  · split
    · apply starts_growthOf
      intro stop h
      cases h
    · exact starts_growthOf (hscan 0)
  · next found _ => exact starts_growthOf fun stop h => hscan state stop h

end Source
end Reader
end Code
end FormulaMap
