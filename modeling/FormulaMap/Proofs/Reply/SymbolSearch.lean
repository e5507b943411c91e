import FormulaMap.Proofs.Text.Occurrences
import FormulaMap.Symbol

/-!
# Where a symbol is found

A symbol that starts with a number has to stand alone, and it is looked for from left to right: the
search tests an occurrence and goes on behind it, whether or not it stands alone.  So it comes to no
occurrence that begins inside one it has tested.  A symbol is found exactly if it occurs and not all
the places at which it stands alone are passed over in this way; a symbol that cannot overlap itself
never is.
-/

namespace FormulaMap
namespace Symbol

/-- Whether a text holds a symbol behind so many characters, with no name character next to it. -/
def AloneAt (symbol cs : List Char) (i : Nat) : Prop :=
  symbol <+: cs.drop i ∧
    (∀ c ∈ (cs.take i).getLast?, Text.isNameCharacter c = false) ∧
    ∀ c ∈ cs[i + symbol.length]?, Text.isNameCharacter c = false

instance (symbol cs : List Char) (i : Nat) : Decidable (AloneAt symbol cs i) :=
  -- the search for an instance might go through all characters instead of the optional one
  @instDecidableAnd _ _ inferInstance
    (@instDecidableAnd _ _ (Option.decidableForallMem _) (Option.decidableForallMem _))

/-- The places to which a search from left to right comes: from an occurrence it goes on behind
it, and from any other place to the next character. -/
inductive Reaches (symbol cs : List Char) : Nat → Nat → Prop
  | here (i : Nat) : Reaches symbol cs i i
  | past {i j : Nat} : ¬symbol <+: cs.drop i → Reaches symbol cs (i + 1) j → Reaches symbol cs i j
  | behind {i j : Nat} : symbol <+: cs.drop i → Reaches symbol cs (i + symbol.length) j →
      Reaches symbol cs i j

variable {symbol cs : List Char}

theorem Reaches.le {i j : Nat} (h : Reaches symbol cs i j) : i ≤ j := by
  induction h with
  | here i => exact Nat.le_refl i
  | past _ _ ih => omega
  | behind _ _ ih => omega

theorem reaches_iff_of_absent {i j : Nat} (h : ¬symbol <+: cs.drop i) :
    Reaches symbol cs i j ↔ i = j ∨ Reaches symbol cs (i + 1) j := by
  constructor
  · intro hreach
    cases hreach with
    | here => exact .inl rfl
    | past _ hnext => exact .inr hnext
    | behind hheld _ => exact absurd hheld h
  · rintro (rfl | hnext)
    · exact .here i
    · exact .past h hnext

theorem reaches_iff_of_held {i j : Nat} (h : symbol <+: cs.drop i) :
    Reaches symbol cs i j ↔ i = j ∨ Reaches symbol cs (i + symbol.length) j := by
  constructor
  · intro hreach
    cases hreach with
    | here => exact .inl rfl
    | past hheld _ => exact absurd h hheld
    | behind _ hnext => exact .inr hnext
  · rintro (rfl | hnext)
    · exact .here i
    · exact .behind h hnext

/-- A search that comes to an occurrence comes to no place inside it. -/
theorem Reaches.le_of_lt {i q j : Nat} (hq : Reaches symbol cs i q) (hj : Reaches symbol cs i j)
    (hheld : symbol <+: cs.drop q) (hlt : q < j) : q + symbol.length ≤ j := by
  induction hq with
  | here q =>
      rcases (reaches_iff_of_held hheld).mp hj with rfl | hnext
      · omega
      · exact hnext.le
  | past hnone hnext ih =>
      rcases (reaches_iff_of_absent hnone).mp hj with rfl | hlater
      · have hle := hnext.le
        omega
      · exact ih hlater hheld hlt
  | behind hsome hnext ih =>
      rcases (reaches_iff_of_held hsome).mp hj with rfl | hlater
      · have hle := hnext.le
        omega
      · exact ih hlater hheld hlt

/-- What a search does not come to lies inside an occurrence to which it comes. -/
theorem reaches_or_inside (hsymbol : symbol ≠ []) {i j : Nat} (hle : i ≤ j) :
    Reaches symbol cs i j ∨
      ∃ q, Reaches symbol cs i q ∧ symbol <+: cs.drop q ∧ q < j ∧ j < q + symbol.length := by
  have hlength : 0 < symbol.length := List.length_pos_iff.mpr hsymbol
  generalize hsteps : j - i = steps
  induction steps using Nat.strong_induction_on generalizing i with
  | _ steps ih =>
      by_cases heq : i = j
      · subst heq
        exact .inl (.here i)
      · by_cases hheld : symbol <+: cs.drop i
        · by_cases hinside : j < i + symbol.length
          · exact .inr ⟨i, .here i, hheld, by omega, hinside⟩
          · have hlater := ih (j - (i + symbol.length)) (by omega) (by omega) rfl
            rcases hlater with hreach | ⟨q, hreach, hq⟩
            · exact .inl (.behind hheld hreach)
            · exact .inr ⟨q, .behind hheld hreach, hq⟩
        · have hlater := ih (j - (i + 1)) (by omega) (by omega) rfl
          rcases hlater with hreach | ⟨q, hreach, hq⟩
          · exact .inl (.past hheld hreach)
          · exact .inr ⟨q, .past hheld hreach, hq⟩

theorem isBoundary_iff {o : Option Char} :
    isBoundary o = true ↔ ∀ c ∈ o, Text.isNameCharacter c = false := by
  cases o with
  | none => simp [isBoundary]
  | some c => simp [isBoundary]

theorem not_aloneAt_of_length_le (hsymbol : symbol ≠ []) {i : Nat} (h : cs.length ≤ i) :
    ¬AloneAt symbol cs i := by
  rintro ⟨hheld, -⟩
  rw [List.drop_of_length_le h, List.prefix_nil] at hheld
  exact hsymbol hheld

theorem aloneAt_length_iff (front tail : List Char) :
    AloneAt symbol (front ++ (symbol ++ tail)) front.length ↔
      (isBoundary front.getLast? && isBoundary tail.head?) = true := by
  have hheld : symbol <+: (front ++ (symbol ++ tail)).drop front.length := by
    rw [List.drop_left]
    exact List.prefix_append symbol tail
  have hbehind : (front ++ (symbol ++ tail))[front.length + symbol.length]? = tail.head? := by
    rw [← List.append_assoc, ← List.length_append, List.getElem?_append_right (Nat.le_refl _),
      Nat.sub_self, List.head?_eq_getElem?]
  rw [AloneAt, hbehind, List.take_left, Bool.and_eq_true, isBoundary_iff, isBoundary_iff]
  exact and_iff_right hheld

/-- What the search over the rest of a text finds, in terms of the places of the whole text. -/
theorem standsAloneIn_iff (hsymbol : symbol ≠ []) (front : List Char) (skip : Nat)
    (cs : List Char) :
    standsAloneIn symbol front.getLast? skip cs = true ↔
      ∃ i, Reaches symbol (front ++ cs) (front.length + skip) i ∧ AloneAt symbol (front ++ cs) i := by
  -- the text before grows with each character, so that a place in the rest is one of the whole text
  induction cs generalizing front skip with
  | nil =>
      constructor
      · intro hfound
        cases hfound
      · rintro ⟨i, hreach, halone⟩
        have hle := hreach.le
        exact absurd halone (not_aloneAt_of_length_le hsymbol (by simp; omega))
  | cons c rest ih =>
      have hnext := ih (front ++ [c])
      simp only [List.getLast?_append_cons, List.getLast?_singleton, List.append_assoc,
        List.singleton_append, List.length_append, List.length_singleton] at hnext
      have hdrop : (front ++ c :: rest).drop front.length = c :: rest := List.drop_left
      cases skip with
      | succ skip =>
          rw [standsAloneIn, hnext, Nat.add_assoc, Nat.add_comm 1 skip]
      | zero =>
          rw [standsAloneIn, Nat.add_zero]
          cases hafter : Text.after? symbol (c :: rest) with
          | none =>
              have hnone : ¬symbol <+: (front ++ c :: rest).drop front.length := by
                rw [hdrop, ← Text.opensWith_iff, Text.opensWith, hafter]
                simp
              simp only [hnext, Nat.add_zero]
              constructor
              · rintro ⟨i, hreach, halone⟩
                exact ⟨i, .past hnone hreach, halone⟩
              · rintro ⟨i, hreach, halone⟩
                rcases (reaches_iff_of_absent hnone).mp hreach with rfl | hlater
                · exact absurd halone.1 hnone
                · exact ⟨i, hlater, halone⟩
          | some tail =>
              have htail : c :: rest = symbol ++ tail := Text.eq_append_of_after? hafter
              have hheld : symbol <+: (front ++ c :: rest).drop front.length := by
                rw [hdrop, htail]
                exact List.prefix_append symbol tail
              have halone : AloneAt symbol (front ++ (symbol ++ tail)) front.length ↔ _ :=
                aloneAt_length_iff front tail
              rw [← htail] at halone
              have hlength : front.length + 1 + (symbol.length - 1) = front.length + symbol.length := by
                have hpos : 0 < symbol.length := List.length_pos_iff.mpr hsymbol
                omega
              by_cases hboth : (isBoundary front.getLast? && isBoundary tail.head?) = true
              · simp only [if_pos hboth, true_iff]
                exact ⟨front.length, .here _, halone.mpr hboth⟩
              · simp only [if_neg hboth, hnext, hlength]
                constructor
                · rintro ⟨i, hreach, hi⟩
                  exact ⟨i, .behind hheld hreach, hi⟩
                · rintro ⟨i, hreach, hi⟩
                  rcases (reaches_iff_of_held hheld).mp hreach with rfl | hlater
                  · exact absurd (halone.mp hi) hboth
                  · exact ⟨i, hlater, hi⟩

/-- When a symbol occurs in a text.  One that starts with a number has to stand alone somewhere. -/
def Occurs (text symbol : String) : Prop :=
  match symbol.toList with
  | [] => False
  | first :: more =>
    if Text.isNumeric first then ∃ i, AloneAt (first :: more) text.toList i
    else first :: more <:+: text.toList

/-- Whether a symbol starts with a number and every place at which it stands alone is inside an
occurrence to which the search comes before. -/
def PassedOver (text symbol : String) : Prop :=
  symbol.toList.head?.any Text.isNumeric = true ∧
    ∀ i, AloneAt symbol.toList text.toList i →
      ∃ q, Reaches symbol.toList text.toList 0 q ∧ symbol.toList <+: text.toList.drop q ∧
        q < i ∧ i < q + symbol.toList.length

theorem standsAloneIn_start_iff (hsymbol : symbol ≠ []) :
    standsAloneIn symbol none 0 cs = true ↔
      (∃ i, AloneAt symbol cs i) ∧
        ¬∀ i, AloneAt symbol cs i →
          ∃ q, Reaches symbol cs 0 q ∧ symbol <+: cs.drop q ∧ q < i ∧ i < q + symbol.length := by
  have hsearch := standsAloneIn_iff hsymbol [] 0 cs
  simp only [List.getLast?_nil, List.nil_append, List.length_nil, Nat.add_zero] at hsearch
  rw [hsearch]
  constructor
  · rintro ⟨i, hreach, halone⟩
    refine ⟨⟨i, halone⟩, ?_⟩
    intro hinside
    obtain ⟨q, hq, hheld, hlt, hend⟩ := hinside i halone
    have hle := hq.le_of_lt hreach hheld hlt
    omega
  · rintro ⟨-, hnot⟩
    push Not at hnot
    obtain ⟨i, halone, hfree⟩ := hnot
    have hcovered : Reaches symbol cs 0 i ∨ _ := reaches_or_inside hsymbol (Nat.zero_le i)
    rcases hcovered with hreach | ⟨q, hq, hheld, hlt, hend⟩
    · exact ⟨i, hreach, halone⟩
    · have hle := hfree q hq hheld hlt
      omega

/-- A symbol is found exactly if it occurs and is not passed over. -/
theorem containedIn_iff_occurs (text symbol : String) :
    containedIn text symbol = true ↔ Occurs text symbol ∧ ¬PassedOver text symbol := by
  simp only [containedIn, Occurs, PassedOver]
  cases symbol.toList with
  | nil => simp
  | cons first more =>
      by_cases hnumeric : Text.isNumeric first = true
      · simp only [List.head?_cons, Option.any_some, hnumeric, if_true, true_and]
        exact standsAloneIn_start_iff (List.cons_ne_nil first more)
      · simp only [List.head?_cons, Option.any_some, hnumeric, Bool.false_eq_true, if_false,
          false_and, not_false_eq_true, and_true]
        exact Text.occursIn_iff

example : AloneAt "1+1".toList "a1+1+1".toList 3 ∧ containedIn "a1+1+1" "1+1" = false := by
  decide

/-- Whether a symbol ends with a beginning of its own. -/
def Overlapping (symbol : List Char) : Prop :=
  ∃ k, 0 < k ∧ k < symbol.length ∧ symbol.drop k <+: symbol

theorem overlapping_of_inside {q i : Nat} (hq : symbol <+: cs.drop q) (hi : symbol <+: cs.drop i)
    (hlt : q < i) (hend : i < q + symbol.length) : Overlapping symbol := by
  refine ⟨i - q, by omega, by omega, ?_⟩
  have hrest : symbol.drop (i - q) <+: cs.drop i := by
    have hdropped := hq.drop (i - q)
    rwa [List.drop_drop, show q + (i - q) = i by omega] at hdropped
  exact List.prefix_of_prefix_length_le hrest hi (by simp)

/-- The search passes over no symbol that cannot overlap itself. -/
theorem not_passedOver_of_not_overlapping {text symbol : String}
    (h : ¬Overlapping symbol.toList) (hoccurs : Occurs text symbol) : ¬PassedOver text symbol := by
  rintro ⟨hnumeric, hinside⟩
  rw [Occurs] at hoccurs
  cases hsymbol : symbol.toList with
  | nil => simp [hsymbol] at hoccurs
  | cons first more =>
      simp only [hsymbol, List.head?_cons, Option.any_some] at hnumeric
      simp only [hsymbol, if_pos hnumeric] at hoccurs
      obtain ⟨i, halone⟩ := hoccurs
      rw [← hsymbol] at halone
      obtain ⟨q, -, hq, hlt, hend⟩ := hinside i halone
      exact h (overlapping_of_inside hq halone.1 hlt hend)

end Symbol
end FormulaMap
