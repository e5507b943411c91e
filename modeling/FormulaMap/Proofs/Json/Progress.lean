import FormulaMap.Json.Typed
import FormulaMap.Proofs.Json.WrittenObjects
import Mathlib.Data.List.TakeWhile
import Mathlib.Order.Basic

/-!
# Readers get ahead

Whatever is read takes at least one character, so that less of the text is left each time.  The fuel
that a document is read with therefore never runs out: any that is twice as much as the text is
long, and a little more, gives the same.
-/

namespace FormulaMap
namespace Json

/-! ## What is left of a text -/

theorem length_skipBlanks_le (cs : List Char) : (skipBlanks cs).length ≤ cs.length :=
  List.length_dropWhile_le _ _

theorem length_lt_of_skipBlanks {cs rest : List Char} {c : Char}
    (h : skipBlanks cs = c :: rest) : rest.length < cs.length := by
  have hle := length_skipBlanks_le cs
  rw [h, List.length_cons] at hle
  omega

theorem length_le_of_readWord {word cs rest : List Char} (h : readWord word cs = .ok rest) :
    rest.length ≤ cs.length := by
  induction word generalizing cs with
  | nil =>
      cases h
      exact Nat.le_refl _
  | cons x xs ih =>
      cases cs with
      | nil => cases h
      | cons c cs =>
          rw [readWord] at h
          split at h
          · exact Nat.le_succ_of_le (ih h)
          · cases h

/-- A string takes its closing quote at least. -/
theorem length_lt_of_readString {skip : Nat} {cs s rest : List Char}
    (h : readString skip cs = .ok (s, rest)) : rest.length < cs.length := by
  induction cs generalizing skip s with
  | nil => cases h
  | cons c cs ih =>
      rw [List.length_cons]
      cases skip with
      | succ skip =>
          rw [readString] at h
          exact Nat.lt_succ_of_lt (ih h)
      | zero =>
          rw [readString] at h
          split at h
          · cases h
            exact Nat.lt_succ_self _
          · split at h
            · obtain ⟨⟨x, taken⟩, -, h⟩ := exists_of_bind_eq_ok h
              obtain ⟨⟨xs, left⟩, hmore, h⟩ := exists_of_bind_eq_ok h
              cases h
              exact Nat.lt_succ_of_lt (ih hmore)
            · split at h
              · cases h
              · obtain ⟨⟨xs, left⟩, hmore, h⟩ := exists_of_bind_eq_ok h
                cases h
                exact Nat.lt_succ_of_lt (ih hmore)

/-! ### Numbers -/

theorem length_gather_le (significand taken : Nat) (cs : List Char) :
    (gather significand taken cs).2.2.length ≤ cs.length := by
  induction cs generalizing significand taken with
  | nil => exact Nat.le_refl _
  | cons c cs ih =>
      simp only [gather]
      split
      · exact Nat.le_succ_of_le (ih _ _)
      · exact Nat.le_refl _

theorem length_gatherExponent_le (exponent : Nat) (cs : List Char) :
    (gatherExponent exponent cs).2.length ≤ cs.length := by
  induction cs generalizing exponent with
  | nil => exact Nat.le_refl _
  | cons c cs ih =>
      simp only [gatherExponent]
      split
      · split
        · exact Nat.le_succ_of_le (ih _)
        · exact Nat.le_succ _
      · exact Nat.le_refl _

theorem length_passDigits_le (cs : List Char) : (passDigits cs).2.length ≤ cs.length :=
  List.length_dropWhile_le _ _

variable {negative : Bool} {significand : Nat} {exponent : Int} {cs rest : List Char} {n : Number}

theorem eq_of_finishNumber (h : finishNumber negative significand exponent cs = .ok (n, rest)) :
    rest = cs := by
  rw [finishNumber] at h
  split at h
  · cases h
    rfl
  · cases h

theorem length_le_of_readExponentDigits {down : Bool}
    (h : readExponentDigits negative significand exponent down cs = .ok (n, rest)) :
    rest.length ≤ cs.length := by
  cases cs with
  | nil => cases h
  | cons c more =>
      have hgather := length_gatherExponent_le (Text.digitValue c) more
      rw [readExponentDigits] at h
      split at h
      · split at h
        · next power left heq =>
            rw [heq] at hgather
            rw [eq_of_finishNumber h]
            exact Nat.le_succ_of_le hgather
        · next left heq =>
            rw [heq] at hgather
            split at h
            · cases h
            · cases h
              exact Nat.le_succ_of_le ((length_passDigits_le left).trans hgather)
      · cases h

theorem length_le_of_readExponent
    (h : readExponent negative significand exponent cs = .ok (n, rest)) :
    rest.length ≤ cs.length := by
  have hdigits : ∃ down digits, digits.length ≤ cs.length ∧
      readExponent negative significand exponent cs =
        readExponentDigits negative significand exponent down digits := by
    unfold readExponent
    split
    next down digits hsign =>
      refine ⟨down, digits, ?_, rfl⟩
      split at hsign
      · cases hsign
        exact Nat.le_succ _
      · cases hsign
        exact Nat.le_succ _
      · cases hsign
        exact Nat.le_refl _
  obtain ⟨down, digits, hlength, heq⟩ := hdigits
  rw [heq] at h
  exact (length_le_of_readExponentDigits h).trans hlength

theorem length_le_of_readScale (h : readScale negative significand exponent cs = .ok (n, rest)) :
    rest.length ≤ cs.length := by
  unfold readScale at h
  split at h
  · exact Nat.le_succ_of_le (length_le_of_readExponent h)
  · exact Nat.le_succ_of_le (length_le_of_readExponent h)
  · exact Nat.le_of_eq (congrArg List.length (eq_of_finishNumber h))

theorem length_le_of_readFraction
    (h : readFraction negative significand exponent cs = .ok (n, rest)) :
    rest.length ≤ cs.length := by
  have hgather := length_gather_le significand 0 cs
  simp only [readFraction] at h
  split at h
  · exact ((length_le_of_readScale h).trans (length_passDigits_le _)).trans hgather
  · split at h
    · cases h
    · exact (length_le_of_readScale h).trans hgather

theorem length_le_of_readTail (h : readTail negative significand cs = .ok (n, rest)) :
    rest.length ≤ cs.length := by
  unfold readTail at h
  split at h
  · exact Nat.le_succ_of_le (length_le_of_readFraction h)
  · exact Nat.le_succ_of_le (length_le_of_readExponent h)
  · exact Nat.le_succ_of_le (length_le_of_readExponent h)
  · cases h
    exact Nat.le_refl _

/-- A number takes its first digit at least. -/
theorem length_lt_of_readNumber (h : readNumber negative cs = .ok (n, rest)) :
    rest.length < cs.length := by
  cases cs with
  | nil => cases h
  | cons c more =>
      have hgather := length_gather_le (Text.digitValue c) 0 more
      simp only [readNumber] at h
      split at h
      · split at h
        · cases h
        · exact Nat.lt_succ_of_le (length_le_of_readTail h)
      · split at h
        · split at h
          · have hpassed := (length_passDigits_le _).trans hgather
            split at h
            · next left heq =>
                rw [heq, List.length_cons] at hpassed
                have hleft := length_le_of_readFraction h
                rw [List.length_cons]
                omega
            · exact Nat.lt_succ_of_le ((length_le_of_readScale h).trans hpassed)
          · exact Nat.lt_succ_of_le ((length_le_of_readTail h).trans hgather)
        · cases h

theorem length_lt_of_readSigned (h : readSigned cs = .ok (n, rest)) : rest.length < cs.length := by
  unfold readSigned at h
  split at h
  · exact Nat.lt_succ_of_lt (length_lt_of_readNumber h)
  · exact length_lt_of_readNumber h

/-! ### Values -/

theorem length_lt_of_readColon (h : readColon cs = .ok rest) : rest.length < cs.length := by
  unfold readColon at h
  split at h
  · next left heq =>
      cases h
      exact length_lt_of_skipBlanks heq
  · cases h
  · cases h

theorem length_le_of_nextElement {first more : Bool} (h : nextElement first cs = .ok (more, rest)) :
    rest.length ≤ cs.length ∧ (more = false → rest.length < cs.length) := by
  unfold nextElement at h
  split at h
  · cases h
  · next left heq =>
      cases h
      have hlt := length_lt_of_skipBlanks heq
      exact ⟨Nat.le_of_lt hlt, fun _ => hlt⟩
  · next c left _ heq =>
      have hlt := length_lt_of_skipBlanks heq
      split at h
      · cases h
        exact ⟨hlt, nofun⟩
      · split at h
        · have hbehind := length_skipBlanks_le left
          split at h
          · cases h
          · cases h
          · cases h
            exact ⟨by omega, nofun⟩
        · cases h

theorem length_le_of_nextKey {first more : Bool} (h : nextKey first cs = .ok (more, rest)) :
    rest.length ≤ cs.length ∧ (more = false → rest ≠ []) := by
  unfold nextKey at h
  split at h
  · cases h
  · next left heq =>
      cases h
      exact ⟨length_lt_of_skipBlanks heq, fun _ => List.cons_ne_nil _ _⟩
  · next c left _ heq =>
      have hlt := length_lt_of_skipBlanks heq
      split at h
      · split at h
        · cases h
          exact ⟨Nat.le_of_lt hlt, nofun⟩
        · cases h
      · split at h
        · split at h
          · cases h
          · next key hkey =>
              cases h
              have hbehind := length_lt_of_skipBlanks hkey
              exact ⟨by omega, nofun⟩
          · cases h
          · cases h
        · cases h

/-- A value, the elements of a list behind its bracket and the members of an object behind its
brace all take a character at least. -/
theorem readers_get_ahead (fuel : Nat) :
    (∀ depth cs v rest, readValue fuel depth cs = .ok (v, rest) → rest.length < cs.length) ∧
    (∀ depth first cs vs rest, readElements fuel depth first cs = .ok (vs, rest) →
      rest.length < cs.length) ∧
    ∀ depth first cs ms rest, readMembers fuel depth first cs = .ok (ms, rest) →
      rest.length < cs.length := by
  induction fuel with
  | zero =>
      refine ⟨?_, ?_, ?_⟩
      · intro depth cs v rest h
        rw [readValue] at h
        cases h
      · intro depth first cs vs rest h
        rw [readElements] at h
        cases h
      · intro depth first cs ms rest h
        rw [readMembers] at h
        cases h
  | succ fuel ih =>
      obtain ⟨ihValue, ihElements, ihMembers⟩ := ih
      refine ⟨?_, ?_, ?_⟩
      · intro depth cs v rest h
        obtain ⟨c, more, heq, hfrom⟩ := readValue_cases h
        have hmore := length_lt_of_skipBlanks heq
        cases hfrom with
        | null hword => exact (length_le_of_readWord hword).trans_lt hmore
        | yes hword => exact (length_le_of_readWord hword).trans_lt hmore
        | no hword => exact (length_le_of_readWord hword).trans_lt hmore
        | number hnumber =>
            have hskip := length_skipBlanks_le cs
            rw [heq] at hskip
            exact (length_lt_of_readSigned hnumber).trans_le hskip
        | string hstring => exact (length_lt_of_readString hstring).trans hmore
        | array _ helements => exact (ihElements _ _ _ _ _ helements).trans hmore
        | object _ hmembers => exact (ihMembers _ _ _ _ _ hmembers).trans hmore
      · intro depth first cs vs rest h
        rw [readElements] at h
        obtain ⟨⟨more, behind⟩, hnext, h⟩ := exists_of_bind_eq_ok h
        obtain ⟨hle, hlt⟩ := length_le_of_nextElement hnext
        cases more with
        | false =>
            cases h
            exact hlt rfl
        | true =>
            simp only [if_true] at h
            obtain ⟨⟨v, left⟩, hvalue, h⟩ := exists_of_bind_eq_ok h
            obtain ⟨⟨others, last⟩, hothers, h⟩ := exists_of_bind_eq_ok h
            cases h
            exact ((ihElements _ _ _ _ _ hothers).trans (ihValue _ _ _ _ hvalue)).trans_le hle
      · intro depth first cs ms rest h
        rw [readMembers] at h
        obtain ⟨⟨more, behind⟩, hnext, h⟩ := exists_of_bind_eq_ok h
        obtain ⟨hle, hsome⟩ := length_le_of_nextKey hnext
        cases more with
        | false =>
            cases h
            have hpos := List.length_pos_iff.mpr (hsome rfl)
            rw [List.length_drop]
            omega
        | true =>
            simp only [if_true] at h
            obtain ⟨⟨key, left⟩, hkey, h⟩ := exists_of_bind_eq_ok h
            obtain ⟨colon, hcolon, h⟩ := exists_of_bind_eq_ok h
            obtain ⟨⟨v, value⟩, hvalue, h⟩ := exists_of_bind_eq_ok h
            obtain ⟨⟨others, last⟩, hothers, h⟩ := exists_of_bind_eq_ok h
            cases h
            have hkeylt : left.length < behind.length := length_lt_of_readString hkey
            have hcolonlt : colon.length < left.length := length_lt_of_readColon hcolon
            have hvaluelt : value.length < colon.length := ihValue _ _ _ _ hvalue
            have hotherslt : last.length < value.length := ihMembers _ _ _ _ _ hothers
            exact (hotherslt.trans (hvaluelt.trans (hcolonlt.trans hkeylt))).trans_le hle

theorem length_lt_of_readValue {fuel depth : Nat} {v : Value}
    (h : readValue fuel depth cs = .ok (v, rest)) : rest.length < cs.length :=
  (readers_get_ahead fuel).1 depth cs v rest h

/-! ## Enough fuel -/

theorem bind_congr_of_ok {ε α β : Type} {x : Except ε α} {f g : α → Except ε β}
    (h : ∀ a, x = .ok a → f a = g a) : x >>= f = x >>= g := by
  cases x with
  | error e => rfl
  | ok a => exact h a rfl

/-- Any two amounts of fuel that are enough for a text lead to the same. -/
theorem readers_with_enough_fuel (fuel : Nat) :
    (∀ other depth cs, 2 * cs.length < fuel → 2 * cs.length < other →
      readValue fuel depth cs = readValue other depth cs) ∧
    (∀ other depth first cs, 2 * cs.length + 1 < fuel → 2 * cs.length + 1 < other →
      readElements fuel depth first cs = readElements other depth first cs) ∧
    ∀ other depth first cs, 2 * cs.length + 1 < fuel → 2 * cs.length + 1 < other →
      readMembers fuel depth first cs = readMembers other depth first cs := by
  induction fuel with
  | zero =>
      refine ⟨?_, ?_, ?_⟩
      · intro other depth cs h
        omega
      · intro other depth first cs h
        omega
      · intro other depth first cs h
        omega
  | succ fuel ih =>
      obtain ⟨ihValue, ihElements, ihMembers⟩ := ih
      refine ⟨?_, ?_, ?_⟩
      · intro other depth cs hfuel hother
        obtain ⟨other, rfl⟩ := Nat.exists_eq_add_of_lt hother
        rw [readValue, readValue]
        cases heq : skipBlanks cs with
        | nil => rfl
        | cons c more =>
            have hmore := length_lt_of_skipBlanks heq
            have helements := ihElements (2 * cs.length + other) (depth - 1) true more
              (by omega) (by omega)
            have hmembers := ihMembers (2 * cs.length + other) (depth - 1) true more
              (by omega) (by omega)
            simp only [helements, hmembers]
      · intro other depth first cs hfuel hother
        obtain ⟨other, rfl⟩ := Nat.exists_eq_add_of_lt hother
        rw [readElements, readElements]
        apply bind_congr_of_ok
        rintro ⟨more, behind⟩ hnext
        have hbehind := (length_le_of_nextElement hnext).1
        cases more with
        | false => rfl
        | true =>
            simp only [if_true]
            rw [ihValue (2 * cs.length + 1 + other) depth behind (by omega) (by omega)]
            apply bind_congr_of_ok
            rintro ⟨v, left⟩ hvalue
            have hleft := length_lt_of_readValue hvalue
            simp only
            rw [ihElements (2 * cs.length + 1 + other) depth false left (by omega) (by omega)]
      · intro other depth first cs hfuel hother
        obtain ⟨other, rfl⟩ := Nat.exists_eq_add_of_lt hother
        rw [readMembers, readMembers]
        apply bind_congr_of_ok
        rintro ⟨more, behind⟩ hnext
        have hbehind := (length_le_of_nextKey hnext).1
        cases more with
        | false => rfl
        | true =>
            simp only [if_true]
            apply bind_congr_of_ok
            rintro ⟨key, afterKey⟩ hkey
            apply bind_congr_of_ok
            intro afterColon hcolon
            have hkeylt : afterKey.length < behind.length := length_lt_of_readString hkey
            have hcolonlt : afterColon.length < afterKey.length := length_lt_of_readColon hcolon
            simp only
            rw [ihValue (2 * cs.length + 1 + other) depth afterColon (by omega) (by omega)]
            apply bind_congr_of_ok
            rintro ⟨v, left⟩ hvalue
            have hleft := length_lt_of_readValue hvalue
            simp only
            rw [ihMembers (2 * cs.length + 1 + other) depth false left (by omega) (by omega)]

/-- The members of an object are read the same with any fuel that is enough for their text. -/
theorem readMembers_of_enough {fuel depth : Nat} {first : Bool}
    (h : 2 * cs.length + 1 < fuel) :
    readMembers fuel depth first cs = readMembers (enoughFuel cs) depth first cs :=
  (readers_with_enough_fuel fuel).2.2 (enoughFuel cs) depth first cs h (by rw [enoughFuel]; omega)

end Json
end FormulaMap
