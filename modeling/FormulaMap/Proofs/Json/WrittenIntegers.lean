import FormulaMap.Proofs.Json.WrittenNumbers

/-!
# Written integers are read back

The integers of 64 bits, and nothing else, are read as integers, and the digits of each of them
denote it.  Whether a floating-point number is read back from its numeral is a question about its
own digits and is not answered here.
-/

namespace FormulaMap
namespace Decimal

theorem isAsciiDigit_digitChar {n : Nat} (h : n < 10) : Text.isAsciiDigit (digitChar n) = true := by
  have hall : ∀ k : Fin 10, Text.isAsciiDigit (digitChar k.val) = true := by decide
  exact hall ⟨n, h⟩

theorem digitChar_ne_zero {n : Nat} (hpos : 0 < n) (h : n < 10) : digitChar n ≠ '0' := by
  have hall : ∀ k : Fin 10, 0 < k.val → digitChar k.val ≠ '0' := by decide
  exact hall ⟨n, h⟩ hpos

theorem isAsciiDigit_of_mem_digits {n : Nat} {c : Char} (h : c ∈ digits n) :
    Text.isAsciiDigit c = true := by
  induction n using Nat.strongRecOn with
  | ind n ih =>
      rw [digits] at h
      split at h
      · next hlt =>
          rw [List.mem_singleton] at h
          subst h
          exact isAsciiDigit_digitChar hlt
      · next hge =>
          rw [List.mem_append, List.mem_singleton] at h
          rcases h with h | rfl
          · exact ih (n / 10) (by omega) h
          · exact isAsciiDigit_digitChar (by omega)

/-- The numeral of a positive number starts with a positive digit. -/
theorem exists_digits_eq_cons {n : Nat} (hpos : 0 < n) :
    ∃ c more, digits n = c :: more ∧ c ≠ '0' := by
  induction n using Nat.strongRecOn with
  | ind n ih =>
      rw [digits]
      split
      · next hlt => exact ⟨digitChar n, [], rfl, digitChar_ne_zero hpos hlt⟩
      · next hge =>
          obtain ⟨c, more, hdigits, hc⟩ := ih (n / 10) (by omega) (by omega)
          rw [hdigits]
          exact ⟨c, more ++ [digitChar (n % 10)], rfl, hc⟩

theorem le_valueFrom (start : Nat) (cs : List Char) : start ≤ valueFrom start cs := by
  induction cs generalizing start with
  | nil => exact Nat.le_refl start
  | cons c more ih =>
      have hmore := ih (10 * start + digitOf c)
      have hcons : valueFrom start (c :: more) = valueFrom (10 * start + digitOf c) more := rfl
      omega

end Decimal

namespace Json

theorem gather_digits {cs : List Char} {significand taken : Nat}
    (hdigits : ∀ c ∈ cs, Text.isAsciiDigit c = true)
    (hfits : Decimal.valueFrom significand cs ≤ maxNatural) :
    gather significand taken cs = (Decimal.valueFrom significand cs, taken + cs.length, []) := by
  induction cs generalizing significand taken with
  | nil => rfl
  | cons c more ih =>
      have hgrown : significand * 10 + Text.digitValue c = 10 * significand + Decimal.digitOf c := by
        rw [Nat.mul_comm]
        rfl
      have hmore : Decimal.valueFrom (10 * significand + Decimal.digitOf c) more ≤ maxNatural :=
        hfits
      have hle := Nat.le_trans (Decimal.le_valueFrom _ more) hmore
      have hc : (Text.isAsciiDigit c &&
          decide (10 * significand + Decimal.digitOf c ≤ maxNatural)) = true := by
        simp [hdigits c List.mem_cons_self, hle]
      simp only [gather]
      rw [hgrown, if_pos hc, ih (fun d hd => hdigits d (List.mem_cons_of_mem c hd)) hmore,
        List.length_cons, Nat.add_assoc, Nat.add_comm 1]
      rfl

theorem readNumber_digits {negative : Bool} {n : Nat} (hn : n ≤ maxNatural) :
    readNumber negative (Decimal.digits n) = .ok (ofInteger negative n, []) := by
  by_cases hzero : n = 0
  · subst hzero
    rw [Decimal.digits]
    rfl
  · obtain ⟨c, more, hdigits, hc⟩ := Decimal.exists_digits_eq_cons (Nat.pos_of_ne_zero hzero)
    have hascii : ∀ d ∈ c :: more, Text.isAsciiDigit d = true := by
      intro d hd
      rw [← hdigits] at hd
      exact Decimal.isAsciiDigit_of_mem_digits hd
    have hvalue : Decimal.valueFrom (Text.digitValue c) more = n := by
      have hkey := Decimal.value_digits n
      rw [hdigits] at hkey
      have hfirst : Decimal.value (c :: more) =
          Decimal.valueFrom (10 * 0 + Decimal.digitOf c) more := rfl
      rw [hfirst, Nat.mul_zero, Nat.zero_add] at hkey
      exact hkey
    have hgather : gather (Text.digitValue c) 0 more = (n, 0 + more.length, []) := by
      rw [gather_digits (fun d hd => hascii d (List.mem_cons_of_mem c hd)) (by omega), hvalue]
    rw [hdigits]
    simp only [readNumber]
    rw [if_neg (by simpa using hc), if_pos (hascii c List.mem_cons_self), hgather]
    rfl

/-- The integers that are read as integers. -/
def Number.Ranged : Number → Prop
  | .natural n => n ≤ maxNatural
  | .negative n => 0 < n ∧ n ≤ Nat.pow 2 63
  | .floating _ _ => True

theorem numberOf?_eq_some {cs : List Char} {n : Number} :
    numberOf? cs = some n ↔ readSigned cs = .ok (n, []) := by
  unfold numberOf?
  split
  · next m h => simp [h]
  · next hnot =>
      constructor
      · intro h
        cases h
      · intro h
        exact absurd h (hnot n)

/-- The digits of an integer of 64 bits are read as that integer. -/
theorem numberOf?_chars_natural {n : Nat} (hn : n ≤ maxNatural) :
    numberOf? (Number.natural n).chars = some (.natural n) := by
  rw [numberOf?_eq_some]
  have hsign : ∀ c ∈ (Decimal.digits n).head?, c ≠ '-' := by
    rintro c hc rfl
    have hdigit := Decimal.isAsciiDigit_of_mem_digits (List.mem_of_mem_head? hc)
    cases hdigit
  have hunsigned : readSigned (Decimal.digits n) = readNumber false (Decimal.digits n) := by
    unfold readSigned
    split
    · next heq =>
        rw [heq] at hsign
        exact absurd rfl (hsign _ rfl)
    · rfl
  exact hunsigned.trans (readNumber_digits hn)

theorem numberOf?_chars_negative {n : Nat} (hpos : 0 < n) (hn : n ≤ Nat.pow 2 63) :
    numberOf? (Number.negative n).chars = some (.negative n) := by
  rw [numberOf?_eq_some]
  have hfits : n ≤ maxNatural := by
    have hpow : Nat.pow 2 63 ≤ maxNatural := by decide
    omega
  have hinteger : ofInteger true n = .negative n := by
    have hin : ¬(n = 0 ∨ Nat.pow 2 63 < n) := by omega
    rw [ofInteger, if_neg (by decide), if_neg hin]
  have hread : readSigned (Number.negative n).chars = readNumber true (Decimal.digits n) := rfl
  rw [hread, readNumber_digits hfits, hinteger]

theorem Number.Ranged.numberOf?_chars {n : Number} (hn : n.Ranged)
    (hfloating : ∀ f v, n = .floating f v → numberOf? n.chars = some n) :
    numberOf? n.chars = some n := by
  cases n with
  | natural n => exact numberOf?_chars_natural hn
  | negative n => exact numberOf?_chars_negative hn.1 hn.2
  | floating f v => exact hfloating f v rfl

/-! ## What is read is in range -/

theorem gather_le {cs rest : List Char} {significand taken grown count : Nat}
    (h : gather significand taken cs = (grown, count, rest)) (hfits : significand ≤ maxNatural) :
    grown ≤ maxNatural := by
  induction cs generalizing significand taken with
  | nil =>
      cases h
      exact hfits
  | cons c more ih =>
      simp only [gather] at h
      split at h
      · next hmore =>
          rw [Bool.and_eq_true, decide_eq_true_eq] at hmore
          exact ih h hmore.2
      · cases h
        exact hfits

theorem ranged_of_finishNumber {negative : Bool} {significand : Nat} {exponent : Int}
    {cs rest : List Char} {n : Number}
    (h : finishNumber negative significand exponent cs = .ok (n, rest)) : n.Ranged := by
  simp only [finishNumber] at h
  split at h
  · next m hparts =>
      cases h
      simp only [ofParts] at hparts
      split at hparts
      · rw [Option.map_eq_some_iff] at hparts
        obtain ⟨v, _, rfl⟩ := hparts
        trivial
      · cases hparts
  · cases h

theorem ranged_of_readExponentDigits {negative down : Bool} {significand : Nat} {start : Int}
    {cs rest : List Char} {n : Number}
    (h : readExponentDigits negative significand start down cs = .ok (n, rest)) : n.Ranged := by
  cases cs with
  | nil => cases h
  | cons c more =>
      simp only [readExponentDigits] at h
      by_cases hdigit : Text.isAsciiDigit c = true
      · rw [if_pos hdigit] at h
        split at h
        · exact ranged_of_finishNumber h
        · by_cases hlarge : significand ≠ 0 ∧ (!down) = true
          · rw [if_pos hlarge] at h
            cases h
          · rw [if_neg hlarge] at h
            cases h
            trivial
      · rw [if_neg hdigit] at h
        cases h

theorem ranged_of_readExponent {negative : Bool} {significand : Nat} {start : Int}
    {cs rest : List Char} {n : Number}
    (h : readExponent negative significand start cs = .ok (n, rest)) : n.Ranged := by
  have hdigits : ∃ down digits, readExponent negative significand start cs =
      readExponentDigits negative significand start down digits := by
    unfold readExponent
    split
    next down digits _ => exact ⟨down, digits, rfl⟩
  obtain ⟨down, digits, heq⟩ := hdigits
  rw [heq] at h
  exact ranged_of_readExponentDigits h

theorem ranged_of_readScale {negative : Bool} {significand : Nat} {exponent : Int}
    {cs rest : List Char} {n : Number}
    (h : readScale negative significand exponent cs = .ok (n, rest)) : n.Ranged := by
  unfold readScale at h
  split at h
  · exact ranged_of_readExponent h
  · exact ranged_of_readExponent h
  · exact ranged_of_finishNumber h

theorem ranged_of_readFraction {negative : Bool} {significand : Nat} {exponent : Int}
    {cs rest : List Char} {n : Number}
    (h : readFraction negative significand exponent cs = .ok (n, rest)) : n.Ranged := by
  simp only [readFraction] at h
  split at h
  · exact ranged_of_readScale h
  · split at h
    · cases h
    · exact ranged_of_readScale h

theorem ranged_ofInteger {negative : Bool} {significand : Nat} (hfits : significand ≤ maxNatural) :
    (ofInteger negative significand).Ranged := by
  unfold ofInteger
  split
  · exact hfits
  · split
    · trivial
    · next hin => exact ⟨by omega, by omega⟩

theorem ranged_of_readTail {negative : Bool} {significand : Nat} {cs rest : List Char} {n : Number}
    (h : readTail negative significand cs = .ok (n, rest)) (hfits : significand ≤ maxNatural) :
    n.Ranged := by
  unfold readTail at h
  split at h
  · exact ranged_of_readFraction h
  · exact ranged_of_readExponent h
  · exact ranged_of_readExponent h
  · cases h
    exact ranged_ofInteger hfits

theorem digitValue_le_maxNatural {c : Char} (hc : Text.isAsciiDigit c = true) :
    Text.digitValue c ≤ maxNatural := by
  have hle : c.toNat ≤ '9'.toNat := by
    rw [Text.isAsciiDigit, Bool.and_eq_true, decide_eq_true_eq, decide_eq_true_eq] at hc
    exact hc.2
  have hnine : '9'.toNat ≤ maxNatural := by decide
  rw [Text.digitValue]
  omega

theorem ranged_of_readNumber {negative : Bool} {cs rest : List Char} {n : Number}
    (h : readNumber negative cs = .ok (n, rest)) : n.Ranged := by
  cases cs with
  | nil => cases h
  | cons c more =>
      simp only [readNumber] at h
      split at h
      · split at h
        · cases h
        · exact ranged_of_readTail h (Nat.zero_le maxNatural)
      · split at h
        · next hc =>
            have hgrown : (gather (Text.digitValue c) 0 more).1 ≤ maxNatural :=
              gather_le rfl (digitValue_le_maxNatural hc)
            split at h
            · split at h
              · exact ranged_of_readFraction h
              · exact ranged_of_readScale h
            · exact ranged_of_readTail h hgrown
        · cases h

/-- Every number that is read is in range. -/
theorem ranged_of_readSigned {cs rest : List Char} {n : Number}
    (h : readSigned cs = .ok (n, rest)) : n.Ranged := by
  unfold readSigned at h
  split at h
  · exact ranged_of_readNumber h
  · exact ranged_of_readNumber h

end Json
end FormulaMap
