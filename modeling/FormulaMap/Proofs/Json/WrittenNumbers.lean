import FormulaMap.Json.Reader
import Mathlib.Data.List.Basic

/-!
# Written numbers are read back

A number that is read from a text on its own is read from the front of a longer text just as well,
as long as what follows cannot belong to a number.  Integers of 64 bits are always read back from
their digits; of floating-point numbers that is not claimed here.
-/

namespace FormulaMap
namespace Json

/-- A text that cannot go on a number. -/
def EndsNumber (rest : List Char) : Prop :=
  ∀ c ∈ rest.head?, Text.isAsciiDigit c = false ∧ c ≠ '.' ∧ c ≠ 'e' ∧ c ≠ 'E'

theorem endsNumber_cons {c : Char} {rest : List Char} (hdigit : Text.isAsciiDigit c = false)
    (hpoint : c ≠ '.') (hlower : c ≠ 'e') (hupper : c ≠ 'E') : EndsNumber (c :: rest) := by
  intro d hd
  rw [List.head?_cons, Option.mem_some] at hd
  subst hd
  exact ⟨hdigit, hpoint, hlower, hupper⟩

/-! ## Text behind a number

In each lemma `rest` is what the reader leaves of the shorter text.  It may only be empty if the
text behind cannot go on the number. -/

section Behind

variable {behind : List Char}

theorem startsWithDigit_append {rest : List Char} (hbehind : rest = [] → EndsNumber behind) :
    startsWithDigit (rest ++ behind) = startsWithDigit rest := by
  cases rest with
  | cons c more => rfl
  | nil =>
      cases behind with
      | nil => rfl
      | cons c more => exact (hbehind rfl c rfl).1

theorem passDigits_append {cs : List Char} (hbehind : (passDigits cs).2 = [] → EndsNumber behind) :
    passDigits (cs ++ behind) = ((passDigits cs).1, (passDigits cs).2 ++ behind) := by
  induction cs with
  | nil =>
      cases behind with
      | nil => rfl
      | cons c more =>
          have hdigit : Text.isAsciiDigit c = false := (hbehind rfl c rfl).1
          simp [passDigits, hdigit]
  | cons c more ih =>
      by_cases hdigit : Text.isAsciiDigit c = true
      · have hmore : (passDigits more).2 = [] → EndsNumber behind := by
          intro hnil
          apply hbehind
          simpa [passDigits, hdigit] using hnil
        have hkey := ih hmore
        simp only [passDigits, Prod.mk.injEq] at hkey
        simp [passDigits, hdigit, hkey.1, hkey.2]
      · simp [passDigits, hdigit]

theorem gather_append {cs rest : List Char} {significand taken grown count : Nat}
    (h : gather significand taken cs = (grown, count, rest))
    (hbehind : rest = [] → EndsNumber behind) :
    gather significand taken (cs ++ behind) = (grown, count, rest ++ behind) := by
  induction cs generalizing significand taken with
  | nil =>
      cases h
      cases behind with
      | nil => rfl
      | cons c more =>
          have hdigit : Text.isAsciiDigit c = false := (hbehind rfl c rfl).1
          simp [gather, hdigit]
  | cons c more ih =>
      rw [List.cons_append]
      unfold gather at h ⊢
      simp only at h ⊢
      split at h
      · next hfits => rw [if_pos hfits, ih h]
      · next hfits =>
          cases h
          rw [if_neg hfits]
          rfl

theorem gatherExponent_append {cs rest : List Char} {exponent : Nat} {found : Option Nat}
    (h : gatherExponent exponent cs = (found, rest)) (hbehind : rest = [] → EndsNumber behind) :
    gatherExponent exponent (cs ++ behind) = (found, rest ++ behind) := by
  induction cs generalizing exponent with
  | nil =>
      cases h
      cases behind with
      | nil => rfl
      | cons c more =>
          have hdigit : Text.isAsciiDigit c = false := (hbehind rfl c rfl).1
          simp [gatherExponent, hdigit]
  | cons c more ih =>
      rw [List.cons_append]
      unfold gatherExponent at h ⊢
      simp only at h ⊢
      split at h
      · next hdigit =>
          rw [if_pos hdigit]
          split at h
          · next hfits => rw [if_pos hfits, ih h]
          · next hfits =>
              cases h
              rw [if_neg hfits]
      · next hdigit =>
          cases h
          rw [if_neg hdigit]
          rfl

theorem finishNumber_append {negative : Bool} {significand : Nat} {exponent : Int}
    {cs rest : List Char} {n : Number}
    (h : finishNumber negative significand exponent cs = .ok (n, rest)) :
    finishNumber negative significand exponent (cs ++ behind) = .ok (n, rest ++ behind) := by
  rw [finishNumber] at h ⊢
  cases hparts : ofParts negative significand exponent with
  | none =>
      rw [hparts] at h
      cases h
  | some found =>
      rw [hparts] at h
      cases h
      rfl

/-- The digits of an exponent behind its sign. -/
def readExponentDigits (negative : Bool) (significand : Nat) (start : Int) (down : Bool) :
    List Char → Except Fault (Number × List Char)
  | [] => .error (.here .endInValue [])
  | c :: rest =>
    if Text.isAsciiDigit c then
      match gatherExponent (Text.digitValue c) rest with
      | (some n, rest) =>
        finishNumber negative significand (if down then start - n else start + n) rest
      | (none, rest) =>
        if significand ≠ 0 ∧ !down then .error (.here .numberOutOfRange rest)
        else .ok (.floating Binary.double (.zero Binary.double negative), (passDigits rest).2)
    else .error (.next .invalidNumber (c :: rest))

theorem readExponentDigits_append {negative down : Bool} {significand : Nat} {start : Int}
    {cs rest : List Char} {n : Number}
    (h : readExponentDigits negative significand start down cs = .ok (n, rest))
    (hbehind : rest = [] → EndsNumber behind) :
    readExponentDigits negative significand start down (cs ++ behind) =
      .ok (n, rest ++ behind) := by
  cases cs with
  | nil => cases h
  | cons c more =>
      rw [List.cons_append]
      simp only [readExponentDigits] at h ⊢
      by_cases hdigit : Text.isAsciiDigit c = true
      · rw [if_pos hdigit] at h ⊢
        cases hgather : gatherExponent (Text.digitValue c) more with
        | mk found left =>
            rw [hgather] at h
            cases found with
            | some power =>
                have hrest : left = rest := by
                  simp only [finishNumber] at h
                  split at h
                  · cases h
                    rfl
                  · cases h
                subst hrest
                rw [gatherExponent_append hgather hbehind]
                exact finishNumber_append h
            | none =>
                simp only at h
                by_cases hlarge : significand ≠ 0 ∧ (!down) = true
                · rw [if_pos hlarge] at h
                  cases h
                · rw [if_neg hlarge] at h
                  cases h
                  have hleft : left = [] → EndsNumber behind := by
                    rintro rfl
                    exact hbehind rfl
                  rw [gatherExponent_append hgather hleft]
                  simp only
                  rw [if_neg hlarge, passDigits_append hbehind]
      · rw [if_neg hdigit] at h
        cases h

theorem readExponent_append {negative : Bool} {significand : Nat} {start : Int}
    {cs rest : List Char} {n : Number}
    (h : readExponent negative significand start cs = .ok (n, rest))
    (hbehind : rest = [] → EndsNumber behind) :
    readExponent negative significand start (cs ++ behind) = .ok (n, rest ++ behind) := by
  cases cs with
  | nil => cases h
  | cons c more =>
      by_cases hplus : c = '+'
      · subst hplus
        exact readExponentDigits_append h hbehind
      · by_cases hminus : c = '-'
        · subst hminus
          exact readExponentDigits_append h hbehind
        · have hsign : ∀ cs, readExponent negative significand start (c :: cs) =
              readExponentDigits negative significand start false (c :: cs) := by
            intro cs
            unfold readExponent
            split
            next down digits hsplit =>
              split at hsplit
              · next heq => exact absurd (List.cons.inj heq).1 hplus
              · next heq => exact absurd (List.cons.inj heq).1 hminus
              · cases hsplit
                rfl
          rw [hsign] at h
          rw [List.cons_append, hsign]
          exact readExponentDigits_append h hbehind

theorem readScale_other {negative : Bool} {significand : Nat} {exponent : Int} {cs : List Char}
    (hcs : ∀ c ∈ cs.head?, c ≠ 'e' ∧ c ≠ 'E') :
    readScale negative significand exponent cs =
      finishNumber negative significand exponent cs := by
  unfold readScale
  split
  · exact absurd rfl (hcs _ rfl).1
  · exact absurd rfl (hcs _ rfl).2
  · rfl

theorem eq_nil_of_readScale_nil {negative : Bool} {significand : Nat} {exponent : Int}
    {rest : List Char} {n : Number}
    (h : readScale negative significand exponent [] = .ok (n, rest)) : rest = [] := by
  rw [readScale_other (by simp)] at h
  simp only [finishNumber] at h
  split at h
  · cases h
    rfl
  · cases h

theorem readScale_append {negative : Bool} {significand : Nat} {exponent : Int}
    {cs rest : List Char} {n : Number}
    (h : readScale negative significand exponent cs = .ok (n, rest))
    (hbehind : rest = [] → EndsNumber behind) :
    readScale negative significand exponent (cs ++ behind) = .ok (n, rest ++ behind) := by
  cases cs with
  | nil =>
      have hrest : rest = [] := eq_nil_of_readScale_nil h
      have hother : ∀ c ∈ behind.head?, c ≠ 'e' ∧ c ≠ 'E' :=
        fun c hc => (hbehind hrest c hc).2.2
      rw [readScale_other (by simp)] at h
      rw [List.nil_append, readScale_other hother]
      exact finishNumber_append h
  | cons c more =>
      by_cases hlower : c = 'e'
      · subst hlower
        exact readExponent_append h hbehind
      · by_cases hupper : c = 'E'
        · subst hupper
          exact readExponent_append h hbehind
        · have hother : ∀ cs, readScale negative significand exponent (c :: cs) =
              finishNumber negative significand exponent (c :: cs) := by
            intro cs
            apply readScale_other
            simp [hlower, hupper]
          rw [hother] at h
          rw [List.cons_append, hother]
          exact finishNumber_append h

theorem readFraction_append {negative : Bool} {significand : Nat} {exponent : Int}
    {cs rest : List Char} {n : Number}
    (h : readFraction negative significand exponent cs = .ok (n, rest))
    (hbehind : rest = [] → EndsNumber behind) :
    readFraction negative significand exponent (cs ++ behind) = .ok (n, rest ++ behind) := by
  cases hgather : gather significand 0 cs with
  | mk grown p =>
      obtain ⟨taken, left⟩ := p
      simp only [readFraction, hgather] at h
      by_cases hdigit : startsWithDigit left = true
      · rw [if_pos hdigit] at h
        have hleft : left = [] → EndsNumber behind := by
          rintro rfl
          cases hdigit
        have hpassed : (passDigits left).2 = [] → EndsNumber behind := by
          intro hnil
          rw [hnil] at h
          exact hbehind (eq_nil_of_readScale_nil h)
        simp only [readFraction, gather_append hgather hleft]
        rw [startsWithDigit_append hleft, if_pos hdigit, passDigits_append hpassed]
        exact readScale_append h hbehind
      · rw [if_neg hdigit] at h
        by_cases htaken : taken = 0
        · rw [if_pos htaken] at h
          cases h
        · rw [if_neg htaken] at h
          have hleft : left = [] → EndsNumber behind := by
            rintro rfl
            exact hbehind (eq_nil_of_readScale_nil h)
          simp only [readFraction, gather_append hgather hleft]
          rw [startsWithDigit_append hleft, if_neg hdigit, if_neg htaken]
          exact readScale_append h hbehind

theorem readTail_other {negative : Bool} {significand : Nat} {cs : List Char}
    (hcs : ∀ c ∈ cs.head?, c ≠ '.' ∧ c ≠ 'e' ∧ c ≠ 'E') :
    readTail negative significand cs = .ok (ofInteger negative significand, cs) := by
  unfold readTail
  split
  · exact absurd rfl (hcs _ rfl).1
  · exact absurd rfl (hcs _ rfl).2.1
  · exact absurd rfl (hcs _ rfl).2.2
  · rfl

theorem EndsNumber.readTail {negative : Bool} {significand : Nat} {cs : List Char}
    (hcs : EndsNumber cs) :
    readTail negative significand cs = .ok (ofInteger negative significand, cs) :=
  readTail_other fun c hc => (hcs c hc).2

theorem readTail_append {negative : Bool} {significand : Nat} {cs rest : List Char} {n : Number}
    (h : readTail negative significand cs = .ok (n, rest))
    (hbehind : rest = [] → EndsNumber behind) :
    readTail negative significand (cs ++ behind) = .ok (n, rest ++ behind) := by
  cases cs with
  | nil =>
      cases h
      exact (hbehind rfl).readTail
  | cons c more =>
      by_cases hpoint : c = '.'
      · subst hpoint
        exact readFraction_append h hbehind
      · by_cases hlower : c = 'e'
        · subst hlower
          exact readExponent_append h hbehind
        · by_cases hupper : c = 'E'
          · subst hupper
            exact readExponent_append h hbehind
          · rw [readTail_other (by simp [hpoint, hlower, hupper])] at h
            cases h
            exact readTail_other (by simp [hpoint, hlower, hupper])

/-- What may follow an integer part that outgrew the significand by `more` digits. -/
def readLongTail (negative : Bool) (significand more : Nat) :
    List Char → Except Fault (Number × List Char)
  | '.' :: rest => readFraction negative significand more rest
  | rest => readScale negative significand more rest

theorem readLongTail_append {negative : Bool} {significand more : Nat} {cs rest : List Char}
    {n : Number} (h : readLongTail negative significand more cs = .ok (n, rest))
    (hbehind : rest = [] → EndsNumber behind) :
    readLongTail negative significand more (cs ++ behind) = .ok (n, rest ++ behind) := by
  have hother : ∀ cs : List Char, (∀ c ∈ cs.head?, c ≠ '.') →
      readLongTail negative significand more cs = readScale negative significand more cs := by
    intro cs hcs
    unfold readLongTail
    split
    · exact absurd rfl (hcs _ rfl)
    · rfl
  cases cs with
  | nil =>
      rw [hother [] (by simp)] at h
      have hrest : rest = [] := eq_nil_of_readScale_nil h
      rw [List.nil_append, hother behind fun c hc => (hbehind hrest c hc).2.1]
      exact readScale_append h hbehind
  | cons c left =>
      by_cases hpoint : c = '.'
      · subst hpoint
        exact readFraction_append h hbehind
      · rw [hother (c :: left) (by simp [hpoint])] at h
        rw [List.cons_append, hother (c :: (left ++ behind)) (by simp [hpoint])]
        exact readScale_append h hbehind

theorem eq_nil_of_readLongTail_nil {negative : Bool} {significand more : Nat} {rest : List Char}
    {n : Number} (h : readLongTail negative significand more [] = .ok (n, rest)) : rest = [] :=
  eq_nil_of_readScale_nil h

theorem readNumber_append {negative : Bool} {cs rest : List Char} {n : Number}
    (h : readNumber negative cs = .ok (n, rest)) (hbehind : rest = [] → EndsNumber behind) :
    readNumber negative (cs ++ behind) = .ok (n, rest ++ behind) := by
  cases cs with
  | nil => cases h
  | cons c more =>
      rw [List.cons_append]
      simp only [readNumber] at h ⊢
      by_cases hzero : (c == '0') = true
      · rw [if_pos hzero] at h ⊢
        by_cases hdigit : startsWithDigit more = true
        · rw [if_pos hdigit] at h
          cases h
        · rw [if_neg hdigit] at h
          have hmore : more = [] → EndsNumber behind := by
            rintro rfl
            cases h
            exact hbehind rfl
          rw [startsWithDigit_append hmore, if_neg hdigit]
          exact readTail_append h hbehind
      · rw [if_neg hzero] at h ⊢
        by_cases hc : Text.isAsciiDigit c = true
        · rw [if_pos hc] at h ⊢
          cases hgather : gather (Text.digitValue c) 0 more with
          | mk grown p =>
              obtain ⟨taken, left⟩ := p
              rw [hgather] at h
              simp only at h
              by_cases hdigit : startsWithDigit left = true
              · rw [if_pos hdigit] at h
                have hleft : left = [] → EndsNumber behind := by
                  rintro rfl
                  cases hdigit
                have hlong : readLongTail negative grown (passDigits left).1
                    (passDigits left).2 = .ok (n, rest) := h
                have hpassed : (passDigits left).2 = [] → EndsNumber behind := by
                  intro hnil
                  rw [hnil] at hlong
                  exact hbehind (eq_nil_of_readLongTail_nil hlong)
                rw [gather_append hgather hleft]
                simp only
                rw [startsWithDigit_append hleft, if_pos hdigit, passDigits_append hpassed]
                exact readLongTail_append hlong hbehind
              · rw [if_neg hdigit] at h
                have hleft : left = [] → EndsNumber behind := by
                  rintro rfl
                  cases h
                  exact hbehind rfl
                rw [gather_append hgather hleft]
                simp only
                rw [startsWithDigit_append hleft, if_neg hdigit]
                exact readTail_append h hbehind
        · rw [if_neg hc] at h
          cases h

/-- A number is read from the front of a longer text as it is on its own. -/
theorem readSigned_append {cs rest : List Char} {n : Number}
    (h : readSigned cs = .ok (n, rest)) (hbehind : rest = [] → EndsNumber behind) :
    readSigned (cs ++ behind) = .ok (n, rest ++ behind) := by
  cases cs with
  | nil => cases h
  | cons c more =>
      by_cases hminus : c = '-'
      · subst hminus
        exact readNumber_append h hbehind
      · have hunsigned : ∀ cs, readSigned (c :: cs) = readNumber false (c :: cs) := by
          intro cs
          unfold readSigned
          split
          · next heq => exact absurd (List.cons.inj heq).1 hminus
          · rfl
        rw [hunsigned] at h
        rw [List.cons_append, hunsigned]
        exact readNumber_append h hbehind

end Behind
end Json
end FormulaMap
