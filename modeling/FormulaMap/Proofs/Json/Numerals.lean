import FormulaMap.Json.Skip
import FormulaMap.Proofs.Json.Progress
import FormulaMap.Proofs.Json.WrittenIntegers
import FormulaMap.Proofs.Text.Trimming

/-!
# Numerals

The text of a number that is read is also passed over, however its digits are gathered, and what is
passed over has the form of a numeral: a minus or none, an integer part without zeros in front, and
a fraction and an exponent or none.  So whatever is read as a number has that form.
-/

namespace FormulaMap
namespace Json

/-! ## Numbers that are read are passed over -/

theorem passDigits_append_of_digits {front : List Char}
    (h : ∀ d ∈ front, Text.isAsciiDigit d = true) (rest : List Char) :
    (passDigits (front ++ rest)).2 = (passDigits rest).2 :=
  List.dropWhile_append_of_pos h

theorem passDigits_cons {c : Char} (hc : Text.isAsciiDigit c = true) (rest : List Char) :
    (passDigits (c :: rest)).2 = (passDigits rest).2 :=
  @passDigits_append_of_digits [c] (by simpa using hc) rest

theorem passDigits_of_not_startsWithDigit {cs : List Char} (h : startsWithDigit cs = false) :
    (passDigits cs).2 = cs := by
  cases cs with
  | nil => rfl
  | cons c more =>
      rw [startsWithDigit] at h
      simp [passDigits, h]

/-- Gathering takes digits off the front of a text. -/
theorem exists_front_of_gather {significand taken grown count : Nat} {cs rest : List Char}
    (h : gather significand taken cs = (grown, count, rest)) :
    ∃ front, cs = front ++ rest ∧ count = taken + front.length ∧
      ∀ d ∈ front, Text.isAsciiDigit d = true := by
  induction cs generalizing significand taken with
  | nil =>
      cases h
      exact ⟨[], rfl, rfl, nofun⟩
  | cons c more ih =>
      simp only [gather] at h
      split at h
      · next hc =>
          rw [Bool.and_eq_true] at hc
          obtain ⟨front, rfl, hcount, hfront⟩ := ih h
          refine ⟨c :: front, rfl, ?_, List.forall_mem_cons.mpr ⟨hc.1, hfront⟩⟩
          rw [hcount, List.length_cons]
          omega
      · cases h
        exact ⟨[], rfl, rfl, nofun⟩

theorem passDigits_of_gather {significand taken grown count : Nat} {cs rest : List Char}
    (h : gather significand taken cs = (grown, count, rest)) :
    (passDigits rest).2 = (passDigits cs).2 := by
  obtain ⟨front, rfl, -, hfront⟩ := exists_front_of_gather h
  exact (passDigits_append_of_digits hfront rest).symm

/-- Digits are found behind a point if some were gathered or if one was too much to gather. -/
theorem startsWithDigit_of_gather {significand grown count : Nat} {cs rest : List Char}
    (h : gather significand 0 cs = (grown, count, rest))
    (hdigit : startsWithDigit rest = true ∨ count ≠ 0) : startsWithDigit cs = true := by
  obtain ⟨front, rfl, hcount, hfront⟩ := exists_front_of_gather h
  cases front with
  | nil =>
      rcases hdigit with hrest | htaken
      · exact hrest
      · exact absurd hcount htaken
  | cons d more => exact hfront d List.mem_cons_self

theorem passDigits_of_gatherExponent {exponent : Nat} {found : Option Nat} {cs rest : List Char}
    (h : gatherExponent exponent cs = (found, rest)) :
    (passDigits rest).2 = (passDigits cs).2 ∧ (found.isSome → startsWithDigit rest = false) := by
  induction cs generalizing exponent with
  | nil =>
      cases h
      exact ⟨rfl, fun _ => rfl⟩
  | cons c more ih =>
      simp only [gatherExponent] at h
      split at h
      · next hc =>
          rw [passDigits_cons hc]
          split at h
          · exact ih h
          · cases h
            exact ⟨rfl, fun hsome => absurd hsome Bool.false_ne_true⟩
      · next hc =>
          cases h
          exact ⟨rfl, fun _ => by simpa [startsWithDigit] using hc⟩

variable {negative : Bool} {significand : Nat} {exponent : Int} {cs rest : List Char} {n : Number}

theorem passDigits_of_readExponentDigits {down : Bool}
    (h : readExponentDigits negative significand exponent down cs = .ok (n, rest)) :
    startsWithDigit cs = true ∧ (passDigits cs).2 = rest := by
  cases cs with
  | nil => cases h
  | cons c more =>
      rw [readExponentDigits] at h
      split at h
      · next hc =>
          refine ⟨hc, ?_⟩
          rw [passDigits_cons hc]
          split at h
          · next power left hgather =>
              obtain ⟨hleft, hstop⟩ := passDigits_of_gatherExponent hgather
              rw [eq_of_finishNumber h, ← hleft, passDigits_of_not_startsWithDigit (hstop rfl)]
          · next left hgather =>
              obtain ⟨hleft, -⟩ := passDigits_of_gatherExponent hgather
              split at h
              · cases h
              · cases h
                exact hleft.symm
      · cases h

theorem passExponent_of_readExponent
    (h : readExponent negative significand exponent cs = .ok (n, rest)) :
    passExponent cs = .ok rest := by
  have hdigits : ∃ down digits,
      passExponent cs = (if startsWithDigit digits then .ok (passDigits digits).2
        else .error (.next .invalidNumber digits)) ∧
      readExponent negative significand exponent cs =
        readExponentDigits negative significand exponent down digits := by
    unfold passExponent
    split
    · exact ⟨false, _, rfl, rfl⟩
    · exact ⟨true, _, rfl, rfl⟩
    · next hplus hminus =>
        refine ⟨false, cs, rfl, ?_⟩
        rw [readExponent.eq_def]
        split
        next down digits hsign =>
          split at hsign
          · exact absurd rfl (hplus _)
          · exact absurd rfl (hminus _)
          · cases hsign
            rfl
  obtain ⟨down, digits, hpass, hread⟩ := hdigits
  rw [hread] at h
  obtain ⟨hstart, hrest⟩ := passDigits_of_readExponentDigits h
  rw [hpass, if_pos hstart, hrest]

theorem passScale_of_readScale
    (h : readScale negative significand exponent cs = .ok (n, rest)) :
    passScale cs = .ok rest := by
  unfold readScale at h
  split at h
  · exact passExponent_of_readExponent h
  · exact passExponent_of_readExponent h
  · next hlower hupper =>
      rw [eq_of_finishNumber h]
      unfold passScale
      split
      · exact absurd rfl (hlower _)
      · exact absurd rfl (hupper _)
      · rfl

theorem passScale_of_readFraction
    (h : readFraction negative significand exponent cs = .ok (n, rest)) :
    startsWithDigit cs = true ∧ passScale (passDigits cs).2 = .ok rest := by
  obtain ⟨grown, count, left, hgather⟩ : ∃ grown count left,
      gather significand 0 cs = (grown, count, left) := ⟨_, _, _, rfl⟩
  simp only [readFraction, hgather] at h
  rw [← passDigits_of_gather hgather]
  split at h
  · next hleft =>
      exact ⟨startsWithDigit_of_gather hgather (.inl hleft), passScale_of_readScale h⟩
  · next hleft =>
      split at h
      · cases h
      · next hcount =>
          refine ⟨startsWithDigit_of_gather hgather (.inr hcount), ?_⟩
          rw [passDigits_of_not_startsWithDigit (by simpa using hleft)]
          exact passScale_of_readScale h

/-- Passes over what may follow the integer part of a number. -/
def passTail : List Char → Except Fault (List Char)
  | '.' :: rest =>
    if startsWithDigit rest then passScale (passDigits rest).2
    else .error (.next .invalidNumber rest)
  | rest => passScale rest

theorem passTail_of_readFraction
    (h : readFraction negative significand exponent cs = .ok (n, rest)) :
    passTail ('.' :: cs) = .ok rest := by
  obtain ⟨hstart, hscale⟩ := passScale_of_readFraction h
  rw [passTail, if_pos hstart, hscale]

theorem passTail_of_readTail (h : readTail negative significand cs = .ok (n, rest)) :
    passTail cs = .ok rest := by
  unfold readTail at h
  split at h
  · exact passTail_of_readFraction h
  · exact passExponent_of_readExponent h
  · exact passExponent_of_readExponent h
  · next hpoint hlower hupper =>
      cases h
      unfold passTail
      split
      · exact absurd rfl (hpoint _)
      · unfold passScale
        split
        · exact absurd rfl (hlower _)
        · exact absurd rfl (hupper _)
        · rfl

theorem passTail_of_readLongTail {more : Nat}
    (h : readLongTail negative significand more cs = .ok (n, rest)) : passTail cs = .ok rest := by
  unfold readLongTail at h
  split at h
  · exact passTail_of_readFraction h
  · next hpoint =>
      unfold passTail
      split
      · exact absurd rfl (hpoint _)
      · exact passScale_of_readScale h

theorem passNumber_of_startsWithDigit {c : Char} {more : List Char}
    (hc : Text.isAsciiDigit c = true) :
    passNumber (c :: more) =
      if c = '0' then
        if startsWithDigit more then .error (.next .invalidNumber more) else passTail more
      else passTail (passDigits more).2 := by
  rw [passNumber, startsWithDigit, if_pos hc, passDigits_cons hc]
  by_cases hzero : c = '0'
  · subst hzero
    rfl
  · have hhead : ((c :: more).head? == some '0') = false := by simpa using hzero
    rw [hhead, if_neg hzero]
    rfl

theorem passNumber_of_readNumber (h : readNumber negative cs = .ok (n, rest)) :
    passNumber cs = .ok rest := by
  cases cs with
  | nil => cases h
  | cons c more =>
      simp only [readNumber, beq_iff_eq] at h
      split at h
      · next hzero =>
          split at h
          · cases h
          · next hmore =>
              subst hzero
              rw [passNumber_of_startsWithDigit (by decide), if_pos rfl, if_neg hmore]
              exact passTail_of_readTail h
      · next hzero =>
          split at h
          · next hdigit =>
              rw [passNumber_of_startsWithDigit hdigit, if_neg hzero]
              obtain ⟨grown, count, left, hgather⟩ : ∃ grown count left,
                  gather (Text.digitValue c) 0 more = (grown, count, left) := ⟨_, _, _, rfl⟩
              simp only [hgather] at h
              rw [← passDigits_of_gather hgather]
              split at h
              · exact passTail_of_readLongTail h
              · next hleft =>
                  rw [passDigits_of_not_startsWithDigit (by simpa using hleft)]
                  exact passTail_of_readTail h
          · cases h

/-! ## What is passed over is a numeral -/

/-- A run of digits. -/
def IsDigits (cs : List Char) : Prop := cs ≠ [] ∧ ∀ d ∈ cs, Text.isAsciiDigit d = true

/-- The integer part of a numeral has no zeros in front. -/
def IsWhole (cs : List Char) : Prop := cs = ['0'] ∨ IsDigits cs ∧ cs.head? ≠ some '0'

/-- A fraction, or none. -/
def IsFraction (cs : List Char) : Prop := cs = [] ∨ ∃ ds, IsDigits ds ∧ cs = '.' :: ds

/-- An exponent, or none. -/
def IsExponent (cs : List Char) : Prop :=
  cs = [] ∨ ∃ letter sign ds, (letter = 'e' ∨ letter = 'E') ∧
    (sign = [] ∨ sign = ['+'] ∨ sign = ['-']) ∧ IsDigits ds ∧ cs = letter :: (sign ++ ds)

/-- A numeral without a sign. -/
def IsUnsigned (cs : List Char) : Prop :=
  ∃ whole fraction exponent, IsWhole whole ∧ IsFraction fraction ∧ IsExponent exponent ∧
    cs = whole ++ (fraction ++ exponent)

/-- A numeral. -/
def IsNumeral (cs : List Char) : Prop :=
  ∃ sign unsigned, (sign = [] ∨ sign = ['-']) ∧ IsUnsigned unsigned ∧ cs = sign ++ unsigned

theorem exists_digits_of_passDigits (h : startsWithDigit cs = true) :
    ∃ ds, IsDigits ds ∧ cs = ds ++ (passDigits cs).2 := by
  refine ⟨cs.takeWhile Text.isAsciiDigit, ⟨?_, fun d hd => List.mem_takeWhile_imp hd⟩,
    List.takeWhile_append_dropWhile.symm⟩
  cases cs with
  | nil => cases h
  | cons c more =>
      rw [startsWithDigit] at h
      simp [h]

theorem exists_exponent_of_passScale (h : passScale cs = .ok rest) :
    ∃ exponent, IsExponent exponent ∧ cs = exponent ++ rest := by
  have hletter : ∀ {letter : Char} {more : List Char}, letter = 'e' ∨ letter = 'E' →
      passExponent more = .ok rest → ∃ exponent, IsExponent exponent ∧
        letter :: more = exponent ++ rest := by
    intro letter more hletter hmore
    have hsign : ∃ sign digits, (sign = [] ∨ sign = ['+'] ∨ sign = ['-']) ∧
        more = sign ++ digits ∧ (if startsWithDigit digits then Except.ok (passDigits digits).2
          else Except.error (Fault.next .invalidNumber digits)) = Except.ok rest := by
      unfold passExponent at hmore
      split at hmore
      · exact ⟨['+'], _, .inr (.inl rfl), rfl, hmore⟩
      · exact ⟨['-'], _, .inr (.inr rfl), rfl, hmore⟩
      · exact ⟨[], more, .inl rfl, rfl, hmore⟩
    obtain ⟨sign, digits, hsign, rfl, hdigits⟩ := hsign
    split at hdigits
    · next hstart =>
        cases hdigits
        obtain ⟨ds, hds, heq⟩ := exists_digits_of_passDigits hstart
        refine ⟨letter :: (sign ++ ds), .inr ⟨letter, sign, ds, hletter, hsign, hds, rfl⟩, ?_⟩
        rw [List.cons_append, List.append_assoc, ← heq]
    · cases hdigits
  unfold passScale at h
  split at h
  · exact hletter (.inl rfl) h
  · exact hletter (.inr rfl) h
  · cases h
    exact ⟨[], .inl rfl, rfl⟩

theorem exists_parts_of_passTail (h : passTail cs = .ok rest) :
    ∃ fraction exponent, IsFraction fraction ∧ IsExponent exponent ∧
      cs = fraction ++ exponent ++ rest := by
  unfold passTail at h
  split at h
  · split at h
    · next more hstart =>
        obtain ⟨ds, hds, heq⟩ := exists_digits_of_passDigits hstart
        obtain ⟨exponent, hexponent, hbehind⟩ := exists_exponent_of_passScale h
        refine ⟨'.' :: ds, exponent, .inr ⟨ds, hds, rfl⟩, hexponent, ?_⟩
        rw [List.cons_append, List.cons_append, List.append_assoc, ← hbehind, ← heq]
    · cases h
  · obtain ⟨exponent, hexponent, hbehind⟩ := exists_exponent_of_passScale h
    exact ⟨[], exponent, .inl rfl, hexponent, hbehind⟩

theorem exists_unsigned_of_passNumber (h : passNumber cs = .ok rest) :
    ∃ unsigned, IsUnsigned unsigned ∧ cs = unsigned ++ rest := by
  have hwhole : ∀ whole tail, IsWhole whole → passTail tail = .ok rest →
      ∃ unsigned, IsUnsigned unsigned ∧ whole ++ tail = unsigned ++ rest := by
    intro whole tail hwhole htail
    obtain ⟨fraction, exponent, hfraction, hexponent, rfl⟩ := exists_parts_of_passTail htail
    exact ⟨_, ⟨whole, fraction, exponent, hwhole, hfraction, hexponent, rfl⟩, by simp⟩
  cases cs with
  | nil => cases h
  | cons c more =>
      by_cases hc : Text.isAsciiDigit c = true
      · rw [passNumber_of_startsWithDigit hc] at h
        split at h
        · next hzero =>
            subst hzero
            split at h
            · cases h
            · exact hwhole ['0'] more (.inl rfl) h
        · next hzero =>
            have hdigits : IsDigits (c :: more.takeWhile Text.isAsciiDigit) :=
              ⟨List.cons_ne_nil _ _, List.forall_mem_cons.mpr
                ⟨hc, fun d hd => List.mem_takeWhile_imp hd⟩⟩
            obtain ⟨unsigned, hunsigned, heq⟩ :=
              hwhole _ _ (.inr ⟨hdigits, by simpa using hzero⟩) h
            refine ⟨unsigned, hunsigned, ?_⟩
            rw [← heq, List.cons_append]
            exact congrArg _ List.takeWhile_append_dropWhile.symm
      · rw [passNumber, startsWithDigit, if_neg hc] at h
        cases h

/-- What is read as a number is a numeral. -/
theorem exists_numeral_of_readSigned (h : readSigned cs = .ok (n, rest)) :
    ∃ numeral, IsNumeral numeral ∧ cs = numeral ++ rest := by
  unfold readSigned at h
  split at h
  · obtain ⟨unsigned, hunsigned, rfl⟩ :=
      exists_unsigned_of_passNumber (passNumber_of_readNumber h)
    exact ⟨'-' :: unsigned, ⟨['-'], unsigned, .inr rfl, hunsigned, rfl⟩, rfl⟩
  · obtain ⟨unsigned, hunsigned, rfl⟩ :=
      exists_unsigned_of_passNumber (passNumber_of_readNumber h)
    exact ⟨unsigned, ⟨[], unsigned, .inl rfl, hunsigned, rfl⟩, rfl⟩

theorem isNumeral_of_numberOf? (h : numberOf? cs = some n) : IsNumeral cs := by
  obtain ⟨numeral, hnumeral, rfl⟩ := exists_numeral_of_readSigned (numberOf?_eq_some.mp h)
  rwa [List.append_nil]

/-! ## How a numeral begins and ends -/

/-- Whether a text ends with a digit. -/
def EndsInDigit (cs : List Char) : Prop := ∃ d ∈ cs.getLast?, Text.isAsciiDigit d = true

theorem IsDigits.endsInDigit {cs : List Char} (h : IsDigits cs) : EndsInDigit cs :=
  ⟨cs.getLast h.1, List.getLast?_eq_getLast_of_ne_nil h.1, h.2 _ (List.getLast_mem h.1)⟩

theorem EndsInDigit.append {cs : List Char} (h : EndsInDigit cs) (front : List Char) :
    EndsInDigit (front ++ cs) := by
  obtain ⟨d, hd, hdigit⟩ := h
  refine ⟨d, ?_, hdigit⟩
  rw [Option.mem_def] at hd ⊢
  rw [List.getLast?_append, hd, Option.some_or]

theorem EndsInDigit.append_or_nil {front cs : List Char} (hfront : EndsInDigit front)
    (hcs : cs = [] ∨ EndsInDigit cs) : EndsInDigit (front ++ cs) := by
  rcases hcs with rfl | hcs
  · rwa [List.append_nil]
  · exact hcs.append front

theorem IsFraction.endsInDigit {cs : List Char} (h : IsFraction cs) :
    cs = [] ∨ EndsInDigit cs := by
  obtain rfl | ⟨ds, hds, rfl⟩ := h
  · exact .inl rfl
  · exact .inr (hds.endsInDigit.append ['.'])

theorem IsExponent.endsInDigit {cs : List Char} (h : IsExponent cs) :
    cs = [] ∨ EndsInDigit cs := by
  obtain rfl | ⟨letter, sign, ds, -, -, hds, rfl⟩ := h
  · exact .inl rfl
  · exact .inr (hds.endsInDigit.append (letter :: sign))

theorem IsWhole.isDigits {cs : List Char} (h : IsWhole cs) : IsDigits cs := by
  rcases h with rfl | ⟨hdigits, -⟩
  · exact ⟨List.cons_ne_nil _ _, List.forall_mem_singleton.mpr rfl⟩
  · exact hdigits

theorem IsNumeral.endsInDigit {cs : List Char} (h : IsNumeral cs) : EndsInDigit cs := by
  obtain ⟨sign, _, -, ⟨whole, fraction, exponent, hwhole, hfraction, hexponent, rfl⟩, rfl⟩ := h
  have hend := (hwhole.isDigits.endsInDigit.append_or_nil hfraction.endsInDigit).append_or_nil
    hexponent.endsInDigit
  rw [List.append_assoc] at hend
  exact hend.append sign

/-- Whether a character can stand in a numeral. -/
def isNumeralChar (c : Char) : Bool :=
  Text.isAsciiDigit c || ['-', '+', '.', 'e', 'E'].contains c

theorem isNumeralChar_of_isAsciiDigit {c : Char} (h : Text.isAsciiDigit c = true) :
    isNumeralChar c = true := by
  rw [isNumeralChar, h, Bool.true_or]

theorem IsNumeral.isNumeralChar {cs : List Char} (h : IsNumeral cs) :
    ∀ c ∈ cs, isNumeralChar c = true := by
  have hdigits : ∀ {ds : List Char}, IsDigits ds → ∀ d ∈ ds, Json.isNumeralChar d = true :=
    fun h d hd => isNumeralChar_of_isAsciiDigit (h.2 d hd)
  obtain ⟨sign, _, hsign, ⟨whole, fraction, exponent, hwhole, hfraction, hexponent, rfl⟩, rfl⟩ := h
  simp only [List.forall_mem_append]
  refine ⟨?_, hdigits hwhole.isDigits, ?_, ?_⟩
  · rcases hsign with rfl | rfl
    · exact List.forall_mem_nil _
    · exact List.forall_mem_singleton.mpr rfl
  · obtain rfl | ⟨ds, hds, rfl⟩ := hfraction
    · exact List.forall_mem_nil _
    · exact List.forall_mem_cons.mpr ⟨by decide, hdigits hds⟩
  · obtain rfl | ⟨letter, plus, ds, hletter, hplus, hds, rfl⟩ := hexponent
    · exact List.forall_mem_nil _
    · refine List.forall_mem_cons.mpr ⟨?_, List.forall_mem_append.mpr ⟨?_, hdigits hds⟩⟩
      · rcases hletter with rfl | rfl
        · decide
        · decide
      · rcases hplus with rfl | rfl | rfl
        · exact List.forall_mem_nil _
        · exact List.forall_mem_singleton.mpr rfl
        · exact List.forall_mem_singleton.mpr rfl

theorem IsNumeral.exists_head {cs : List Char} (h : IsNumeral cs) :
    ∃ c ∈ cs.head?, c = '-' ∨ Text.isAsciiDigit c = true := by
  obtain ⟨sign, _, rfl | rfl, ⟨whole, fraction, exponent, hwhole, -, -, rfl⟩, rfl⟩ := h
  · obtain ⟨hne, hdigits⟩ := hwhole.isDigits
    obtain ⟨d, more, rfl⟩ := List.exists_cons_of_ne_nil hne
    exact ⟨d, rfl, .inr (hdigits d List.mem_cons_self)⟩
  · exact ⟨'-', rfl, .inl rfl⟩

theorem not_isBlank_of_isAsciiDigit {c : Char} (h : Text.isAsciiDigit c = true) :
    Text.isBlank c = false := by
  rw [Text.isAsciiDigit, Bool.and_eq_true, decide_eq_true_eq, decide_eq_true_eq] at h
  have hlow : 48 ≤ c.toNat := h.1
  have hhigh : c.toNat ≤ 57 := h.2
  simp only [Text.isBlank, Bool.or_eq_false_iff, Bool.and_eq_false_iff, decide_eq_false_iff_not,
    beq_eq_false_iff_ne]
  omega

/-- A numeral is not changed by trimming. -/
theorem IsNumeral.solid {cs : List Char} (h : IsNumeral cs) : Text.Solid cs := by
  constructor
  · obtain ⟨c, hc, rfl | hdigit⟩ := h.exists_head
    · exact ⟨'-', hc, by decide⟩
    · exact ⟨c, hc, not_isBlank_of_isAsciiDigit hdigit⟩
  · obtain ⟨d, hd, hdigit⟩ := h.endsInDigit
    exact ⟨d, hd, not_isBlank_of_isAsciiDigit hdigit⟩

end Json
end FormulaMap
