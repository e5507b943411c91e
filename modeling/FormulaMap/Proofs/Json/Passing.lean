import FormulaMap.Proofs.Json.Numerals

/-!
# What is read is passed over

Members that nothing asks for are passed over instead of read.  What can be read can also be passed
over, and both come to the same place: a string goes on through its escapes, also where two of them
make up one character, a number through its digits, and a container through what is inside it.
-/

namespace FormulaMap
namespace Json

/-! ## Strings -/

theorem utf8Size_of_isHexDigit {c : Char} (h : Text.isHexDigit c = true) : c.utf8Size = 1 := by
  simp only [Text.isHexDigit, Text.isAsciiDigit, Bool.or_eq_true, Bool.and_eq_true,
    decide_eq_true_eq] at h
  have hascii : c ≤ 'f' := by
    rcases h with (⟨-, h⟩ | ⟨-, h⟩) | ⟨-, h⟩
    · exact Char.le_trans h (by decide)
    · exact h
    · exact Char.le_trans h (by decide)
  rw [Char.utf8Size_eq_one_iff]
  exact UInt32.le_trans hascii (by decide)

theorem byteLength_eq_length {cs : List Char} (h : ∀ c ∈ cs, Text.isHexDigit c = true) :
    Text.byteLength cs = cs.length := by
  induction cs with
  | nil => rfl
  | cons c more ih =>
      rw [List.forall_mem_cons] at h
      have hmore : Text.byteLength (c :: more) = c.utf8Size + Text.byteLength more := rfl
      rw [hmore, ih h.2, utf8Size_of_isHexDigit h.1, List.length_cons, Nat.add_comm]

/-- Four hexadecimal digits are four characters of the text. -/
theorem exists_four_of_readHex {cs : List Char} {n : Nat} (h : readHex cs = .ok n) :
    ∃ four rest, four.length = 4 ∧ cs = four ++ rest := by
  refine ⟨cs.take 4, cs.drop 4, ?_, (List.take_append_drop 4 cs).symm⟩
  rw [List.length_take]
  by_contra hshort
  have htake : cs.take 4 = cs := List.take_of_length_le (by omega)
  simp only [readHex, htake] at h
  split at h
  · cases h
  · next hbytes =>
      split at h
      · next hdigits =>
          rw [byteLength_eq_length (List.all_eq_true.mp hdigits)] at hbytes
          omega
      · cases h

theorem passString_skip (taken rest : List Char) :
    passString taken.length (taken ++ rest) = passString 0 rest := by
  induction taken with
  | nil => rfl
  | cons c more ih => simpa [passString] using ih

/-- The second half of a pair is an escape of its own. -/
theorem exists_escape_of_readTrailing {lead : Nat} {cs : List Char} {x : Char} {taken : Nat}
    (h : readTrailing lead cs = .ok (x, taken)) :
    taken = 6 ∧ ∃ more, cs = '\\' :: 'u' :: more ∧ ∃ low, readHex more = .ok low := by
  unfold readTrailing at h
  split at h
  · cases h
  · cases h
  · next more =>
      obtain ⟨low, hlow, h⟩ := exists_of_bind_eq_ok h
      split at h
      · cases h
      · rw [Except.ok.injEq, Prod.mk.injEq] at h
        exact ⟨h.2.symm, more, rfl, low, hlow⟩
  · cases h
  · cases h

theorem passEscape_of_readHex {cs : List Char} {n : Nat} (h : readHex cs = .ok n) :
    passEscape ('u' :: cs) = .ok 5 := by
  rw [passEscape, if_pos (by decide), h]
  rfl

/-- A pair of escapes is passed over as two escapes. -/
theorem passString_pair {four more : List Char} (hfour : four.length = 4) {low : Nat}
    (hlow : readHex more = .ok low) :
    passString 5 ('u' :: (four ++ '\\' :: 'u' :: more)) =
      passString 11 ('u' :: (four ++ '\\' :: 'u' :: more)) := by
  obtain ⟨others, rest, hothers, rfl⟩ := exists_four_of_readHex hlow
  have hfirst := passString_skip ('u' :: four) ('\\' :: 'u' :: (others ++ rest))
  have hsecond := passString_skip ('u' :: others) rest
  have hboth := passString_skip ('u' :: (four ++ '\\' :: 'u' :: others)) rest
  simp only [List.length_cons, List.length_append, hfour, hothers, List.cons_append,
    List.append_assoc] at hfirst hsecond hboth
  have hslash : passString 0 ('\\' :: 'u' :: (others ++ rest)) =
      passString 5 ('u' :: (others ++ rest)) := by
    simp only [passString]
    rw [if_neg (by decide), if_pos (by decide), passEscape_of_readHex hlow]
    rfl
  rw [hfirst, hboth, hslash, hsecond]

/-- An escape is passed over, the second half of a pair as an escape of its own. -/
theorem exists_passEscape_of_readEscape {cs : List Char} {x : Char} {taken : Nat}
    (h : readEscape cs = .ok (x, taken)) :
    ∃ first, passEscape cs = .ok first ∧ passString first cs = passString taken cs := by
  unfold readEscape at h
  split at h
  · cases h
  · next c rest =>
      split at h
      iterate 8
        · cases h
          exact ⟨1, rfl, rfl⟩
      · obtain ⟨n, hn, h⟩ := exists_of_bind_eq_ok h
        refine ⟨5, passEscape_of_readHex hn, ?_⟩
        split at h
        · cases h
        · split at h
          · cases h
            rfl
          · obtain ⟨⟨y, more⟩, htrailing, h⟩ := exists_of_bind_eq_ok h
            cases h
            obtain ⟨rfl, behind, hbehind, low, hlow⟩ := exists_escape_of_readTrailing htrailing
            obtain ⟨four, left, hfour, rfl⟩ := exists_four_of_readHex hn
            rw [List.drop_left' hfour] at hbehind
            rw [hbehind]
            exact passString_pair hfour hlow
      · cases h

theorem passString_of_readString {skip : Nat} {cs s rest : List Char}
    (h : readString skip cs = .ok (s, rest)) : passString skip cs = .ok rest := by
  induction cs generalizing skip s with
  | nil => cases h
  | cons c more ih =>
      cases skip with
      | succ skip =>
          rw [readString] at h
          rw [passString]
          exact ih h
      | zero =>
          simp only [readString] at h
          simp only [passString]
          split at h
          · next hquote =>
              cases h
              rw [if_pos hquote]
          · next hquote =>
              rw [if_neg hquote]
              split at h
              · next hslash =>
                  rw [if_pos hslash]
                  obtain ⟨⟨x, taken⟩, hescape, h⟩ := exists_of_bind_eq_ok h
                  obtain ⟨⟨xs, left⟩, hmore, h⟩ := exists_of_bind_eq_ok h
                  cases h
                  obtain ⟨first, hfirst, hsame⟩ := exists_passEscape_of_readEscape hescape
                  rw [hfirst]
                  exact hsame.trans (ih hmore)
              · next hslash =>
                  rw [if_neg hslash]
                  split at h
                  · cases h
                  · next hcontrol =>
                      rw [if_neg hcontrol]
                      obtain ⟨⟨xs, left⟩, hmore, h⟩ := exists_of_bind_eq_ok h
                      cases h
                      exact ih hmore

/-! ## Values -/

theorem skipBlanks_skipBlanks (cs : List Char) : skipBlanks (skipBlanks cs) = skipBlanks cs :=
  List.dropWhile_idempotent _ _

theorem skipBlanks_of_eq_cons {cs rest : List Char} {c : Char} (h : skipBlanks cs = c :: rest) :
    skipBlanks (c :: rest) = c :: rest := by
  rw [← h, skipBlanks_skipBlanks]

theorem passNumber_of_readSigned {c : Char} {more rest : List Char} {n : Number}
    (h : readSigned (c :: more) = .ok (n, rest)) :
    (if c == '-' then passNumber more else passNumber (c :: more)) = .ok rest := by
  unfold readSigned at h
  split at h
  · next heq =>
      obtain ⟨rfl, rfl⟩ := List.cons.inj heq
      exact passNumber_of_readNumber h
  · next hminus =>
      have hsign : ¬(c == '-') = true := by
        rw [beq_iff_eq]
        rintro rfl
        exact hminus _ rfl
      rw [if_neg hsign]
      exact passNumber_of_readNumber h

theorem passValue_of_readSigned {fuel : Nat} {cs more rest : List Char} {c : Char} {n : Number}
    (heq : skipBlanks cs = c :: more) (h : readSigned (c :: more) = .ok (n, rest)) :
    passValue (fuel + 1) cs = .ok rest := by
  obtain ⟨d, others, hcons, hd⟩ := exists_cons_of_readSigned h
  obtain ⟨rfl, rfl⟩ := List.cons.inj hcons
  have hpass := passNumber_of_readSigned h
  rw [passValue, heq]
  simp only
  rw [if_neg (ne_of_starts_number hd rfl), if_neg (ne_of_starts_number hd rfl),
    if_neg (ne_of_starts_number hd rfl)]
  by_cases hminus : (c == '-') = true
  · rw [if_pos hminus] at hpass ⊢
    exact hpass
  · rw [if_neg hminus] at hpass ⊢
    rw [if_pos (hd.resolve_left (by simpa using hminus))]
    exact hpass

theorem passValue_of_readFrom {fuel depth : Nat} {cs more rest : List Char} {c : Char} {v : Value}
    (helements : ∀ depth cs vs rest, readElements fuel depth true cs = .ok (vs, rest) →
      passElements fuel true cs = .ok rest)
    (hmembers : ∀ depth cs ms rest, readMembers fuel depth true cs = .ok (ms, rest) →
      passMembers fuel true cs = .ok rest)
    (heq : skipBlanks cs = c :: more) (h : ReadFrom fuel depth c more v rest) :
    passValue (fuel + 1) cs = .ok rest := by
  cases h with
  | null h =>
      rw [passValue, heq]
      exact h
  | yes h =>
      rw [passValue, heq]
      exact h
  | no h =>
      rw [passValue, heq]
      exact h
  | number h => exact passValue_of_readSigned heq h
  | string h =>
      rw [passValue, heq]
      exact passString_of_readString h
  | array _ h =>
      rw [passValue, heq]
      exact helements _ _ _ _ h
  | object _ h =>
      rw [passValue, heq]
      exact hmembers _ _ _ _ h

theorem passValue_of_skipBlanks {fuel : Nat} {cs rest : List Char}
    (h : passValue fuel (skipBlanks cs) = .ok rest) : passValue fuel cs = .ok rest := by
  cases fuel with
  | zero =>
      rw [passValue] at h
      cases h
  | succ fuel =>
      rw [passValue, skipBlanks_skipBlanks] at h
      rw [passValue]
      exact h

/-! ## Containers -/

/-- A list is at its end at its bracket. -/
theorem skipBlanks_of_nextElement_end {first : Bool} {cs rest : List Char}
    (h : nextElement first cs = .ok (false, rest)) : skipBlanks cs = ']' :: rest := by
  unfold nextElement at h
  split at h
  · cases h
  · next heq =>
      cases h
      exact heq
  · split at h
    · cases h
    · split at h
      · split at h
        · cases h
        · cases h
        · cases h
      · cases h

/-- Otherwise the first element starts at once and every other behind a comma. -/
theorem skipBlanks_of_nextElement {first : Bool} {cs behind : List Char}
    (h : nextElement first cs = .ok (true, behind)) :
    ∃ c more, skipBlanks cs = c :: more ∧ c ≠ ']' ∧
      (first = true ∧ behind = c :: more ∨
        first = false ∧ c = ',' ∧ behind = skipBlanks more) := by
  unfold nextElement at h
  split at h
  · cases h
  · cases h
  · next c more hopen heq =>
      refine ⟨c, more, heq, hopen, ?_⟩
      split at h
      · next hfirst =>
          cases h
          exact .inl ⟨hfirst, rfl⟩
      · next hfirst =>
          split at h
          · next hcomma =>
              split at h
              · cases h
              · cases h
              · cases h
                exact .inr ⟨by simpa using hfirst, eq_of_beq hcomma, rfl⟩
          · cases h

theorem passElements_end {fuel : Nat} {first : Bool} {cs rest : List Char}
    (h : nextElement first cs = .ok (false, rest)) :
    passElements (fuel + 1) first cs = .ok rest := by
  rw [passElements, skipBlanks_of_nextElement_end h]
  rfl

theorem passElements_next {fuel : Nat} {first : Bool} {cs behind left rest : List Char}
    (h : nextElement first cs = .ok (true, behind)) (hvalue : passValue fuel behind = .ok left)
    (hrest : passElements fuel false left = .ok rest) :
    passElements (fuel + 1) first cs = .ok rest := by
  obtain ⟨c, more, heq, hopen, hbehind⟩ := skipBlanks_of_nextElement h
  rw [passElements, heq]
  split
  · next hnil => cases hnil
  · next hclose => exact absurd (List.cons.inj hclose).1 hopen
  · next heq' =>
      cases heq'
      rcases hbehind with ⟨rfl, rfl⟩ | ⟨rfl, rfl, rfl⟩
      · rw [if_pos rfl, hvalue]
        exact hrest
      · rw [if_neg Bool.false_ne_true, if_pos (by decide), passValue_of_skipBlanks hvalue]
        exact hrest

/-- An object is at its end at its brace. -/
theorem skipBlanks_of_nextKey_end {first : Bool} {cs rest : List Char}
    (h : nextKey first cs = .ok (false, rest)) :
    ∃ behind, rest = '\x7d' :: behind ∧ skipBlanks cs = '\x7d' :: behind := by
  unfold nextKey at h
  split at h
  · cases h
  · next heq =>
      cases h
      exact ⟨_, rfl, heq⟩
  · split at h
    · split at h
      · cases h
      · cases h
    · split at h
      · split at h
        · cases h
        · cases h
        · cases h
        · cases h
      · cases h

/-- Otherwise the first key starts at once and every other behind a comma. -/
theorem skipBlanks_of_nextKey {first : Bool} {cs behind : List Char}
    (h : nextKey first cs = .ok (true, behind)) :
    first = true ∧ skipBlanks cs = '"' :: behind ∨
      first = false ∧ ∃ more, skipBlanks cs = ',' :: more ∧ skipBlanks more = '"' :: behind := by
  unfold nextKey at h
  split at h
  · cases h
  · cases h
  · next c more _ heq =>
      split at h
      · next hfirst =>
          split at h
          · next hquote =>
              cases h
              exact .inl ⟨hfirst, eq_of_beq hquote ▸ heq⟩
          · cases h
      · next hfirst =>
          split at h
          · next hcomma =>
              split at h
              · cases h
              · next hkey =>
                  cases h
                  exact .inr ⟨by simpa using hfirst, more, eq_of_beq hcomma ▸ heq, hkey⟩
              · cases h
              · cases h
          · cases h

theorem passMembers_end {fuel : Nat} {first : Bool} {cs rest : List Char}
    (h : nextKey first cs = .ok (false, rest)) :
    passMembers (fuel + 1) first cs = .ok (rest.drop 1) := by
  obtain ⟨behind, rfl, heq⟩ := skipBlanks_of_nextKey_end h
  rw [passMembers, heq]
  rfl

theorem passKey_eq {cs behind : List Char} (h : skipBlanks cs = '"' :: behind) :
    passKey cs = passString 0 behind >>= readColon := by
  rw [passKey, h]
  rfl

theorem passMembers_next {fuel : Nat} {first : Bool} {cs behind key colon left rest : List Char}
    (h : nextKey first cs = .ok (true, behind)) (hkey : passString 0 behind = .ok key)
    (hcolon : readColon key = .ok colon) (hvalue : passValue fuel colon = .ok left)
    (hrest : passMembers fuel false left = .ok rest) :
    passMembers (fuel + 1) first cs = .ok rest := by
  have hbehind : ∀ {start : List Char}, passKey start = .ok colon →
      (passKey start >>= fun next => passValue fuel next >>= passMembers fuel false) =
        .ok rest := by
    intro start hpass
    rw [hpass]
    change (passValue fuel colon >>= passMembers fuel false) = .ok rest
    rw [hvalue]
    exact hrest
  have hpass : ∀ {start : List Char}, skipBlanks start = '"' :: behind →
      passKey start = .ok colon := by
    intro start hquote
    rw [passKey_eq hquote, hkey]
    exact hcolon
  rcases skipBlanks_of_nextKey h with ⟨rfl, heq⟩ | ⟨rfl, more, heq, hquote⟩
  · rw [passMembers, heq]
    exact hbehind (hpass (skipBlanks_of_eq_cons heq))
  · rw [passMembers, heq]
    exact hbehind (hpass hquote)

/-- What is read is passed over, up to the same place. -/
theorem passers_follow_readers (fuel : Nat) :
    (∀ depth cs v rest, readValue fuel depth cs = .ok (v, rest) →
      passValue fuel cs = .ok rest) ∧
    (∀ depth first cs vs rest, readElements fuel depth first cs = .ok (vs, rest) →
      passElements fuel first cs = .ok rest) ∧
    ∀ depth first cs ms rest, readMembers fuel depth first cs = .ok (ms, rest) →
      passMembers fuel first cs = .ok rest := by
  induction fuel with
  | zero =>
      refine ⟨?_, ?_, ?_⟩
      · intro depth cs v rest h
        rw [readValue] at h
        cases h
      · intro depth first cs vs rest h
        rw [readElements] at h
        cases h
      · intro depth first cs ms rest h
        rw [readMembers] at h
        cases h
  | succ fuel ih =>
      obtain ⟨ihValue, ihElements, ihMembers⟩ := ih
      refine ⟨?_, ?_, ?_⟩
      · intro depth cs v rest h
        obtain ⟨c, more, heq, hfrom⟩ := readValue_cases h
        exact passValue_of_readFrom (fun depth => ihElements depth true)
          (fun depth => ihMembers depth true) heq hfrom
      · intro depth first cs vs rest h
        rw [readElements] at h
        obtain ⟨⟨more, behind⟩, hnext, h⟩ := exists_of_bind_eq_ok h
        cases more with
        | false =>
            cases h
            exact passElements_end hnext
        | true =>
            simp only [if_true] at h
            obtain ⟨⟨v, left⟩, hvalue, h⟩ := exists_of_bind_eq_ok h
            obtain ⟨⟨others, last⟩, hothers, h⟩ := exists_of_bind_eq_ok h
            cases h
            exact passElements_next hnext (ihValue _ _ _ _ hvalue) (ihElements _ _ _ _ _ hothers)
      · intro depth first cs ms rest h
        rw [readMembers] at h
        obtain ⟨⟨more, behind⟩, hnext, h⟩ := exists_of_bind_eq_ok h
        cases more with
        | false =>
            cases h
            exact passMembers_end hnext
        | true =>
            simp only [if_true] at h
            obtain ⟨⟨key, left⟩, hkey, h⟩ := exists_of_bind_eq_ok h
            obtain ⟨colon, hcolon, h⟩ := exists_of_bind_eq_ok h
            obtain ⟨⟨v, value⟩, hvalue, h⟩ := exists_of_bind_eq_ok h
            obtain ⟨⟨others, last⟩, hothers, h⟩ := exists_of_bind_eq_ok h
            cases h
            exact passMembers_next hnext (passString_of_readString hkey) hcolon
              (ihValue _ _ _ _ hvalue) (ihMembers _ _ _ _ _ hothers)

theorem passValue_of_readValue {fuel depth : Nat} {cs rest : List Char} {v : Value}
    (h : readValue fuel depth cs = .ok (v, rest)) : passValue fuel cs = .ok rest :=
  (passers_follow_readers fuel).1 depth cs v rest h

/-! ## What is passed over is left behind -/

theorem length_le_of_passString {skip : Nat} {cs rest : List Char}
    (h : passString skip cs = .ok rest) : rest.length ≤ cs.length := by
  induction cs generalizing skip with
  | nil => cases h
  | cons c cs ih =>
      rw [List.length_cons]
      cases skip with
      | succ skip =>
          rw [passString] at h
          exact Nat.le_succ_of_le (ih h)
      | zero =>
          rw [passString] at h
          split at h
          · cases h
            exact Nat.le_succ _
          · split at h
            · obtain ⟨taken, -, h⟩ := exists_of_bind_eq_ok h
              exact Nat.le_succ_of_le (ih h)
            · split at h
              · cases h
              · exact Nat.le_succ_of_le (ih h)

theorem length_le_of_passExponent {cs rest : List Char} (h : passExponent cs = .ok rest) :
    rest.length ≤ cs.length := by
  have hdigits : ∀ {start : List Char},
      (if startsWithDigit start then .ok (passDigits start).2
        else .error (.next .invalidNumber start) : Except Fault (List Char)) = .ok rest →
      rest.length ≤ start.length := by
    intro start h
    split at h
    · cases h
      exact length_passDigits_le start
    · cases h
  unfold passExponent at h
  simp only at h
  split at h
  · exact Nat.le_succ_of_le (hdigits h)
  · exact Nat.le_succ_of_le (hdigits h)
  · exact hdigits h

theorem length_le_of_passScale {cs rest : List Char} (h : passScale cs = .ok rest) :
    rest.length ≤ cs.length := by
  unfold passScale at h
  split at h
  · exact Nat.le_succ_of_le (length_le_of_passExponent h)
  · exact Nat.le_succ_of_le (length_le_of_passExponent h)
  · cases h
    exact Nat.le_refl _

theorem length_le_of_passNumber {cs rest : List Char} (h : passNumber cs = .ok rest) :
    rest.length ≤ cs.length := by
  have hwhole : (if cs.head? == some '0' then cs.drop 1 else (passDigits cs).2).length ≤
      cs.length := by
    split
    · rw [List.length_drop]
      exact Nat.sub_le _ _
    · exact length_passDigits_le cs
  rw [passNumber] at h
  split at h
  · simp only at h
    generalize (if cs.head? == some '0' then cs.drop 1 else (passDigits cs).2) = whole at h hwhole
    split at h
    · cases h
    · split at h
      · next fraction _ =>
          rw [List.length_cons] at hwhole
          split at h
          · have hscale := length_le_of_passScale h
            have hdigits := length_passDigits_le fraction
            omega
          · cases h
      · exact (length_le_of_passScale h).trans hwhole
  · cases h

theorem length_le_of_passKey {cs rest : List Char} (h : passKey cs = .ok rest) :
    rest.length ≤ cs.length := by
  unfold passKey at h
  split at h
  · cases h
  · next behind heq =>
      obtain ⟨key, hkey, hcolon⟩ := exists_of_bind_eq_ok h
      have hbehind := length_lt_of_skipBlanks heq
      have hkeyle := length_le_of_passString hkey
      have hcolonlt := length_lt_of_readColon hcolon
      omega
  · cases h

/-- Nothing that is passed over makes the text longer. -/
theorem passers_get_ahead (fuel : Nat) :
    (∀ cs rest, passValue fuel cs = .ok rest → rest.length ≤ cs.length) ∧
    (∀ first cs rest, passElements fuel first cs = .ok rest → rest.length ≤ cs.length) ∧
    ∀ first cs rest, passMembers fuel first cs = .ok rest → rest.length ≤ cs.length := by
  induction fuel with
  | zero =>
      refine ⟨?_, ?_, ?_⟩
      · intro cs rest h
        rw [passValue] at h
        cases h
      · intro first cs rest h
        rw [passElements] at h
        cases h
      · intro first cs rest h
        rw [passMembers] at h
        cases h
  | succ fuel ih =>
      obtain ⟨ihValue, ihElements, ihMembers⟩ := ih
      refine ⟨?_, ?_, ?_⟩
      · intro cs rest h
        rw [passValue] at h
        split at h
        · cases h
        · next c more heq =>
            have hmore := length_lt_of_skipBlanks heq
            refine le_trans ?_ (Nat.succ_le_of_lt hmore)
            split at h
            · exact Nat.le_succ_of_le (length_le_of_readWord h)
            split at h
            · exact Nat.le_succ_of_le (length_le_of_readWord h)
            split at h
            · exact Nat.le_succ_of_le (length_le_of_readWord h)
            split at h
            · exact Nat.le_succ_of_le (length_le_of_passNumber h)
            split at h
            · exact length_le_of_passNumber h
            split at h
            · exact Nat.le_succ_of_le (length_le_of_passString h)
            split at h
            · exact Nat.le_succ_of_le (ihElements _ _ _ h)
            split at h
            · exact Nat.le_succ_of_le (ihMembers _ _ _ h)
            · cases h
      · intro first cs rest h
        rw [passElements] at h
        split at h
        · cases h
        · next behind heq =>
            cases h
            exact Nat.le_of_lt (length_lt_of_skipBlanks heq)
        · next c more _ heq =>
            have hmore := length_lt_of_skipBlanks heq
            split at h
            · obtain ⟨left, hvalue, h⟩ := exists_of_bind_eq_ok h
              have hleft := ihValue _ _ hvalue
              have hrest := ihElements _ _ _ h
              rw [List.length_cons] at hleft
              omega
            · split at h
              · obtain ⟨left, hvalue, h⟩ := exists_of_bind_eq_ok h
                have hleft := ihValue _ _ hvalue
                have hrest := ihElements _ _ _ h
                omega
              · cases h
      · intro first cs rest h
        rw [passMembers] at h
        split at h
        · cases h
        · next behind heq =>
            cases h
            exact Nat.le_of_lt (length_lt_of_skipBlanks heq)
        · next c more _ heq =>
            have hmore := length_lt_of_skipBlanks heq
            split at h
            · obtain ⟨colon, hkey, h⟩ := exists_of_bind_eq_ok h
              obtain ⟨left, hvalue, h⟩ := exists_of_bind_eq_ok h
              have hcolon := length_le_of_passKey hkey
              have hleft := ihValue _ _ hvalue
              have hrest := ihMembers _ _ _ h
              rw [List.length_cons] at hcolon
              omega
            · split at h
              · obtain ⟨colon, hkey, h⟩ := exists_of_bind_eq_ok h
                obtain ⟨left, hvalue, h⟩ := exists_of_bind_eq_ok h
                have hcolon := length_le_of_passKey hkey
                have hleft := ihValue _ _ hvalue
                have hrest := ihMembers _ _ _ h
                omega
              · cases h

theorem length_le_of_passValue {fuel : Nat} {cs rest : List Char}
    (h : passValue fuel cs = .ok rest) : rest.length ≤ cs.length :=
  (passers_get_ahead fuel).1 cs rest h

end Json
end FormulaMap
