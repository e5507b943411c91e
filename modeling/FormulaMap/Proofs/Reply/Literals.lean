import FormulaMap.Proofs.Json.Numerals
import FormulaMap.Proofs.Reply.Decoding

/-!
# Literals in quotes

A number of a reply may stand by itself or in quotes, where blanks may surround it.  Both readings
take the same texts for numbers and read them alike, so both give the same literal, unless the text
is the name of a candidate.  Nothing else in quotes gives a literal, so the numbers that only source
code has, with suffixes, low lines, a plus or a point in front or hexadecimal digits, stay what they
are.
-/

namespace FormulaMap

/-! ## Numbers of source code -/

/-- Whether a text is a number as source code may have it but documents may not: with a suffix for
its type, with low lines, with a plus or a point in front, or hexadecimal. -/
inductive IsSourceLiteral : List Char → Prop
  | suffixed {c suffix : Char} {cs : List Char} (hc : c = '-' ∨ Text.isAsciiDigit c = true)
      (hsuffix : suffix ∈ ['f', 'F', 'd', 'D', 'l', 'L']) : IsSourceLiteral (c :: (cs ++ [suffix]))
  | underscored {front back : List Char} : IsSourceLiteral (front ++ '_' :: back)
  | plus {cs : List Char} : IsSourceLiteral ('+' :: cs)
  | point {cs : List Char} : IsSourceLiteral ('.' :: cs)
  | hexadecimal {sign cs : List Char} {x : Char} (hsign : sign = [] ∨ sign = ['-'])
      (hx : x = 'x' ∨ x = 'X') : IsSourceLiteral (sign ++ '0' :: x :: cs)

theorem IsSourceLiteral.not_isNumeral {cs : List Char} (h : IsSourceLiteral cs) :
    ¬Json.IsNumeral cs := by
  intro hnumeral
  have hsuffixes : ∀ c ∈ ['f', 'F', 'd', 'D', 'l', 'L'], Text.isAsciiDigit c = false := by
    simp [Text.isAsciiDigit]
  cases h with
  | @suffixed c suffix cs _ hsuffix =>
      obtain ⟨d, hd, hdigit⟩ := hnumeral.endsInDigit
      rw [← List.cons_append, List.getLast?_concat, Option.mem_some] at hd
      rw [← hd, hsuffixes suffix hsuffix] at hdigit
      cases hdigit
  | underscored => exact absurd (hnumeral.isNumeralChar '_' (by simp)) (by decide)
  | plus =>
      obtain ⟨c, hc, hstart⟩ := hnumeral.exists_head
      cases hc
      exact absurd hstart (by decide)
  | point =>
      obtain ⟨c, hc, hstart⟩ := hnumeral.exists_head
      cases hc
      exact absurd hstart (by decide)
  | @hexadecimal sign cs x _ hx =>
      have hchar := hnumeral.isNumeralChar x (by simp)
      rcases hx with rfl | rfl
      · exact absurd hchar (by decide)
      · exact absurd hchar (by decide)

/-- What a number starts with does not stand in the word for nothing. -/
theorem notMem_null_of_starts {c : Char} (hc : c = '-' ∨ Text.isAsciiDigit c = true) :
    c ∉ "null".toList := by
  have hletters : ∀ c ∈ "null".toList, ¬(c = '-' ∨ Text.isAsciiDigit c = true) := by
    simp [Text.isAsciiDigit]
  exact fun hmem => hletters c hmem hc

theorem exists_notMem_null_of_isNumeral {cs : List Char} (h : Json.IsNumeral cs) :
    ∃ c ∈ cs, c ∉ "null".toList := by
  obtain ⟨c, hc, hstart⟩ := h.exists_head
  exact ⟨c, List.mem_of_mem_head? hc, notMem_null_of_starts hstart⟩

theorem IsSourceLiteral.exists_notMem_null {cs : List Char} (h : IsSourceLiteral cs) :
    ∃ c ∈ cs, c ∉ "null".toList := by
  cases h with
  | @suffixed c _ _ hc _ => exact ⟨c, List.mem_cons_self, notMem_null_of_starts hc⟩
  | underscored => exact ⟨'_', by simp, by decide⟩
  | plus => exact ⟨'+', by simp, by decide⟩
  | point => exact ⟨'.', by simp, by decide⟩
  | hexadecimal _ _ => exact ⟨'0', by simp, by decide⟩

theorem ne_null_of_mem {cs : List Char} (h : ∃ c ∈ cs, c ∉ "null".toList) :
    ¬(cs.isEmpty = true ∨ String.ofList cs = "null") := by
  obtain ⟨c, hmem, hother⟩ := h
  rintro (hempty | hnull)
  · rw [List.isEmpty_iff.mp hempty] at hmem
    cases hmem
  · rw [← hnull, String.toList_ofList] at hother
    exact hother hmem

namespace Construct

variable {candidates : NameSet} {s : String} {n : Json.Number}

/-- A string whose trimmed text has other characters than the word for nothing is a candidate, a
number or an expression. -/
theorem ofText_of_ne_null (h : ∃ c ∈ Text.trim s.toList, c ∉ "null".toList) :
    ofText candidates s =
      if String.ofList (Text.trim s.toList) ∈ candidates.toList then
        .named (String.ofList (Text.trim s.toList))
      else
        match Json.numberOf? (Text.trim s.toList) with
        | some n => .literal n
        | none => .expression (String.ofList (Text.trim s.toList)) := by
  cases hnumber : Json.numberOf? (Text.trim s.toList) with
  | none =>
      simp only [ofText, if_neg (ne_null_of_mem h), NameSet.contains, List.contains_iff_mem,
        hnumber]
  | some n =>
      simp only [ofText, if_neg (ne_null_of_mem h), NameSet.contains, List.contains_iff_mem,
        hnumber]

/-- A string gives a literal exactly if what trimming leaves of it is a number and no candidate. -/
theorem ofText_eq_literal_iff :
    ofText candidates s = .literal n ↔
      String.ofList (Text.trim s.toList) ∉ candidates.toList ∧
        Json.numberOf? (Text.trim s.toList) = some n := by
  constructor
  · intro h
    simp only [ofText, NameSet.contains, List.contains_iff_mem] at h
    split at h
    · cases h
    · split at h
      · cases h
      · next hforeign =>
          split at h
          · next m hnumber =>
              cases h
              exact ⟨hforeign, hnumber⟩
          · cases h
  · rintro ⟨hforeign, hnumber⟩
    have hnumeral := Json.isNumeral_of_numberOf? hnumber
    rw [ofText_of_ne_null (exists_notMem_null_of_isNumeral hnumeral), if_neg hforeign, hnumber]

/-- A number of source code in quotes is a candidate or an expression. -/
theorem ofText_of_isSourceLiteral (h : IsSourceLiteral (Text.trim s.toList)) :
    ofText candidates s =
      if String.ofList (Text.trim s.toList) ∈ candidates.toList then
        .named (String.ofList (Text.trim s.toList))
      else .expression (String.ofList (Text.trim s.toList)) := by
  rw [ofText_of_ne_null h.exists_notMem_null]
  cases hnumber : Json.numberOf? (Text.trim s.toList) with
  | none => rfl
  | some n => exact absurd (Json.isNumeral_of_numberOf? hnumber) h.not_isNumeral

end Construct

namespace Reply

open Json (WrittenMember)

/-! ## Numbers as documents -/

theorem not_isJsonBlank_of_not_isBlank {c : Char} (h : Text.isBlank c = false) :
    Json.isJsonBlank c = false := by
  cases hblank : Json.isJsonBlank c with
  | false => rfl
  | true =>
      simp only [Json.isJsonBlank, Bool.or_eq_true, beq_iff_eq] at hblank
      obtain ((rfl | rfl) | rfl) | rfl := hblank
      · exact absurd h (by decide)
      · exact absurd h (by decide)
      · exact absurd h (by decide)
      · exact absurd h (by decide)

theorem skipBlanks_of_solid {t : List Char} (h : Text.Solid t) : Json.skipBlanks t = t := by
  obtain ⟨c, hhead, hc⟩ := h.starts
  obtain ⟨more, rfl⟩ := List.head?_eq_some_iff.mp hhead
  exact Json.skipBlanks_cons (not_isJsonBlank_of_not_isBlank hc)

theorem eq_nil_of_solid_append {front rest : List Char} (h : Text.Solid (front ++ rest))
    (hrest : Json.skipBlanks rest = []) : rest = [] := by
  cases rest using List.reverseRecOn with
  | nil => rfl
  | append_singleton rest c =>
      obtain ⟨last, hlast, hshown⟩ := h.ends
      rw [← List.append_assoc, List.getLast?_concat, Option.mem_some] at hlast
      subst hlast
      have hblank := List.dropWhile_eq_nil_iff.mp hrest c (by simp)
      rw [not_isJsonBlank_of_not_isBlank hshown] at hblank
      cases hblank

/-- The texts that are numbers by themselves are the documents that hold one, without blanks around
it. -/
theorem numberOf?_eq_some_iff_valueOf {t : List Char} {n : Json.Number} :
    Json.numberOf? t = some n ↔ Json.valueOf t = .ok (.number n) ∧ Text.trim t = t := by
  constructor
  · intro h
    refine ⟨?_, (Json.isNumeral_of_numberOf? h).solid.trim_eq⟩
    rw [Json.valueOf, Json.finish_eq_ok_iff]
    exact ⟨[], Json.readValue_number (Json.numberOf?_eq_some.mp h), rfl⟩
  · rintro ⟨hvalue, htrim⟩
    rw [Json.valueOf, Json.finish_eq_ok_iff] at hvalue
    obtain ⟨rest, hread, hrest⟩ := hvalue
    obtain ⟨c, more, hstart, hfrom⟩ := Json.readValue_cases_of_enough hread
    have hsigned : Json.readSigned (c :: more) = .ok (n, rest) := by
      cases hfrom with
      | number hsigned => exact hsigned
    have hsolid : Text.Solid t := by
      have htrimmed : Text.trim t ≠ [] := by
        rw [htrim]
        rintro rfl
        cases hstart
      have hsolid := Text.solid_trim htrimmed
      rwa [htrim] at hsolid
    rw [skipBlanks_of_solid hsolid] at hstart
    rw [← hstart] at hsigned
    obtain ⟨numeral, -, rfl⟩ := Json.exists_numeral_of_readSigned hsigned
    rw [eq_nil_of_solid_append hsolid hrest] at hsigned ⊢
    exact Json.numberOf?_eq_some.mpr hsigned

/-! ## Numbers in objects -/

variable {candidates : NameSet} {t before behind : List Char} {n : Json.Number}

/-- A number in quotes names the literal that it names by itself, with blanks around it as well. -/
theorem constructOf_quoted (ht : Json.numberOf? t = some n)
    (hforeign : String.ofList t ∉ candidates.toList)
    (hbefore : ∀ c ∈ before, Text.isBlank c = true)
    (hbehind : ∀ c ∈ behind, Text.isBlank c = true) :
    constructOf candidates (.string (String.ofList (before ++ (t ++ behind)))) = .literal n := by
  have htrim : Text.trim (before ++ (t ++ behind)) = t := by
    rw [Text.trim_append_of_blank hbefore hbehind, (Json.isNumeral_of_numberOf? ht).solid.trim_eq]
  rw [constructOf, Construct.classify?, Option.getD_some, Construct.ofText_eq_literal_iff,
    String.toList_ofList, htrim]
  exact ⟨hforeign, ht⟩

theorem decode_objectText {ms : List WrittenMember}
    (hms : ∀ m ∈ ms, m.Reads ∧ m.value.isScalar = true) :
    decode (objectText ms) candidates =
      .ok (.ofList (ms.map fun m => (m.key, constructOf candidates m.value))) := by
  have hholds : Holds (objectText ms) (ms.map (·.entry)) := by
    rw [Holds, ← membersOf_eq_ok_iff]
    exact membersOf_objectText fun m hm => (hms m hm).1
  have hscalars : ∀ e ∈ ms.map (·.entry), e.2.isScalar = true := by
    intro e he
    obtain ⟨m, hm, rfl⟩ := List.mem_map.mp he
    exact (hms m hm).2
  rw [decode_of_scalars hholds hscalars, List.map_map]
  rfl

/-- Among any other members, a number and the same number in quotes decode alike. -/
theorem decode_bare_and_quoted (ht : Json.numberOf? t = some n)
    (hforeign : String.ofList t ∉ candidates.toList)
    (hbefore : ∀ c ∈ before, Text.isBlank c = true)
    (hbehind : ∀ c ∈ behind, Text.isBlank c = true) (key : String)
    {earlier later : List WrittenMember}
    (hothers : ∀ m ∈ earlier ++ later, m.Reads ∧ m.value.isScalar = true)
    (hlast : ∀ m ∈ later, m.key ≠ key) :
    ∃ m, decode (objectText (earlier ++ .bare key t n :: later)) candidates = .ok m ∧
      decode (objectText (earlier ++ .quoted key (before ++ (t ++ behind)) :: later)) candidates =
        .ok m ∧
      m.get? key = some (.literal n) := by
  have hmembers : ∀ own : WrittenMember, own.Reads → own.value.isScalar = true →
      ∀ m ∈ earlier ++ own :: later, m.Reads ∧ m.value.isScalar = true := by
    intro own hreads hscalar m hm
    rcases List.mem_append.mp hm with hearlier | hlater
    · exact hothers m (List.mem_append_left _ hearlier)
    · rcases List.mem_cons.mp hlater with rfl | hlater
      · exact ⟨hreads, hscalar⟩
      · exact hothers m (List.mem_append_right _ hlater)
  have hconstruct := constructOf_quoted ht hforeign hbefore hbehind
  refine ⟨_, decode_objectText (hmembers _ (WrittenMember.reads_bare ht key) rfl), ?_, ?_⟩
  · rw [decode_objectText (hmembers _ (WrittenMember.reads_quoted key _) rfl)]
    simp only [List.map_append, List.map_cons, WrittenMember.quoted, WrittenMember.bare, hconstruct]
    rfl
  · rw [SymbolMapping.get?_ofList_eq_some_iff]
    refine ⟨_, _, List.map_append, ?_⟩
    simpa using hlast

/-- A text that is a number by itself, which is to say a document that holds a number without blanks
around it, is a numeral.  If it is no candidate, it gives the same literal by itself and in quotes,
with any blanks around it there, for any key and among any other members of an object.  A string
gives a literal only so, and the numbers that only source code has stay candidates or expressions.
How a text is turned into a number is one and the same function in both readings. -/
theorem literal_by_itself_or_in_quotes (candidates : NameSet) :
    (∀ t n, Json.numberOf? t = some n ↔ Json.valueOf t = .ok (.number n) ∧ Text.trim t = t) ∧
    (∀ t n, Json.numberOf? t = some n → Json.IsNumeral t ∧
      (String.ofList t ∉ candidates.toList →
        ∀ before behind : List Char, (∀ c ∈ before, Text.isBlank c = true) →
          (∀ c ∈ behind, Text.isBlank c = true) →
        ∀ (key : String) (earlier later : List WrittenMember),
          (∀ m ∈ earlier ++ later, m.Reads ∧ m.value.isScalar = true) →
          (∀ m ∈ later, m.key ≠ key) →
          ∃ m, decode (objectText (earlier ++ .bare key t n :: later)) candidates = .ok m ∧
            decode (objectText (earlier ++ .quoted key (before ++ (t ++ behind)) :: later))
              candidates = .ok m ∧
            m.get? key = some (.literal n))) ∧
    (∀ (s : String) n, Construct.classify? candidates (.string s) = some (.literal n) ↔
      String.ofList (Text.trim s.toList) ∉ candidates.toList ∧
        Json.numberOf? (Text.trim s.toList) = some n) ∧
    (∀ s : String, IsSourceLiteral (Text.trim s.toList) →
      Construct.classify? candidates (.string s) =
        some (if String.ofList (Text.trim s.toList) ∈ candidates.toList then
          .named (String.ofList (Text.trim s.toList))
        else .expression (String.ofList (Text.trim s.toList)))) := by
  refine ⟨fun _ _ => numberOf?_eq_some_iff_valueOf, ?_, ?_, ?_⟩
  · intro t n ht
    refine ⟨Json.isNumeral_of_numberOf? ht, ?_⟩
    intro hforeign before behind hbefore hbehind key earlier later hothers hlast
    exact decode_bare_and_quoted ht hforeign hbefore hbehind key hothers hlast
  · intro s n
    rw [Construct.classify?, Option.some.injEq]
    exact Construct.ofText_eq_literal_iff
  · intro s hs
    rw [Construct.classify?, Construct.ofText_of_isSourceLiteral hs]

/-- The number `-12` in quotes, between a blank that only Unicode has and a tab, behind another
member. -/
theorem literal_in_quotes_minus_twelve :
    (∃ m, decode "\x7b\"a\":null,\"k\":-12\x7d" (NameSet.ofList ["x"]) = .ok m ∧
      decode "\x7b\"a\":null,\"k\":\"\u00a0-12\\t\"\x7d" (NameSet.ofList ["x"]) = .ok m ∧
      m.get? "k" = some (.literal (.negative 12))) ∧
    Construct.classify? (NameSet.ofList ["x"]) (.string " 1_000L ") =
      some (.expression "1_000L") := by
  have hboth := literal_by_itself_or_in_quotes (NameSet.ofList ["x"])
  have hnumber := (hboth.2.1 "-12".toList (.negative 12) (by decide)).2 (by decide)
    ['\u00a0'] ['\t'] (List.forall_mem_singleton.mpr rfl) (List.forall_mem_singleton.mpr rfl) "k"
    [.compact ("a", .null)] [] ?_ nofun
  · exact ⟨hnumber, hboth.2.2.2 " 1_000L " (@IsSourceLiteral.underscored ['1'] "000L".toList)⟩
  · intro m hm
    obtain rfl := List.mem_singleton.mp hm
    exact ⟨Json.readBack_null, rfl⟩

end Reply
end FormulaMap
