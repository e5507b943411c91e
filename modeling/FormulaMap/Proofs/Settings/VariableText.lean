import FormulaMap.Proofs.Text.Trimming
import FormulaMap.Settings.Layers
import FormulaMap.Settings.Variable

/-!
# Texts of variables that are taken for themselves

The text of a variable is taken for a truth value, a number, a quoted text, a sequence or a table if
all of it has that form, and for itself otherwise, without the blanks around it.  Where a text is
wanted, a variable therefore gives its own text exactly if that has none of these forms and no
blanks around it.
-/

namespace FormulaMap
namespace Text

/-- A text opens with another exactly if that is its beginning. -/
theorem after?_eq_some_iff {opening cs rest : List Char} :
    after? opening cs = some rest ↔ cs = opening ++ rest := by
  constructor
  · exact eq_append_of_after?
  · rintro rfl
    exact after?_append opening rest

theorem length_takeBytes_le (size : Nat) (cs : List Char) :
    (takeBytes size cs).length ≤ cs.length := by
  induction cs generalizing size with
  | nil => simp [takeBytes]
  | cons c cs ih =>
      rw [takeBytes]
      split
      · exact Nat.succ_le_succ (ih _)
      · exact Nat.zero_le _

end Text

namespace Settings

/-! ## Quoted texts -/

theorem length_le_of_readCode? {count : Nat} {cs rest : List Char} {c : Char}
    (h : readCode? count cs = some (c, rest)) : rest.length ≤ cs.length := by
  dsimp only [readCode?] at h
  rw [Option.ite_none_right_eq_some, Option.dite_none_right_eq_some] at h
  obtain ⟨-, _, h⟩ := h
  cases h
  rw [List.length_drop]
  exact Nat.sub_le _ _

/-- A quoted text is shorter than what it is read from: its closing quote is not part of it, and an
escape is longer than the character it stands for. -/
theorem length_lt_of_readCharacters? {fuel : Nat} {cs s rest : List Char}
    (h : readCharacters? fuel cs = some (s, rest)) : s.length + rest.length < cs.length := by
  induction fuel generalizing cs s with
  | zero => cases h
  | succ fuel ih =>
      have hnext : ∀ {c : Char} {behind tail : List Char}, behind.length ≤ tail.length →
          (readCharacters? fuel behind >>= fun p => some (c :: p.1, p.2)) = some (s, rest) →
          s.length + rest.length < tail.length + 1 := by
        intro c behind tail hbehind h
        obtain ⟨⟨more, left⟩, hmore, h⟩ := Option.bind_eq_some_iff.mp h
        simp only [Option.some.injEq, Prod.mk.injEq] at h
        obtain ⟨rfl, rfl⟩ := h
        have hlater : more.length + left.length < behind.length := ih hmore
        rw [List.length_cons]
        omega
      rw [readCharacters?.eq_def] at h
      simp only at h
      split at h
      · cases h
      · cases h
        simp
      · next escaped =>
          split at h
          · exact hnext (Nat.le_succ _) h
          · exact hnext (Nat.le_succ _) h
          · exact hnext (Nat.le_succ _) h
          · exact hnext (Nat.le_succ _) h
          · exact hnext (Nat.le_succ _) h
          · exact hnext (Nat.le_succ _) h
          · exact hnext (Nat.le_succ _) h
          · obtain ⟨⟨c, behind⟩, hcode, h⟩ := Option.bind_eq_some_iff.mp h
            exact hnext (Nat.le_succ_of_le (length_le_of_readCode? hcode)) h
          · obtain ⟨⟨c, behind⟩, hcode, h⟩ := Option.bind_eq_some_iff.mp h
            exact hnext (Nat.le_succ_of_le (length_le_of_readCode? hcode)) h
          · cases h
      · split at h
        · exact hnext (Nat.le_refl _) h
        · cases h

theorem length_lt_of_readQuoted? {fuel : Nat} {cs s rest : List Char}
    (h : readQuoted? fuel cs = some (s, rest)) : s.length < cs.length := by
  obtain ⟨⟨t, left⟩, hread, h⟩ := Option.bind_eq_some_iff.mp h
  have hshorter := length_lt_of_readCharacters? hread
  simp only at h
  split at h
  · next hslash =>
      cases h
      obtain ⟨behind, hbehind⟩ := Option.isSome_iff_exists.mp hslash
      rw [Text.after?_eq_some_iff] at hbehind
      have hkept := Text.length_takeBytes_le
        (cs.takeWhile fun c => c != '"' && c != '\\').length
        (cs.takeWhile fun c => c != '"' && c != '\\')
      have hlead := congrArg List.length hbehind
      simp only [List.length_drop, List.length_append, List.length_cons, List.length_nil] at hlead ⊢
      omega
  · cases h
    omega

/-! ## What a text starts with -/

theorem isBlank_of_isAsciiBlank {c : Char} (h : isAsciiBlank c = true) : Text.isBlank c = true := by
  simp only [isAsciiBlank, Bool.or_eq_true, beq_iff_eq] at h
  obtain (((rfl | rfl) | rfl) | rfl) | rfl := h
  all_goals decide

theorem skipAsciiBlanks_append {blanks : List Char} (h : ∀ c ∈ blanks, isAsciiBlank c = true)
    (cs : List Char) : skipAsciiBlanks (blanks ++ cs) = skipAsciiBlanks cs :=
  List.dropWhile_append_of_pos h

theorem exists_blanks_skipAsciiBlanks (cs : List Char) :
    ∃ blanks, (∀ c ∈ blanks, isAsciiBlank c = true) ∧ cs = blanks ++ skipAsciiBlanks cs :=
  ⟨cs.takeWhile isAsciiBlank, fun _ => List.mem_takeWhile_imp, List.takeWhile_append_dropWhile.symm⟩

theorem skipAsciiBlanks_eq_nil_iff {cs : List Char} :
    skipAsciiBlanks cs = [] ↔ ∀ c ∈ cs, isAsciiBlank c = true :=
  List.dropWhile_eq_nil_iff

theorem trim_skipAsciiBlanks (cs : List Char) : Text.trim (skipAsciiBlanks cs) = Text.trim cs := by
  obtain ⟨blanks, hblanks, heq⟩ := exists_blanks_skipAsciiBlanks cs
  have hblank : ∀ c ∈ blanks, Text.isBlank c = true := fun c hc =>
    isBlank_of_isAsciiBlank (hblanks c hc)
  have htrim := @Text.trim_append_of_blank blanks [] hblank nofun (skipAsciiBlanks cs)
  rw [List.append_nil, ← heq] at htrim
  exact htrim.symm

/-- The characters that a quoted text, a quoted character, a sequence and a table start with. -/
def openers : List Char := ['"', '\'', '[', '\x7b']

/-- Whether a text starts with a truth value or with one of the characters that open something. -/
inductive StartsForm : List Char → Prop
  | truth (b : Bool) (rest : List Char) :
      StartsForm ((if b then "true".toList else "false".toList) ++ rest)
  | opened {c : Char} (hc : c ∈ openers) (rest : List Char) : StartsForm (c :: rest)

/-- Whether a text is a number in one of the ways that variables know. -/
def IsNumeral (cs : List Char) : Prop :=
  (∃ n, naturalOf? cs = some n) ∨ (∃ n, negativeOf? cs = some n) ∨
    ('.' ∈ cs ∧ ∃ v, Binary.readValue? Binary.double cs = some v)

/-- The text that a raw setting gives where a text is wanted. -/
def Value.text? : Value → Option String
  | .text s => some s
  | .character c => some (String.ofList [c])
  | _ => none

theorem nodeText_ofValue_eq_ok_iff {origin : Origin} {v : Value} {s : String} :
    nodeText (Node.ofValue origin v) = .ok s ↔ v.text? = some s := by
  cases v <;> simp [Node.ofValue, nodeText, Value.text?]

theorem text?_plainValue_of_isNumeral {cs : List Char} (h : IsNumeral cs) :
    (plainValue cs).text? = none := by
  rw [plainValue]
  obtain ⟨n, hn⟩ | ⟨n, hn⟩ | ⟨hpoint, v, hv⟩ := h
  · rw [hn]
    split <;> simp_all [Value.text?]
  · rw [hn]
    split <;> simp_all [Value.text?]
  · rw [List.contains_iff_mem.mpr hpoint, hv]
    rfl

theorem plainValue_of_not_isNumeral {cs : List Char} (h : ¬IsNumeral cs) :
    plainValue cs = .text (String.ofList cs) := by
  have hreal : (if cs.contains '.' then Binary.readValue? Binary.double cs else none) = none := by
    split
    · next hpoint =>
        rw [List.contains_iff_mem] at hpoint
        exact Option.eq_none_iff_forall_ne_some.mpr fun v hv => h (.inr (.inr ⟨hpoint, v, hv⟩))
    · rfl
  have hnatural : naturalOf? cs = none :=
    Option.eq_none_iff_forall_ne_some.mpr fun n hn => h (.inl ⟨n, hn⟩)
  have hnegative : negativeOf? cs = none :=
    Option.eq_none_iff_forall_ne_some.mpr fun n hn => h (.inr (.inl ⟨n, hn⟩))
  rw [plainValue, hreal, hnatural, hnegative]

theorem readValue?_truth {fuel : Nat} {cs rest : List Char} {b : Bool}
    (h : skipAsciiBlanks cs = (if b then "true".toList else "false".toList) ++ rest) :
    readValue? (fuel + 1) cs = some (.flag b, skipAsciiBlanks rest) := by
  rw [readValue?, h]
  cases b with
  | true => rfl
  | false => rfl

/-- What stands between quotes is shorter than the whole. -/
theorem length_lt_of_readValue?_opened {fuel : Nat} {cs more rest : List Char} {c : Char}
    (hc : c ∈ openers) (h : skipAsciiBlanks cs = c :: more) {v : Value}
    (hread : readValue? (fuel + 1) cs = some (v, rest)) {s : String} (hs : v.text? = some s) :
    s.length < cs.length := by
  have hskip : (c :: more).length ≤ cs.length := by
    rw [← h]
    exact List.length_dropWhile_le _ _
  rw [List.length_cons] at hskip
  simp only [openers, List.mem_cons, List.not_mem_nil, or_false] at hc
  rw [readValue?, h] at hread
  rcases hc with rfl | rfl | rfl | rfl
  · obtain ⟨⟨w, left⟩, hform, hw⟩ := Option.bind_eq_some_iff.mp hread
    obtain ⟨⟨t, behind⟩, hquoted, ht⟩ := Option.map_eq_some_iff.mp hform
    simp only [Option.some.injEq, Prod.mk.injEq] at hw ht
    obtain ⟨rfl, -⟩ := hw
    obtain ⟨rfl, -⟩ := ht
    obtain rfl := Option.some.inj hs
    have hshorter := length_lt_of_readQuoted? hquoted
    rw [String.length_ofList]
    omega
  · have hnot : Text.after? "true".toList ('\'' :: more) = none ∧
        Text.after? "false".toList ('\'' :: more) = none := ⟨rfl, rfl⟩
    simp only [hnot.1, hnot.2] at hread
    split at hread
    · simp only [List.length_cons] at hskip
      simp only [bind, Option.bind, Option.some.injEq, Prod.mk.injEq] at hread
      obtain ⟨rfl, -⟩ := hread
      obtain rfl := Option.some.inj hs
      rw [String.length_ofList, List.length_singleton]
      omega
    · cases hread
  · obtain ⟨⟨w, left⟩, hform, hw⟩ := Option.bind_eq_some_iff.mp hread
    obtain ⟨⟨ws, behind⟩, -, hws⟩ := Option.map_eq_some_iff.mp hform
    simp only [Option.some.injEq, Prod.mk.injEq] at hw hws
    obtain ⟨rfl, -⟩ := hw
    obtain ⟨rfl, -⟩ := hws
    cases hs
  · obtain ⟨⟨w, left⟩, hform, hw⟩ := Option.bind_eq_some_iff.mp hread
    obtain ⟨⟨ms, behind⟩, -, hms⟩ := Option.map_eq_some_iff.mp hform
    simp only [Option.some.injEq, Prod.mk.injEq] at hw hms
    obtain ⟨rfl, -⟩ := hw
    obtain ⟨rfl, -⟩ := hms
    cases hs

theorem readValue?_plain {fuel : Nat} {cs : List Char} (h : ¬StartsForm (skipAsciiBlanks cs)) :
    readValue? (fuel + 1) cs =
      some (plainValue (Text.trim ((skipAsciiBlanks cs).takeWhile fun c => !isSeparator c)),
        skipAsciiBlanks ((skipAsciiBlanks cs).dropWhile fun c => !isSeparator c)) := by
  rw [readValue?]
  simp only
  split
  · next rest htrue =>
      rw [Text.after?_eq_some_iff.mp htrue] at h
      exact absurd (.truth true rest) h
  · next rest hfalse _ =>
      rw [Text.after?_eq_some_iff.mp hfalse] at h
      exact absurd (.truth false rest) h
  · next rest heq _ _ =>
      rw [heq] at h
      exact absurd (.opened (by decide) rest) h
  · next rest heq _ _ =>
      rw [heq] at h
      exact absurd (.opened (by decide) rest) h
  · next rest heq _ _ =>
      rw [heq] at h
      exact absurd (.opened (by decide) rest) h
  · next rest heq _ _ =>
      rw [heq] at h
      exact absurd (.opened (by decide) rest) h
  · rfl

/-! ## Texts taken for something else -/

/-- Whether the text of a variable is taken for something other than itself: for a truth value, for
what is quoted, listed or set out in it, for a number, or for itself without the blanks around
it. -/
inductive Reinterpreted (text : String) : Prop
  | truth (b : Bool) {before behind : List Char} (hbefore : ∀ c ∈ before, isAsciiBlank c = true)
      (hbehind : ∀ c ∈ behind, isAsciiBlank c = true)
      (h : text.toList = before ++ ((if b then "true".toList else "false".toList) ++ behind))
  | opened {c : Char} (hc : c ∈ openers) {rest : List Char}
      (h : skipAsciiBlanks text.toList = c :: rest) {v : Value}
      (hread : readValue? (2 * text.length + 3) text.toList = some (v, []))
  | numeral (hstart : ¬StartsForm (skipAsciiBlanks text.toList))
      (hwhole : ∀ c ∈ text.toList, isSeparator c = false) (h : IsNumeral (Text.trim text.toList))
  | blank (hstart : ¬StartsForm (skipAsciiBlanks text.toList))
      (hwhole : ∀ c ∈ text.toList, isSeparator c = false) (h : Text.trim text.toList ≠ text.toList)

theorem ofVariable_of_readValue? {text : String} {v : Value}
    (h : readValue? (2 * text.length + 3) text.toList = some (v, [])) :
    Value.ofVariable text = v := by
  rw [Value.ofVariable, h]

/-- A text that is not read to its end as one value stands for itself. -/
theorem ofVariable_of_unread {text : String}
    (h : ∀ v, readValue? (2 * text.length + 3) text.toList ≠ some (v, [])) :
    Value.ofVariable text = .text text := by
  rw [Value.ofVariable]
  split
  · next v hread => exact absurd hread (h v)
  · rfl

theorem isSeparator_of_isAsciiBlank {c : Char} (h : isAsciiBlank c = true) :
    isSeparator c = false := by
  simp only [isAsciiBlank, Bool.or_eq_true, beq_iff_eq] at h
  obtain (((rfl | rfl) | rfl) | rfl) | rfl := h
  all_goals decide

/-- A text that starts no form is read to its end if it has no separator. -/
theorem readValue?_of_whole {text : String} (hstart : ¬StartsForm (skipAsciiBlanks text.toList))
    (hwhole : ∀ c ∈ text.toList, isSeparator c = false) :
    readValue? (2 * text.length + 3) text.toList =
      some (plainValue (Text.trim text.toList), []) := by
  have hall : ∀ c ∈ skipAsciiBlanks text.toList, (!isSeparator c) = true := by
    intro c hc
    rw [hwhole c ((List.dropWhile_suffix _).subset hc), Bool.not_false]
  rw [readValue?_plain hstart, List.takeWhile_eq_self_iff.mpr hall,
    List.dropWhile_eq_nil_iff.mpr hall, trim_skipAsciiBlanks]
  rfl

/-- And only if. -/
theorem whole_of_readValue? {text : String} (hstart : ¬StartsForm (skipAsciiBlanks text.toList))
    {v : Value} (h : readValue? (2 * text.length + 3) text.toList = some (v, [])) :
    ∀ c ∈ text.toList, isSeparator c = false := by
  rw [readValue?_plain hstart, Option.some.injEq, Prod.mk.injEq] at h
  have hrest : (skipAsciiBlanks text.toList).dropWhile (fun c => !isSeparator c) = [] := by
    cases hdrop : (skipAsciiBlanks text.toList).dropWhile fun c => !isSeparator c with
    | nil => rfl
    | cons c rest =>
        -- what is left starts with a separator, which is no blank
        have hblank := skipAsciiBlanks_eq_nil_iff.mp h.2 c (hdrop ▸ List.mem_cons_self)
        have hfirst := List.head?_dropWhile_not (fun c => !isSeparator c)
          (skipAsciiBlanks text.toList)
        rw [hdrop] at hfirst
        simp [isSeparator_of_isAsciiBlank hblank] at hfirst
  obtain ⟨blanks, hblanks, heq⟩ := exists_blanks_skipAsciiBlanks text.toList
  intro c hc
  rw [heq] at hc
  rcases List.mem_append.mp hc with hc | hc
  · exact isSeparator_of_isAsciiBlank (hblanks c hc)
  · simpa using List.dropWhile_eq_nil_iff.mp hrest c hc

/-- A text that is taken for something else gives another text or none. -/
theorem text?_ofVariable_ne {text : String} (h : Reinterpreted text) :
    (Value.ofVariable text).text? ≠ some text := by
  cases h with
  | @truth b before behind hbefore hbehind heq =>
      have hskip : skipAsciiBlanks text.toList =
          (if b then "true".toList else "false".toList) ++ behind := by
        rw [heq, skipAsciiBlanks_append hbefore]
        cases b with
        | true => rfl
        | false => rfl
      have hread : readValue? (2 * text.length + 3) text.toList =
          some (.flag b, skipAsciiBlanks behind) := readValue?_truth hskip
      rw [skipAsciiBlanks_eq_nil_iff.mpr hbehind] at hread
      rw [ofVariable_of_readValue? hread]
      exact nofun
  | opened hc hskip hread =>
      rw [ofVariable_of_readValue? hread]
      intro hs
      have hshorter := length_lt_of_readValue?_opened hc hskip hread hs
      rw [String.length_toList] at hshorter
      exact absurd hshorter (Nat.lt_irrefl _)
  | numeral hstart hwhole hnumeral =>
      rw [ofVariable_of_readValue? (readValue?_of_whole hstart hwhole),
        text?_plainValue_of_isNumeral hnumeral]
      exact nofun
  | blank hstart hwhole htrim =>
      rw [ofVariable_of_readValue? (readValue?_of_whole hstart hwhole)]
      by_cases hnumeral : IsNumeral (Text.trim text.toList)
      · rw [text?_plainValue_of_isNumeral hnumeral]
        exact nofun
      · rw [plainValue_of_not_isNumeral hnumeral]
        intro hs
        have hsame := congrArg String.toList (Option.some.inj hs)
        rw [String.toList_ofList] at hsame
        exact htrim hsame

/-- Any other text is taken for itself. -/
theorem ofVariable_of_not_reinterpreted {text : String} (h : ¬Reinterpreted text) :
    Value.ofVariable text = .text text := by
  by_cases hread : ∃ v, readValue? (2 * text.length + 3) text.toList = some (v, [])
  · obtain ⟨v, hread⟩ := hread
    by_cases hstart : StartsForm (skipAsciiBlanks text.toList)
    · exfalso
      apply h
      generalize hskip : skipAsciiBlanks text.toList = start at hstart
      cases hstart with
      | truth b rest =>
          rw [readValue?_truth hskip, Option.some.injEq, Prod.mk.injEq] at hread
          obtain ⟨blanks, hblanks, heq⟩ := exists_blanks_skipAsciiBlanks text.toList
          exact .truth b hblanks (skipAsciiBlanks_eq_nil_iff.mp hread.2) (heq.trans (by rw [hskip]))
      | opened hc rest => exact .opened hc hskip hread
    · have hwhole := whole_of_readValue? hstart hread
      have hnumeral : ¬IsNumeral (Text.trim text.toList) := fun hn => h (.numeral hstart hwhole hn)
      have htrim : Text.trim text.toList = text.toList :=
        not_ne_iff.mp fun hne => h (.blank hstart hwhole hne)
      rw [ofVariable_of_readValue? (readValue?_of_whole hstart hwhole),
        plainValue_of_not_isNumeral hnumeral, htrim, String.ofList_toList]
  · exact ofVariable_of_unread fun v hv => hread ⟨v, hv⟩

end Settings
end FormulaMap
