import FormulaMap.Proofs.Json.WrittenIntegers
import FormulaMap.Proofs.Json.WrittenStrings

/-!
# Written objects are read back

An object of scalars is read back from its compact form: the strings through their escapes, the
numbers as far as they are read back on their own.  What is read in an object is in turn in the
range of the numbers that are.
-/

namespace FormulaMap
namespace Json

/-! ## Single values -/

/-- Read back from the front of every text that cannot go on a number. -/
def ReadBack (v : Value) : Prop :=
  ∀ fuel depth rest, EndsNumber rest →
    readValue (fuel + 1) depth (v.compactChars ++ rest) = .ok (v, rest)

theorem skipBlanks_cons {c : Char} {rest : List Char} (hc : isJsonBlank c = false) :
    skipBlanks (c :: rest) = c :: rest := by
  simp [skipBlanks, hc]

theorem readBack_null : ReadBack .null := by
  intro fuel depth rest _
  rfl

theorem readBack_string (s : String) : ReadBack (.string s) := by
  intro fuel depth rest _
  have hwritten : (Value.string s).compactChars ++ rest =
      '"' :: (s.toList.flatMap escape ++ '"' :: rest) := by
    simp [Value.compactChars, quote]
  rw [hwritten, readValue, skipBlanks_cons (by decide)]
  simp only
  rw [if_neg (by decide), if_neg (by decide), if_neg (by decide), if_neg (by decide),
    if_pos (by decide), readString_flatMap_escape]
  simp [bind, Except.bind, String.ofList_toList]

/-- The text of a number starts with its sign or with a digit. -/
theorem exists_cons_of_readSigned {cs rest : List Char} {n : Number}
    (h : readSigned cs = .ok (n, rest)) :
    ∃ c more, cs = c :: more ∧ (c = '-' ∨ Text.isAsciiDigit c = true) := by
  cases cs with
  | nil => cases h
  | cons c more =>
      refine ⟨c, more, rfl, ?_⟩
      by_cases hminus : c = '-'
      · exact .inl hminus
      · right
        have hunsigned : readSigned (c :: more) = readNumber false (c :: more) := by
          unfold readSigned
          split
          · next heq => exact absurd (List.cons.inj heq).1 hminus
          · rfl
        rw [hunsigned] at h
        simp only [readNumber] at h
        by_cases hzero : (c == '0') = true
        · rw [beq_iff_eq] at hzero
          subst hzero
          rfl
        · rw [if_neg hzero] at h
          by_cases hdigit : Text.isAsciiDigit c = true
          · exact hdigit
          · rw [if_neg hdigit] at h
            cases h

/-- What a number starts with is nothing that starts none. -/
theorem ne_of_starts_number {c x : Char} (hc : c = '-' ∨ Text.isAsciiDigit c = true)
    (hx : (x == '-' || Text.isAsciiDigit x) = false) : ¬(c == x) = true := by
  intro heq
  rw [beq_iff_eq] at heq
  subst heq
  rw [Bool.or_eq_false_iff, beq_eq_false_iff_ne] at hx
  rcases hc with hminus | hdigit
  · exact hx.1 hminus
  · rw [hx.2] at hdigit
    cases hdigit

theorem ne_of_readSigned {c x : Char} {more rest : List Char} {n : Number}
    (h : readSigned (c :: more) = .ok (n, rest)) (hx : (x == '-' || Text.isAsciiDigit x) = false) :
    c ≠ x := by
  obtain ⟨d, others, hcons, hd⟩ := exists_cons_of_readSigned h
  obtain ⟨rfl, rfl⟩ := List.cons.inj hcons
  exact fun heq => ne_of_starts_number hd hx (beq_iff_eq.mpr heq)

theorem readValue_number {fuel depth : Nat} {cs rest : List Char} {n : Number}
    (h : readSigned cs = .ok (n, rest)) :
    readValue (fuel + 1) depth cs = .ok (.number n, rest) := by
  obtain ⟨c, more, rfl, hc⟩ := exists_cons_of_readSigned h
  have hstart : (c == '-' || Text.isAsciiDigit c) = true := by simpa using hc
  have hblank : isJsonBlank c = false := by
    simp only [isJsonBlank]
    rw [eq_false_of_ne_true (ne_of_starts_number hc (x := ' ') rfl),
      eq_false_of_ne_true (ne_of_starts_number hc (x := '\n') rfl),
      eq_false_of_ne_true (ne_of_starts_number hc (x := '\t') rfl),
      eq_false_of_ne_true (ne_of_starts_number hc (x := '\r') rfl)]
    rfl
  rw [readValue, skipBlanks_cons hblank]
  simp only
  rw [if_neg (ne_of_starts_number hc rfl), if_neg (ne_of_starts_number hc rfl),
    if_neg (ne_of_starts_number hc rfl), if_pos hstart, h]
  rfl

/-- A text that is a number by itself is read as that number in front of every text that cannot go
on a number. -/
theorem readValue_of_numberOf? {cs : List Char} {n : Number} (h : numberOf? cs = some n)
    (fuel depth : Nat) {rest : List Char} (hrest : EndsNumber rest) :
    readValue (fuel + 1) depth (cs ++ rest) = .ok (.number n, rest) := by
  rw [numberOf?_eq_some] at h
  exact readValue_number (readSigned_append h fun _ => hrest)

theorem readBack_number {n : Number} (h : numberOf? n.chars = some n) : ReadBack (.number n) :=
  fun fuel depth _ hrest => readValue_of_numberOf? h fuel depth hrest

/-! ## Members -/

/-- A member of an object: its key, the text of its value, and the value. -/
structure WrittenMember where
  key : String
  written : List Char
  value : Value

namespace WrittenMember

/-- The key and the value of a member. -/
def entry (m : WrittenMember) : String × Value := (m.key, m.value)

/-- Whether the text of the value is read as the value. -/
def Reads (m : WrittenMember) : Prop :=
  ∀ fuel depth rest, EndsNumber rest →
    readValue (fuel + 1) depth (m.written ++ rest) = .ok (m.value, rest)

/-- A member in compact form. -/
def compact (e : String × Value) : WrittenMember := ⟨e.1, e.2.compactChars, e.2⟩

/-- A member with a number as it is written. -/
def bare (key : String) (cs : List Char) (n : Number) : WrittenMember := ⟨key, cs, .number n⟩

/-- A member with a text in quotes. -/
def quoted (key : String) (cs : List Char) : WrittenMember :=
  ⟨key, quote cs, .string (String.ofList cs)⟩

theorem reads_bare {cs : List Char} {n : Number} (h : numberOf? cs = some n) (key : String) :
    (bare key cs n).Reads :=
  fun fuel depth _ hrest => readValue_of_numberOf? h fuel depth hrest

theorem reads_quoted (key : String) (cs : List Char) : (quoted key cs).Reads := by
  have hback := readBack_string (String.ofList cs)
  rw [ReadBack, Value.compactChars, String.toList_ofList] at hback
  exact hback

end WrittenMember

/-- What stands behind a member of an object: the other members and the closing brace. -/
def membersBehind : List WrittenMember → List Char
  | [] => ['\x7d']
  | m :: ms => ',' :: (quote m.key.toList ++ ':' :: (m.written ++ membersBehind ms))

/-- What stands behind the opening brace of an object. -/
def membersText : List WrittenMember → List Char
  | [] => ['\x7d']
  | m :: ms => quote m.key.toList ++ ':' :: (m.written ++ membersBehind ms)

theorem endsNumber_membersBehind (ms : List WrittenMember) (rest : List Char) :
    EndsNumber (membersBehind ms ++ rest) := by
  cases ms with
  | nil => exact endsNumber_cons rfl (by decide) (by decide) (by decide)
  | cons m ms => exact endsNumber_cons rfl (by decide) (by decide) (by decide)

/-- The members of an object as they stand behind its brace, or behind an earlier member. -/
def membersAt (first : Bool) (ms : List WrittenMember) : List Char :=
  if first then membersText ms else membersBehind ms

theorem nextKey_membersAt_nil (first : Bool) (rest : List Char) :
    nextKey first (membersAt first [] ++ rest) = .ok (false, '\x7d' :: rest) := by
  cases first <;> rfl

theorem nextKey_membersAt_cons (first : Bool) (m : WrittenMember) (ms : List WrittenMember)
    (rest : List Char) :
    nextKey first (membersAt first (m :: ms) ++ rest) =
      .ok (true, m.key.toList.flatMap escape ++
        '"' :: ':' :: (m.written ++ (membersBehind ms ++ rest))) := by
  have hquote : ∀ more : List Char, nextKey true ('"' :: more) = .ok (true, more) :=
    fun _ => rfl
  have hcomma : ∀ more : List Char, nextKey false (',' :: '"' :: more) = .ok (true, more) :=
    fun _ => rfl
  cases first with
  | true =>
      have hshape : membersAt true (m :: ms) =
          '"' :: (m.key.toList.flatMap escape ++
            '"' :: ':' :: (m.written ++ membersBehind ms)) := by
        simp [membersAt, membersText, quote]
      rw [hshape, List.cons_append, hquote]
      simp
  | false =>
      have hshape : membersAt false (m :: ms) =
          ',' :: '"' :: (m.key.toList.flatMap escape ++
            '"' :: ':' :: (m.written ++ membersBehind ms)) := by
        simp [membersAt, membersBehind, quote]
      rw [hshape, List.cons_append, List.cons_append, hcomma]
      simp

/-- Members are read in their order; every one takes a step of fuel. -/
theorem readMembers_membersAt {ms : List WrittenMember} {fuel depth : Nat} {first : Bool}
    {rest : List Char} (hms : ∀ m ∈ ms, m.Reads) (hfuel : ms.length < fuel) :
    readMembers fuel depth first (membersAt first ms ++ rest) = .ok (ms.map (·.entry), rest) := by
  induction ms generalizing fuel first with
  | nil =>
      obtain ⟨fuel, rfl⟩ := Nat.exists_eq_add_of_lt hfuel
      rw [List.length_nil, Nat.zero_add, readMembers, nextKey_membersAt_nil]
      rfl
  | cons m ms ih =>
      obtain ⟨fuel, rfl⟩ : ∃ left, fuel = left + 1 + 1 := by
        rw [List.length_cons] at hfuel
        exact ⟨fuel - 2, by omega⟩
      have hvalue := hms m List.mem_cons_self fuel depth (membersBehind ms ++ rest)
        (endsNumber_membersBehind ms rest)
      have hbehind : readMembers (fuel + 1) depth false (membersBehind ms ++ rest) =
          .ok (ms.map (·.entry), rest) := by
        apply ih fun m hm => hms m (List.mem_cons_of_mem _ hm)
        rw [List.length_cons] at hfuel
        omega
      rw [readMembers, nextKey_membersAt_cons]
      simp only [bind, Except.bind]
      rw [if_pos trivial, readString_flatMap_escape]
      simp only [readColon]
      rw [skipBlanks_cons (by decide)]
      simp only
      rw [hvalue]
      simp only
      rw [hbehind]
      simp only
      rw [String.ofList_toList]
      rfl

theorem length_lt_length_membersText (ms : List WrittenMember) :
    ms.length < (membersText ms).length := by
  have hbehind : ∀ ms : List WrittenMember, ms.length < (membersBehind ms).length := by
    intro ms
    induction ms with
    | nil => exact Nat.zero_lt_one
    | cons m ms ih =>
        simp only [membersBehind, List.length_cons, List.length_append]
        omega
  cases ms with
  | nil => exact Nat.zero_lt_one
  | cons m ms =>
      have hlength := hbehind ms
      simp only [membersText, List.length_cons, List.length_append]
      omega

/-- An object of values that are read is read from behind its opening brace. -/
theorem readMembers_membersText {ms : List WrittenMember} {depth : Nat}
    (hms : ∀ m ∈ ms, m.Reads) :
    readMembers (enoughFuel (membersText ms)) depth true (membersText ms) =
      .ok (ms.map (·.entry), []) := by
  have hfuel : ms.length < enoughFuel (membersText ms) := by
    have hlength := length_lt_length_membersText ms
    rw [enoughFuel]
    omega
  have hread : readMembers (enoughFuel (membersText ms)) depth true (membersAt true ms ++ []) =
      .ok (ms.map (·.entry), []) := readMembers_membersAt hms hfuel
  rw [List.append_nil] at hread
  exact hread

theorem compactMembers_eq (ms : List (String × Value)) :
    Value.compactMembers ms = membersText (ms.map WrittenMember.compact) := by
  cases ms with
  | nil => rfl
  | cons e ms =>
      induction ms generalizing e with
      | nil => simp [Value.compactMembers, membersText, membersBehind, WrittenMember.compact]
      | cons next more ih =>
          rw [Value.compactMembers, ih next]
          · simp [membersText, membersBehind, WrittenMember.compact]
          · exact List.cons_ne_nil _ _

/-- The members of an object end with its closing brace. -/
theorem exists_membersText_eq_append (ms : List WrittenMember) :
    ∃ inside, membersText ms = inside ++ ['\x7d'] := by
  have hbehind : ∀ ms : List WrittenMember, ∃ inside, membersBehind ms = inside ++ ['\x7d'] := by
    intro ms
    induction ms with
    | nil => exact ⟨[], rfl⟩
    | cons m ms ih =>
        obtain ⟨inside, hinside⟩ := ih
        exact ⟨',' :: (quote m.key.toList ++ ':' :: (m.written ++ inside)), by
          simp [membersBehind, hinside]⟩
  cases ms with
  | nil => exact ⟨[], rfl⟩
  | cons m ms =>
      obtain ⟨inside, hinside⟩ := hbehind ms
      exact ⟨quote m.key.toList ++ ':' :: (m.written ++ inside), by simp [membersText, hinside]⟩

theorem exists_compactMembers_eq_append (ms : List (String × Value)) :
    ∃ inside, Value.compactMembers ms = inside ++ ['\x7d'] := by
  rw [compactMembers_eq]
  exact exists_membersText_eq_append _

theorem reads_compact {ms : List (String × Value)} (hms : ∀ m ∈ ms, ReadBack m.2) :
    ∀ m ∈ ms.map WrittenMember.compact, m.Reads := by
  intro m hm
  obtain ⟨e, he, rfl⟩ := List.mem_map.mp hm
  exact hms e he

theorem map_entry_compact (ms : List (String × Value)) :
    (ms.map WrittenMember.compact).map (·.entry) = ms := by
  rw [List.map_map]
  exact List.map_id _

/-! ## What is read is in range -/

theorem exists_of_bind_eq_ok {ε α β : Type} {x : Except ε α} {f : α → Except ε β} {b : β}
    (h : x >>= f = .ok b) : ∃ a, x = .ok a ∧ f a = .ok b := by
  cases x with
  | error e => cases h
  | ok a => exact ⟨a, rfl, h⟩

theorem finish_eq_ok_iff {α : Type} {result : Except Fault (α × List Char)} {v : α} :
    finish result = .ok v ↔ ∃ rest, result = .ok (v, rest) ∧ skipBlanks rest = [] := by
  rw [finish]
  constructor
  · intro h
    obtain ⟨⟨found, rest⟩, hresult, h⟩ := exists_of_bind_eq_ok h
    simp only at h
    split at h
    · next hblank =>
        cases h
        exact ⟨rest, hresult, hblank⟩
    · cases h
  · rintro ⟨rest, rfl, hblank⟩
    simp only [bind, Except.bind, hblank]

/-- What a value that is read can start with, what it is then, and what is left behind it. -/
inductive ReadFrom (fuel depth : Nat) : Char → List Char → Value → List Char → Prop
  | null {more rest : List Char} (h : readWord "ull".toList more = .ok rest) :
      ReadFrom fuel depth 'n' more .null rest
  | yes {more rest : List Char} (h : readWord "rue".toList more = .ok rest) :
      ReadFrom fuel depth 't' more (.bool true) rest
  | no {more rest : List Char} (h : readWord "alse".toList more = .ok rest) :
      ReadFrom fuel depth 'f' more (.bool false) rest
  | number {c : Char} {more rest : List Char} {n : Number}
      (h : readSigned (c :: more) = .ok (n, rest)) : ReadFrom fuel depth c more (.number n) rest
  | string {more s rest : List Char} (h : readString 0 more = .ok (s, rest)) :
      ReadFrom fuel depth '"' more (.string (String.ofList s)) rest
  | array {more rest : List Char} {vs : List Value} (hdepth : 1 < depth)
      (h : readElements fuel (depth - 1) true more = .ok (vs, rest)) :
      ReadFrom fuel depth '[' more (.array vs) rest
  | object {more rest : List Char} {ms : List (String × Value)} (hdepth : 1 < depth)
      (h : readMembers fuel (depth - 1) true more = .ok (ms, rest)) :
      ReadFrom fuel depth '\x7b' more (.object ms) rest

theorem readValue_cases {fuel depth : Nat} {cs rest : List Char} {v : Value}
    (h : readValue (fuel + 1) depth cs = .ok (v, rest)) :
    ∃ c more, skipBlanks cs = c :: more ∧ ReadFrom fuel depth c more v rest := by
  rw [readValue] at h
  split at h
  · cases h
  · next c more heq =>
      refine ⟨c, more, heq, ?_⟩
      split at h
      · next hc =>
          obtain rfl := eq_of_beq hc
          obtain ⟨left, hword, h⟩ := exists_of_bind_eq_ok h
          cases h
          exact .null hword
      · split at h
        · next hc =>
            obtain rfl := eq_of_beq hc
            obtain ⟨left, hword, h⟩ := exists_of_bind_eq_ok h
            cases h
            exact .yes hword
        · split at h
          · next hc =>
              obtain rfl := eq_of_beq hc
              obtain ⟨left, hword, h⟩ := exists_of_bind_eq_ok h
              cases h
              exact .no hword
          · split at h
            · obtain ⟨⟨n, left⟩, hnumber, h⟩ := exists_of_bind_eq_ok h
              cases h
              exact .number hnumber
            · split at h
              · next hc =>
                  obtain rfl := eq_of_beq hc
                  obtain ⟨⟨s, left⟩, hstring, h⟩ := exists_of_bind_eq_ok h
                  cases h
                  exact .string hstring
              · split at h
                · next hc =>
                    obtain rfl := eq_of_beq hc
                    split at h
                    · cases h
                    · next hdepth =>
                        obtain ⟨⟨vs, left⟩, helements, h⟩ := exists_of_bind_eq_ok h
                        cases h
                        exact .array (Nat.lt_of_not_le hdepth) helements
                · split at h
                  · next hc =>
                      obtain rfl := eq_of_beq hc
                      split at h
                      · cases h
                      · next hdepth =>
                          obtain ⟨⟨ms, left⟩, hmembers, h⟩ := exists_of_bind_eq_ok h
                          cases h
                          exact .object (Nat.lt_of_not_le hdepth) hmembers
                  · cases h

theorem readValue_cases_of_enough {depth : Nat} {cs rest : List Char} {v : Value}
    (h : readValue (enoughFuel cs) depth cs = .ok (v, rest)) :
    ∃ c more, skipBlanks cs = c :: more ∧ ReadFrom (2 * cs.length + 3) depth c more v rest :=
  readValue_cases h

theorem ranged_of_readValue {fuel depth : Nat} {cs rest : List Char} {n : Number}
    (h : readValue fuel depth cs = .ok (.number n, rest)) : n.Ranged := by
  cases fuel with
  | zero =>
      rw [readValue] at h
      cases h
  | succ fuel =>
      obtain ⟨c, more, -, hfrom⟩ := readValue_cases h
      cases hfrom with
      | number hnumber => exact ranged_of_readSigned hnumber

/-- Every number that is read as the value of a member is in range. -/
theorem ranged_of_readMembers {fuel depth : Nat} {first : Bool} {cs rest : List Char}
    {ms : List (String × Value)} (h : readMembers fuel depth first cs = .ok (ms, rest))
    {key : String} {n : Number} (hmem : (key, .number n) ∈ ms) : n.Ranged := by
  induction fuel generalizing first cs ms rest with
  | zero =>
      rw [readMembers] at h
      cases h
  | succ fuel ih =>
      rw [readMembers] at h
      obtain ⟨⟨more, behind⟩, _, h⟩ := exists_of_bind_eq_ok h
      cases more with
      | false =>
          cases h
          cases hmem
      | true =>
          simp only [if_true] at h
          obtain ⟨⟨name, behind⟩, _, h⟩ := exists_of_bind_eq_ok h
          obtain ⟨behind, _, h⟩ := exists_of_bind_eq_ok h
          obtain ⟨⟨v, behind⟩, hvalue, h⟩ := exists_of_bind_eq_ok h
          obtain ⟨⟨others, behind⟩, hothers, h⟩ := exists_of_bind_eq_ok h
          cases h
          rw [List.mem_cons, Prod.mk.injEq] at hmem
          rcases hmem with ⟨_, rfl⟩ | hmem
          · exact ranged_of_readValue hvalue
          · exact ih hothers hmem

end Json
end FormulaMap
