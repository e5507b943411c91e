import FormulaMap.Json.Typed
import FormulaMap.Proofs.Json.Passing

/-!
# Typed reading follows the values

A document that is read straight into a type and one that is read as a value first agree: wherever a
value stands, a typed reader gives what the value means for its type, up to the same place, or a
fault if the value means nothing.  Members that a structure does not know are passed over, whatever
they hold, and make no difference.
-/

namespace FormulaMap
namespace Json

variable {α σ : Type}

/-- What a reader gives where a value stands: what the value means and the text behind it, or a
fault. -/
def Gives (result : Except Fault (α × List Char)) (rest : List Char) : Option α → Prop
  | some a => result = .ok (a, rest)
  | none => ∃ e, result = .error e

/-- A reader gives what values mean, wherever they stand. -/
def Follows (reader : Reader α) (meaning : Value → Option α) : Prop :=
  ∀ depth cs v rest, readValue (enoughFuel cs) depth cs = .ok (v, rest) →
    Gives (reader depth cs) rest (meaning v)

theorem gives_map {β : Type} {result : Except Fault (α × List Char)} {rest : List Char}
    {found : Option α} (h : Gives result rest found) (f : α → β) :
    Gives (result.map fun p => (f p.1, p.2)) rest (found.map f) := by
  cases found with
  | some a =>
      obtain rfl : result = .ok (a, rest) := h
      rfl
  | none =>
      obtain ⟨e, rfl⟩ := h
      exact ⟨e, rfl⟩

theorem readValue_of_enough {fuel depth : Nat} {cs : List Char} (h : 2 * cs.length < fuel) :
    readValue fuel depth cs = readValue (enoughFuel cs) depth cs :=
  (readers_with_enough_fuel fuel).1 (enoughFuel cs) depth cs h (by rw [enoughFuel]; omega)

theorem readValue_skipBlanks {depth : Nat} {cs : List Char} :
    readValue (enoughFuel (skipBlanks cs)) depth (skipBlanks cs) =
      readValue (enoughFuel cs) depth cs := by
  have hle := length_skipBlanks_le cs
  have hfuel : enoughFuel cs = 2 * cs.length + 3 + 1 := rfl
  rw [← @readValue_of_enough (enoughFuel cs) depth _ (by omega), hfuel, readValue, readValue,
    skipBlanks_skipBlanks]

/-! ## What stands in a container -/

/-- The elements of a list that stand behind its bracket or an earlier element. -/
inductive ElementsRead (depth : Nat) : Bool → List Char → List Value → List Char → Prop
  | nil {first : Bool} {cs rest : List Char} (h : nextElement first cs = .ok (false, rest)) :
      ElementsRead depth first cs [] rest
  | cons {first : Bool} {cs behind left rest : List Char} {v : Value} {vs : List Value}
      (h : nextElement first cs = .ok (true, behind))
      (hv : readValue (enoughFuel behind) depth behind = .ok (v, left))
      (hvs : ElementsRead depth false left vs rest) : ElementsRead depth first cs (v :: vs) rest

theorem elementsRead_of_readElements {fuel depth : Nat} {first : Bool} {cs rest : List Char}
    {vs : List Value} (hfuel : 2 * cs.length + 1 < fuel)
    (h : readElements fuel depth first cs = .ok (vs, rest)) :
    ElementsRead depth first cs vs rest := by
  induction fuel generalizing first cs vs with
  | zero => omega
  | succ fuel ih =>
      rw [readElements] at h
      obtain ⟨⟨more, behind⟩, hnext, h⟩ := exists_of_bind_eq_ok h
      have hbehind := (length_le_of_nextElement hnext).1
      cases more with
      | false =>
          cases h
          exact .nil hnext
      | true =>
          simp only [if_true] at h
          obtain ⟨⟨v, left⟩, hvalue, h⟩ := exists_of_bind_eq_ok h
          obtain ⟨⟨others, last⟩, hothers, h⟩ := exists_of_bind_eq_ok h
          cases h
          have hleft : left.length < behind.length := length_lt_of_readValue hvalue
          rw [readValue_of_enough (by omega)] at hvalue
          have hothers : readElements fuel depth false left = .ok (others, last) := hothers
          exact .cons hnext hvalue (ih (by omega) hothers)

/-- The members of an object that stand behind its brace or an earlier member, up to the closing
brace. -/
inductive MembersRead (depth : Nat) : Bool → List Char → List (String × Value) → List Char → Prop
  | nil {first : Bool} {cs rest : List Char} (h : nextKey first cs = .ok (false, rest)) :
      MembersRead depth first cs [] rest
  | cons {first : Bool} {cs behind key afterKey colon left rest : List Char} {v : Value}
      {ms : List (String × Value)} (h : nextKey first cs = .ok (true, behind))
      (hkey : readString 0 behind = .ok (key, afterKey)) (hcolon : readColon afterKey = .ok colon)
      (hv : readValue (enoughFuel colon) depth colon = .ok (v, left))
      (hms : MembersRead depth false left ms rest) :
      MembersRead depth first cs ((String.ofList key, v) :: ms) rest

theorem exists_membersRead_of_readMembers {fuel depth : Nat} {first : Bool} {cs rest : List Char}
    {ms : List (String × Value)} (hfuel : 2 * cs.length + 1 < fuel)
    (h : readMembers fuel depth first cs = .ok (ms, rest)) :
    ∃ brace, MembersRead depth first cs ms brace ∧ rest = brace.drop 1 := by
  induction fuel generalizing first cs ms with
  | zero => omega
  | succ fuel ih =>
      rw [readMembers] at h
      obtain ⟨⟨more, behind⟩, hnext, h⟩ := exists_of_bind_eq_ok h
      have hbehind := (length_le_of_nextKey hnext).1
      cases more with
      | false =>
          cases h
          exact ⟨behind, .nil hnext, rfl⟩
      | true =>
          simp only [if_true] at h
          obtain ⟨⟨key, afterKey⟩, hkey, h⟩ := exists_of_bind_eq_ok h
          obtain ⟨colon, hcolon, h⟩ := exists_of_bind_eq_ok h
          obtain ⟨⟨v, left⟩, hvalue, h⟩ := exists_of_bind_eq_ok h
          obtain ⟨⟨others, last⟩, hothers, h⟩ := exists_of_bind_eq_ok h
          cases h
          have hkeylt : afterKey.length < behind.length := length_lt_of_readString hkey
          have hcolonlt : colon.length < afterKey.length := length_lt_of_readColon hcolon
          have hleft : left.length < colon.length := length_lt_of_readValue hvalue
          have hothers : readMembers fuel depth false left = .ok (others, last) := hothers
          rw [readValue_of_enough (by omega)] at hvalue
          obtain ⟨brace, hbrace, rfl⟩ := ih (by omega) hothers
          exact ⟨brace, .cons hnext hkey hcolon hvalue hbrace, rfl⟩

/-! ## Texts, options and lists -/

/-- The text that a value is. -/
def Value.text? : Value → Option String
  | .string s => some s
  | _ => none

theorem exists_error_readText {depth : Nat} {cs more : List Char} {c : Char}
    (heq : skipBlanks cs = c :: more) (hc : c ≠ '"') : ∃ e, readText depth cs = .error e := by
  rw [readText, heq]
  split
  · exact ⟨_, rfl⟩
  · next hquote => exact absurd (List.cons.inj hquote).1 hc
  · exact ⟨_, rfl⟩

theorem follows_readText : Follows readText Value.text? := by
  intro depth cs v rest h
  obtain ⟨c, more, heq, hfrom⟩ := readValue_cases_of_enough h
  cases hfrom with
  | null _ => exact exists_error_readText heq (by decide)
  | yes _ => exact exists_error_readText heq (by decide)
  | no _ => exact exists_error_readText heq (by decide)
  | number hnumber => exact exists_error_readText heq (ne_of_readSigned hnumber rfl)
  | string hstring =>
      change readText depth cs = .ok (_, rest)
      rw [readText, heq]
      simp only [hstring]
      rfl
  | array _ _ => exact exists_error_readText heq (by decide)
  | object _ _ => exact exists_error_readText heq (by decide)

/-- What a value means where `null` stands for nothing. -/
def Value.optional? (meaning : Value → Option α) : Value → Option (Option α)
  | .null => some none
  | v => (meaning v).map some

theorem readOptional_of_ne {reader : Reader α} {depth : Nat} {cs more : List Char} {c : Char}
    (heq : skipBlanks cs = c :: more) (hc : c ≠ 'n') :
    readOptional reader depth cs =
      (reader depth (skipBlanks cs)).map fun p => (some p.1, p.2) := by
  rw [readOptional, heq]
  split
  · next hn => exact absurd (List.cons.inj hn).1 hc
  · cases reader depth (c :: more) with
    | error e => rfl
    | ok found => rfl

theorem follows_readOptional {reader : Reader α} {meaning : Value → Option α}
    (hreader : Follows reader meaning) :
    Follows (readOptional reader) (Value.optional? meaning) := by
  intro depth cs v rest h
  have hinner : Gives (reader depth (skipBlanks cs)) rest (meaning v) :=
    hreader depth (skipBlanks cs) v rest (readValue_skipBlanks.trans h)
  have hother : ∀ {c : Char} {more : List Char}, skipBlanks cs = c :: more → c ≠ 'n' →
      v ≠ .null → Gives (readOptional reader depth cs) rest (Value.optional? meaning v) := by
    intro c more heq hc hv
    have hmeaning : Value.optional? meaning v = (meaning v).map some := by
      cases v with
      | null => exact absurd rfl hv
      | _ => rfl
    rw [readOptional_of_ne heq hc, hmeaning]
    exact gives_map hinner some
  obtain ⟨c, more, heq, hfrom⟩ := readValue_cases_of_enough h
  cases hfrom with
  | null hword =>
      change readOptional reader depth cs = .ok (none, rest)
      rw [readOptional, heq]
      simp only [hword]
      rfl
  | yes _ => exact hother heq (by decide) nofun
  | no _ => exact hother heq (by decide) nofun
  | number hnumber => exact hother heq (ne_of_readSigned hnumber rfl) nofun
  | string _ => exact hother heq (by decide) nofun
  | array _ _ => exact hother heq (by decide) nofun
  | object _ _ => exact hother heq (by decide) nofun

/-- What a list means whose elements all mean something. -/
def Value.list? (meaning : Value → Option α) : Value → Option (List α)
  | .array vs => vs.mapM meaning
  | _ => none

/-- What is read first and what is read behind it are read one after the other. -/
theorem gives_bind {β : Type} {result : Except Fault (α × List Char)} {left rest : List Char}
    {found : Option α} {next : α × List Char → Except Fault (β × List Char)} {then_ : α → Option β}
    (h : Gives result left found) (hnext : ∀ a, Gives (next (a, left)) rest (then_ a)) :
    Gives (result >>= next) rest (found.bind then_) := by
  cases found with
  | some a =>
      obtain rfl : result = .ok (a, left) := h
      exact hnext a
  | none =>
      obtain ⟨e, rfl⟩ := h
      exact ⟨e, rfl⟩

theorem gives_readItems {item : Reader α} {meaning : Value → Option α}
    (hitem : Follows item meaning) {depth fuel : Nat} {first : Bool} {cs rest : List Char}
    {vs : List Value} (h : ElementsRead depth first cs vs rest) (hfuel : cs.length < fuel) :
    Gives (readItems item depth fuel first cs) rest (vs.mapM meaning) := by
  induction h generalizing fuel with
  | nil hnext =>
      obtain ⟨fuel, rfl⟩ := Nat.exists_eq_add_of_lt hfuel
      change readItems item depth _ _ _ = .ok ([], _)
      rw [readItems, hnext]
      rfl
  | @cons first cs behind left rest v vs hnext hv hvs ih =>
      obtain ⟨fuel, rfl⟩ : ∃ more, fuel = more + 1 := ⟨fuel - 1, by omega⟩
      have hbehind := (length_le_of_nextElement hnext).1
      have hleft := length_lt_of_readValue hv
      have hrest := @ih fuel (by omega)
      rw [readItems, hnext, List.mapM_cons]
      refine gives_bind (hitem depth behind v left hv) fun a => ?_
      exact gives_bind hrest fun others => rfl

theorem follows_readList {item : Reader α} {meaning : Value → Option α}
    (hitem : Follows item meaning) : Follows (readList item) (Value.list? meaning) := by
  intro depth cs v rest h
  have hother : ∀ {c : Char} {more : List Char}, skipBlanks cs = c :: more → c ≠ '[' →
      ∃ e, readList item depth cs = .error e := by
    intro c more heq hc
    rw [readList, heq]
    split
    · exact ⟨_, rfl⟩
    · next hbracket => exact absurd (List.cons.inj hbracket).1 hc
    · exact ⟨_, rfl⟩
  obtain ⟨c, more, heq, hfrom⟩ := readValue_cases_of_enough h
  cases hfrom with
  | null _ => exact hother heq (by decide)
  | yes _ => exact hother heq (by decide)
  | no _ => exact hother heq (by decide)
  | number hnumber => exact hother heq (ne_of_readSigned hnumber rfl)
  | string _ => exact hother heq (by decide)
  | array hdepth helements =>
      have hmore := length_lt_of_skipBlanks heq
      have hread := elementsRead_of_readElements (by omega) helements
      rw [readList, heq]
      simp only
      rw [if_neg (Nat.not_le.mpr hdepth)]
      exact gives_readItems hitem hread (Nat.lt_succ_self _)
  | object _ _ => exact hother heq (by decide)

/-! ## Structures with one field -/

/-- The value of the only member with some key: none if there is no such member, and not defined if
there are several. -/
def soleIn? (name : String) (ms : List (String × Value)) : Option (Option Value) :=
  match ms.filter fun m => m.1 = name with
  | [] => some none
  | [m] => some (some m.2)
  | _ => none

/-- What a value says about the only field of a structure.  An object says it by its key, among
other members that do not count, and a list by its only element. -/
def Value.sole? (name : String) : Value → Option (Option Value)
  | .object ms => soleIn? name ms
  | .array [] => some none
  | .array [v] => some (some v)
  | _ => none

/-- The structure that a value means, given what the value of its only field means. -/
def Shape.sole? (shape : Shape σ) (field : Field σ) (meaning : Value → Option (σ → σ))
    (v : Value) : Option σ :=
  (v.sole? field.name).bind fun
    | some w => (meaning w).map fun change => change shape.initial
    | none => if field.required then none else some shape.initial

theorem soleIn?_cons_of_ne {name : String} {m : String × Value} (h : m.1 ≠ name)
    (ms : List (String × Value)) : soleIn? name (m :: ms) = soleIn? name ms := by
  rw [soleIn?, List.filter_cons_of_neg (by simpa using h), soleIn?]

theorem soleIn?_cons_self (m : String × Value) (ms : List (String × Value)) :
    soleIn? m.1 (m :: ms) = if ms.any fun e => e.1 = m.1 then none else some (some m.2) := by
  rw [soleIn?, List.filter_cons_of_pos (by simp)]
  cases hany : ms.any fun e => e.1 = m.1 with
  | false =>
      have hnone : ms.filter (fun e => e.1 = m.1) = [] := by
        simpa [List.filter_eq_nil_iff] using hany
      rw [hnone]
      rfl
  | true =>
      obtain ⟨e, he, hkey⟩ := List.any_eq_true.mp hany
      have hmem : e ∈ ms.filter fun e => e.1 = m.1 := List.mem_filter.mpr ⟨he, hkey⟩
      obtain ⟨other, others, hothers⟩ := List.exists_cons_of_ne_nil (List.ne_nil_of_mem hmem)
      rw [hothers]
      rfl

section OneField

variable {shape : Shape σ} {field : Field σ} {meaning : Value → Option (σ → σ)}

/-- A key that is not the only field is passed over with its value. -/
theorem readMembers_unknown (hfields : shape.fields = [field]) {depth fuel : Nat} {first : Bool}
    {seen : List String} {s : σ} {cs behind key afterKey colon left : List Char} {v : Value}
    (h : nextKey first cs = .ok (true, behind))
    (hkey : readString 0 behind = .ok (key, afterKey)) (hcolon : readColon afterKey = .ok colon)
    (hv : readValue (enoughFuel colon) depth colon = .ok (v, left))
    (hname : String.ofList key ≠ field.name) :
    shape.readMembers depth (fuel + 1) first seen s cs =
      shape.readMembers depth fuel false seen s left := by
  have hfind : shape.fields.find? (fun f => f.name == String.ofList key) = none := by
    rw [hfields]
    simpa using Ne.symm hname
  rw [Shape.readMembers, h]
  simp only [bind, Except.bind, if_true, hkey, hfind, hcolon, passValue_of_readValue hv]

/-- The only field is read where its key stands, once. -/
theorem readMembers_known (hfields : shape.fields = [field]) {depth fuel : Nat} {first : Bool}
    {s : σ} {cs behind key afterKey colon : List Char}
    (h : nextKey first cs = .ok (true, behind))
    (hkey : readString 0 behind = .ok (key, afterKey)) (hcolon : readColon afterKey = .ok colon)
    (hname : String.ofList key = field.name) :
    shape.readMembers depth (fuel + 1) first [] s cs =
        (field.read depth colon >>= fun p =>
          shape.readMembers depth fuel false [field.name] (p.1 s) p.2) ∧
      ∃ e, shape.readMembers depth (fuel + 1) first [field.name] s cs = .error e := by
  have hfind : shape.fields.find? (fun f => f.name == String.ofList key) = some field := by
    rw [hfields]
    simp [hname]
  constructor
  · rw [Shape.readMembers, h]
    simp only [bind, Except.bind, if_true, hkey, hfind, hcolon]
    simp [hname]
  · rw [Shape.readMembers, h]
    simp only [bind, Except.bind, if_true, hkey, hfind]
    simp [hname]

theorem gives_readMembers_seen (hfields : shape.fields = [field]) {depth fuel : Nat}
    {first : Bool} {s : σ} {cs rest : List Char} {ms : List (String × Value)}
    (h : MembersRead depth first cs ms rest) (hfuel : cs.length < fuel) :
    Gives (shape.readMembers depth fuel first [field.name] s cs) rest
      (if ms.any fun e => e.1 = field.name then none else some (s, [field.name])) := by
  induction h generalizing fuel with
  | nil hnext =>
      obtain ⟨fuel, rfl⟩ : ∃ more, fuel = more + 1 := ⟨fuel - 1, by omega⟩
      change shape.readMembers depth _ _ _ _ _ = .ok _
      rw [Shape.readMembers, hnext]
      rfl
  | @cons first cs behind key afterKey colon left rest v ms hnext hkey hcolon hv hms ih =>
      obtain ⟨fuel, rfl⟩ : ∃ more, fuel = more + 1 := ⟨fuel - 1, by omega⟩
      have hbehind := (length_le_of_nextKey hnext).1
      have hkeylt := length_lt_of_readString hkey
      have hcolonlt := length_lt_of_readColon hcolon
      have hleft := length_lt_of_readValue hv
      rw [List.any_cons]
      by_cases hname : String.ofList key = field.name
      · rw [decide_eq_true hname, Bool.true_or, if_pos rfl]
        exact (readMembers_known hfields hnext hkey hcolon hname).2
      · rw [decide_eq_false hname, Bool.false_or,
          readMembers_unknown hfields hnext hkey hcolon hv hname]
        exact ih (by omega)

theorem gives_readMembers (hfields : shape.fields = [field]) (hfield : Follows field.read meaning)
    {depth fuel : Nat} {first : Bool} {s : σ} {cs rest : List Char} {ms : List (String × Value)}
    (h : MembersRead depth first cs ms rest) (hfuel : cs.length < fuel) :
    Gives (shape.readMembers depth fuel first [] s cs) rest
      ((soleIn? field.name ms).bind fun
        | some w => (meaning w).map fun change => (change s, [field.name])
        | none => some (s, [])) := by
  induction h generalizing fuel with
  | nil hnext =>
      obtain ⟨fuel, rfl⟩ : ∃ more, fuel = more + 1 := ⟨fuel - 1, by omega⟩
      change shape.readMembers depth _ _ _ _ _ = .ok _
      rw [Shape.readMembers, hnext]
      rfl
  | @cons first cs behind key afterKey colon left rest v ms hnext hkey hcolon hv hms ih =>
      obtain ⟨fuel, rfl⟩ : ∃ more, fuel = more + 1 := ⟨fuel - 1, by omega⟩
      have hbehind := (length_le_of_nextKey hnext).1
      have hkeylt := length_lt_of_readString hkey
      have hcolonlt := length_lt_of_readColon hcolon
      have hleft := length_lt_of_readValue hv
      by_cases hname : String.ofList key = field.name
      · have hbehind : ∀ change : σ → σ, Gives
            (shape.readMembers depth fuel false [field.name] (change s) left) rest
            (if ms.any fun e => e.1 = field.name then none else some (change s, [field.name])) :=
          fun _ => gives_readMembers_seen hfields hms (by omega)
        have hboth : Gives
            (field.read depth colon >>= fun p =>
              shape.readMembers depth fuel false [field.name] (p.1 s) p.2) rest
            ((meaning v).bind fun change =>
              if ms.any fun e => e.1 = field.name then none else some (change s, [field.name])) :=
          gives_bind (hfield depth colon v left hv) hbehind
        have hsole := soleIn?_cons_self (String.ofList key, v) ms
        simp only [hname] at hsole
        rw [(readMembers_known hfields hnext hkey hcolon hname).1, hname, hsole]
        cases hany : ms.any fun e => e.1 = field.name with
        | true =>
            simp only [hany, if_true, Option.bind_fun_none] at hboth
            exact hboth
        | false =>
            simp only [hany, Bool.false_eq_true, if_false] at hboth
            change Gives _ rest ((meaning v).map fun change => (change s, [field.name]))
            rw [Option.map_eq_bind]
            exact hboth
      · rw [readMembers_unknown hfields hnext hkey hcolon hv hname, soleIn?_cons_of_ne hname]
        exact ih (by omega)

theorem missing?_seen (hfields : shape.fields = [field]) :
    shape.missing? [field.name] = none := by
  rw [Shape.missing?, hfields]
  simp

theorem missing?_nil (hfields : shape.fields = [field]) :
    shape.missing? [] = if field.required then some field else none := by
  rw [Shape.missing?, hfields]
  cases hrequired : field.required with
  | true => simp [hrequired]
  | false => simp [hrequired]

theorem gives_read_object (hfields : shape.fields = [field]) (hfield : Follows field.read meaning)
    {depth : Nat} {cs more brace : List Char} {ms : List (String × Value)} (hdepth : 1 < depth)
    (heq : skipBlanks cs = '\x7b' :: more) (h : MembersRead (depth - 1) true more ms brace) :
    Gives (shape.read depth cs) (brace.drop 1) (shape.sole? field meaning (.object ms)) := by
  have hmembers := gives_readMembers hfields hfield (s := shape.initial) h
    (Nat.lt_succ_self more.length)
  rw [Shape.read, heq]
  simp only
  rw [if_neg (Nat.not_le.mpr hdepth), Shape.sole?, Value.sole?]
  cases hsole : soleIn? field.name ms with
  | none =>
      rw [hsole] at hmembers
      obtain ⟨e, he⟩ := hmembers
      rw [he]
      exact ⟨_, rfl⟩
  | some found =>
      rw [hsole] at hmembers
      cases found with
      | none =>
          have hread : shape.readMembers (depth - 1) (more.length + 1) true [] shape.initial more =
              .ok ((shape.initial, []), brace) := hmembers
          rw [hread]
          simp only [missing?_nil hfields, Option.bind_some]
          cases field.required with
          | true => exact ⟨_, rfl⟩
          | false => rfl
      | some w =>
          simp only [Option.bind_some] at hmembers ⊢
          cases hw : meaning w with
          | none =>
              rw [hw] at hmembers
              obtain ⟨e, he⟩ := hmembers
              rw [he]
              exact ⟨_, rfl⟩
          | some change =>
              rw [hw] at hmembers
              have hread : shape.readMembers (depth - 1) (more.length + 1) true [] shape.initial
                  more = .ok ((change shape.initial, [field.name]), brace) := hmembers
              rw [hread]
              simp only [missing?_seen hfields]
              rfl

theorem endList_end {first : Bool} {cs rest : List Char}
    (h : nextElement first cs = .ok (false, rest)) : endList cs = .ok rest := by
  rw [endList, skipBlanks_of_nextElement_end h]
  rfl

theorem exists_error_endList {cs behind : List Char}
    (h : nextElement false cs = .ok (true, behind)) : ∃ e, endList cs = .error e := by
  obtain ⟨c, more, heq, -, ⟨hfirst, -⟩ | ⟨-, rfl, -⟩⟩ := skipBlanks_of_nextElement h
  · cases hfirst
  · rw [endList, heq]
    simp only
    split
    · exact ⟨_, rfl⟩
    · exact ⟨_, rfl⟩

/-- What a list gives for the only field of a structure. -/
theorem gives_readElements (hfields : shape.fields = [field]) (hfield : Follows field.read meaning)
    {depth : Nat} {cs rest : List Char} {vs : List Value} (h : ElementsRead depth true cs vs rest) :
    Gives (shape.readElements depth shape.fields 0 true shape.initial cs >>= fun p =>
        endList p.2 >>= fun left => .ok (p.1, left)) rest
      (shape.sole? field meaning (.array vs)) := by
  rw [hfields]
  cases h with
  | nil hnext =>
      rw [Shape.readElements, hnext, Shape.sole?, Value.sole?]
      simp only [Option.bind_some, List.find?_cons, List.find?_nil]
      cases field.required with
      | true => exact ⟨_, rfl⟩
      | false =>
          change (endList cs >>= fun left => _) = _
          rw [endList_end hnext]
          rfl
  | @cons _ _ behind left _ v vs hnext hv hvs =>
      have hvalue := hfield depth behind v left hv
      rw [Shape.readElements, hnext]
      cases hmeaning : meaning v with
      | none =>
          rw [hmeaning] at hvalue
          obtain ⟨e, he⟩ := hvalue
          simp only [he]
          cases vs with
          | nil =>
              simp only [Shape.sole?, Value.sole?, Option.bind_some, hmeaning]
              exact ⟨_, rfl⟩
          | cons w ws => exact ⟨_, rfl⟩
      | some change =>
          rw [hmeaning] at hvalue
          have hread : field.read depth behind = .ok (change, left) := hvalue
          simp only [hread, Shape.readElements]
          cases hvs with
          | nil hend =>
              simp only [Shape.sole?, Value.sole?, Option.bind_some, hmeaning]
              change (endList left >>= fun left => _) = _
              rw [endList_end hend]
              rfl
          | cons hmore _ _ =>
              obtain ⟨e, he⟩ := exists_error_endList hmore
              refine ⟨e, ?_⟩
              change (endList left >>= fun left => _) = _
              rw [he]
              rfl

end OneField

/-- A structure with one field follows the values as far as its field does. -/
theorem follows_read {shape : Shape σ} {field : Field σ} {meaning : Value → Option (σ → σ)}
    (hfields : shape.fields = [field]) (hfield : Follows field.read meaning) :
    Follows shape.read (shape.sole? field meaning) := by
  intro depth cs v rest h
  have hother : ∀ {c : Char} {more : List Char}, skipBlanks cs = c :: more → c ≠ '\x7b' → c ≠ '[' →
      ∃ e, shape.read depth cs = .error e := by
    intro c more heq hbrace hbracket
    rw [Shape.read, heq]
    split
    · exact ⟨_, rfl⟩
    · next hopen => exact absurd (List.cons.inj hopen).1 hbrace
    · next hopen => exact absurd (List.cons.inj hopen).1 hbracket
    · exact ⟨_, rfl⟩
  obtain ⟨c, more, heq, hfrom⟩ := readValue_cases_of_enough h
  cases hfrom with
  | null _ => exact hother heq (by decide) (by decide)
  | yes _ => exact hother heq (by decide) (by decide)
  | no _ => exact hother heq (by decide) (by decide)
  | number hnumber => exact hother heq (ne_of_readSigned hnumber rfl) (ne_of_readSigned hnumber rfl)
  | string _ => exact hother heq (by decide) (by decide)
  | array hdepth helements =>
      have hmore := length_lt_of_skipBlanks heq
      have hread := gives_readElements hfields hfield
        (elementsRead_of_readElements (by omega) helements)
      rw [Shape.read, heq]
      simp only
      rw [if_neg (Nat.not_le.mpr hdepth)]
      cases helements : shape.readElements (depth - 1) shape.fields 0 true shape.initial more with
      | ok found =>
          rw [helements] at hread
          exact hread
      | error e =>
          rw [helements] at hread
          cases hfound : shape.sole? field meaning (.array _) with
          | none => exact ⟨_, rfl⟩
          | some s =>
              rw [hfound] at hread
              cases hread
  | object hdepth hmembers =>
      have hmore := length_lt_of_skipBlanks heq
      obtain ⟨brace, hbrace, rfl⟩ := exists_membersRead_of_readMembers (by omega) hmembers
      exact gives_read_object hfields hfield hdepth heq hbrace

/-- What a value means to a structure of one field that is put into it. -/
theorem follows_read_of {shape : Shape σ} {name : String} {required : Bool} {reader : Reader α}
    {set : α → σ → σ} {meaning : Value → Option α}
    (hfields : shape.fields = [.of name required reader set]) (hreader : Follows reader meaning) :
    Follows shape.read fun v => (v.sole? name).bind fun
      | some w => (meaning w).map fun a => set a shape.initial
      | none => if required then none else some shape.initial := by
  have hfield : Follows (Field.of name required reader set).read fun v => (meaning v).map set :=
    fun depth cs v rest h => gives_map (hreader depth cs v rest h) set
  have hmeaning : ∀ v, shape.sole? (.of name required reader set) (fun v => (meaning v).map set) v =
      (v.sole? name).bind fun
        | some w => (meaning w).map fun a => set a shape.initial
        | none => if required then none else some shape.initial := by
    intro v
    simp only [Shape.sole?, Option.map_map]
    rfl
  intro depth cs v rest h
  have hread := follows_read hfields hfield depth cs v rest h
  rw [hmeaning] at hread
  exact hread

/-- A field that has to be there says all about its structure. -/
theorem follows_read_required {shape : Shape σ} {name : String} {reader : Reader α}
    {set : α → σ → σ} {meaning : Value → Option α}
    (hfields : shape.fields = [.of name true reader set]) (hreader : Follows reader meaning) :
    Follows shape.read fun v =>
      (v.sole? name).join.bind fun w => (meaning w).map fun a => set a shape.initial := by
  intro depth cs v rest h
  have hread := follows_read_of hfields hreader depth cs v rest h
  dsimp only at hread ⊢
  rcases hsole : v.sole? name with - | - | w
  · rw [hsole] at hread
    exact hread
  · rw [hsole] at hread
    exact hread
  · rw [hsole] at hread
    exact hread

/-! ## Documents -/

/-- What a document holds of a type is what its value means. -/
theorem documentOf_of_valueOf {reader : Reader α} {meaning : Value → Option α}
    (hreader : Follows reader meaning) {cs : List Char} {v : Value} (h : valueOf cs = .ok v) :
    (documentOf reader cs).toOption = meaning v := by
  obtain ⟨rest, hvalue, hrest⟩ := finish_eq_ok_iff.mp h
  have hgives := hreader depthLimit cs v rest hvalue
  rw [documentOf]
  cases hmeaning : meaning v with
  | some a =>
      rw [hmeaning] at hgives
      rw [finish_eq_ok_iff.mpr ⟨rest, hgives, hrest⟩]
      rfl
  | none =>
      rw [hmeaning] at hgives
      obtain ⟨e, he⟩ := hgives
      rw [he]
      rfl

end Json
end FormulaMap
