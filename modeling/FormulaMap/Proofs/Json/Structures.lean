import FormulaMap.Proofs.Json.Shapes
import Mathlib.Algebra.Group.Nat.Defs
import Mathlib.Data.List.Pairwise

/-!
# Structures of several fields

A structure with fields that all have to be there is read from an object exactly if every field has
one member with its name, and that member means what the structure holds there.  Members with other
names are passed over, whatever they hold, and the order of the members makes no difference.
-/

namespace FormulaMap
namespace Json

variable {α σ : Type}

/-! ## Where a reader finds something -/

/-- Where a reader gives something, a value stands. -/
def Grounded (reader : Reader α) : Prop :=
  ∀ depth cs a rest, reader depth cs = .ok (a, rest) →
    ∃ v, readValue (enoughFuel cs) depth cs = .ok (v, rest)

/-- What comes behind the blanks decides which value stands. -/
theorem readValue_of_skipBlanks {depth : Nat} {cs start : List Char} (heq : skipBlanks cs = start) :
    readValue (enoughFuel cs) depth cs = readValue (enoughFuel start) depth start := by
  rw [← heq, readValue_skipBlanks]

theorem grounded_readText : Grounded readText := by
  intro depth cs s rest h
  unfold readText at h
  split at h
  · cases h
  · next more heq =>
      obtain ⟨⟨t, left⟩, hstring, h⟩ := exists_of_bind_eq_ok h
      cases h
      refine ⟨.string (String.ofList t), ?_⟩
      rw [readValue_of_skipBlanks heq, enoughFuel, readValue, skipBlanks_cons (by decide)]
      simp only [hstring]
      rfl
  · cases h

theorem grounded_readNumeric (expected : String) (accept : Number → Except Reason α) :
    Grounded (readNumeric expected accept) := by
  intro depth cs a rest h
  unfold readNumeric at h
  split at h
  · cases h
  · next c more heq =>
      split at h
      · obtain ⟨⟨n, left⟩, hnumber, h⟩ := exists_of_bind_eq_ok h
        have hread : readValue (enoughFuel cs) depth cs = .ok (.number n, left) :=
          (readValue_of_skipBlanks heq).trans (readValue_number hnumber)
        simp only at h
        split at h
        · cases h
          exact ⟨.number n, hread⟩
        · cases h
      · cases h

/-- Elements that were read one by one are read together. -/
theorem ElementsRead.readElements {depth : Nat} {first : Bool} {cs rest : List Char}
    {vs : List Value} (h : ElementsRead depth first cs vs rest) {fuel : Nat}
    (hfuel : 2 * cs.length + 1 < fuel) : readElements fuel depth first cs = .ok (vs, rest) := by
  induction h generalizing fuel with
  | nil hnext =>
      obtain ⟨fuel, rfl⟩ : ∃ more, fuel = more + 1 := ⟨fuel - 1, by omega⟩
      rw [Json.readElements, hnext]
      rfl
  | @cons first cs behind left rest v vs hnext hv hvs ih =>
      obtain ⟨fuel, rfl⟩ : ∃ more, fuel = more + 1 := ⟨fuel - 1, by omega⟩
      have hbehind := (length_le_of_nextElement hnext).1
      have hleft := length_lt_of_readValue hv
      rw [← @readValue_of_enough fuel _ _ (by omega)] at hv
      rw [Json.readElements, hnext]
      simp only [bind, Except.bind, if_true, hv, ih (show 2 * left.length + 1 < fuel by omega)]

theorem exists_elementsRead_of_readItems {item : Reader α} (hitem : Grounded item)
    {depth fuel : Nat} {first : Bool} {cs rest : List Char} {as : List α}
    (h : readItems item depth fuel first cs = .ok (as, rest)) :
    ∃ vs, ElementsRead depth first cs vs rest := by
  induction fuel generalizing first cs as with
  | zero => cases h
  | succ fuel ih =>
      rw [readItems] at h
      obtain ⟨⟨more, behind⟩, hnext, h⟩ := exists_of_bind_eq_ok h
      cases more with
      | false =>
          cases h
          exact ⟨[], .nil hnext⟩
      | true =>
          simp only [if_true] at h
          obtain ⟨⟨a, left⟩, ha, h⟩ := exists_of_bind_eq_ok h
          obtain ⟨⟨others, last⟩, hothers, h⟩ := exists_of_bind_eq_ok h
          cases h
          obtain ⟨v, hv⟩ := hitem depth behind a left ha
          obtain ⟨vs, hvs⟩ := ih hothers
          exact ⟨v :: vs, .cons hnext hv hvs⟩

theorem grounded_readList {item : Reader α} (hitem : Grounded item) : Grounded (readList item) := by
  intro depth cs as rest h
  unfold readList at h
  split at h
  · cases h
  · next more heq =>
      split at h
      · cases h
      · next hdepth =>
          obtain ⟨vs, hvs⟩ := exists_elementsRead_of_readItems hitem h
          have hread : readElements (2 * ('[' :: more).length + 3) (depth - 1) true more =
              .ok (vs, rest) := hvs.readElements (by rw [List.length_cons]; omega)
          refine ⟨.array vs, ?_⟩
          rw [readValue_of_skipBlanks heq, enoughFuel, readValue, skipBlanks_cons (by decide)]
          simp only
          rw [if_neg (by decide), if_neg (by decide), if_neg (by decide), if_neg (by decide),
            if_neg (by decide), if_pos (by decide), if_neg hdepth, hread]
          rfl
  · cases h

theorem Grounded.map {β : Type} {reader : Reader α} (h : Grounded reader) (f : α → β) :
    Grounded fun depth cs => (reader depth cs).map fun p => (f p.1, p.2) := by
  intro depth cs b rest hread
  simp only at hread
  cases hreader : reader depth cs with
  | error e =>
      rw [hreader] at hread
      cases hread
  | ok found =>
      rw [hreader] at hread
      cases hread
      exact h depth cs found.1 found.2 hreader

/-- The natural number of 64 bits that a value is. -/
def Value.natural? : Value → Option Nat
  | .number (.natural n) => some n
  | _ => none

theorem exists_error_readNumeric {expected : String} {accept : Number → Except Reason α}
    {depth : Nat} {cs more : List Char} {c : Char} (heq : skipBlanks cs = c :: more)
    (hc : (c == '-' || Text.isAsciiDigit c) = false) :
    ∃ e, readNumeric expected accept depth cs = .error e := by
  rw [readNumeric, heq]
  simp only [hc, Bool.false_eq_true, if_false]
  exact ⟨_, rfl⟩

theorem follows_readNatural (typeName : String) :
    Follows (readNatural typeName) Value.natural? := by
  intro depth cs v rest h
  obtain ⟨c, more, heq, hfrom⟩ := readValue_cases_of_enough h
  cases hfrom with
  | null _ => exact exists_error_readNumeric heq (by decide)
  | yes _ => exact exists_error_readNumeric heq (by decide)
  | no _ => exact exists_error_readNumeric heq (by decide)
  | @number _ _ _ n hnumber =>
      obtain ⟨d, others, hcons, hd⟩ := exists_cons_of_readSigned hnumber
      obtain ⟨rfl, rfl⟩ := List.cons.inj hcons
      have hstart : (c == '-' || Text.isAsciiDigit c) = true := by simpa using hd
      rw [readNatural, readNumeric, heq]
      simp only [hstart, if_true, hnumber, bind, Except.bind]
      cases n with
      | natural n => rfl
      | negative n => exact ⟨_, rfl⟩
      | floating f v => exact ⟨_, rfl⟩
  | string _ => exact exists_error_readNumeric heq (by decide)
  | array _ _ => exact exists_error_readNumeric heq (by decide)
  | object _ _ => exact exists_error_readNumeric heq (by decide)

/-! ## Parts of a structure -/

/-- A part of a structure: the name and the reader of its field, what values mean for it, and where
the structure keeps it. -/
structure Component (σ : Type) where
  {α : Type}
  name : String
  reader : Reader α
  meaning : Value → Option α
  follows : Follows reader meaning
  grounded : Grounded reader
  set : α → σ → σ
  get : σ → α
  get_set : ∀ a s, get (set a s) = a

namespace Component

/-- The field of a part, which has to be there. -/
def field (p : Component σ) : Field σ :=
  .of p.name true p.reader p.set

/-- Two parts with names of their own that do not touch each other. -/
def Apart (p q : Component σ) : Prop :=
  p.name ≠ q.name ∧ (∀ a s, p.get (q.set a s) = p.get s) ∧ ∀ a s, q.get (p.set a s) = q.get s

instance : Std.Symm (@Apart σ) where
  symm _ _ h := ⟨h.1.symm, h.2.2, h.2.1⟩

/-- The part with a name. -/
def withName? (ps : List (Component σ)) (name : String) : Option (Component σ) :=
  ps.find? fun p => p.name == name

theorem mem_of_withName? {ps : List (Component σ)} {name : String} {p : Component σ}
    (h : withName? ps name = some p) : p ∈ ps ∧ p.name = name := by
  rw [withName?] at h
  have hname := List.find?_some h
  exact ⟨List.mem_of_find?_eq_some h, beq_iff_eq.mp hname⟩

theorem withName?_eq_none_iff {ps : List (Component σ)} {name : String} :
    withName? ps name = none ↔ name ∉ ps.map (·.name) := by
  simp [withName?]

/-- Parts that are apart are told from each other by their names. -/
theorem eq_of_name_eq {ps : List (Component σ)} (hapart : ps.Pairwise Apart) {p q : Component σ}
    (hp : p ∈ ps) (hq : q ∈ ps) (h : p.name = q.name) : p = q := by
  by_contra hne
  exact (hapart.forall hp hq hne).1 h

theorem find?_map_field (ps : List (Component σ)) (name : String) :
    (ps.map field).find? (fun f => f.name == name) = (withName? ps name).map field :=
  List.find?_map

/-! ## What members say -/

/-- What members make of a structure and of the list of the fields that were read.  A member that
some part is named by holds a value that means the part, and is the first of its name. -/
def told (ps : List (Component σ)) :
    List (String × Option Value) → σ × List String → Option (σ × List String)
  | [], state => some state
  | m :: ms, (s, seen) =>
    match withName? ps m.1 with
    | none => told ps ms (s, seen)
    | some p =>
      if seen.contains m.1 then none
      else (m.2.bind p.meaning).bind fun a => told ps ms (p.set a s, m.1 :: seen)

/-- The members with the name of a part. -/
def naming (p : Component σ) (ms : List (String × Option Value)) : List (String × Option Value) :=
  ms.filter fun m => m.1 = p.name

theorem naming_cons_of_ne {p : Component σ} {m : String × Option Value} (h : m.1 ≠ p.name)
    (ms : List (String × Option Value)) : p.naming (m :: ms) = p.naming ms :=
  List.filter_cons_of_neg (by simpa using h)

theorem naming_cons_of_eq {p : Component σ} {m : String × Option Value} (h : m.1 = p.name)
    (ms : List (String × Option Value)) : p.naming (m :: ms) = m :: p.naming ms :=
  List.filter_cons_of_pos (by simpa using h)

/-- Members say what a structure is: every part has one member with its name, which means what the
structure holds there. -/
def Tells (ps : List (Component σ)) (ms : List (String × Option Value)) (s : σ) : Prop :=
  ∀ p ∈ ps, ∃ v, p.naming ms = [(p.name, some v)] ∧ p.meaning v = some (p.get s)

/-- The order of members makes no difference to what they say. -/
theorem Tells.perm {ps : List (Component σ)} {ms ms' : List (String × Option Value)} {s : σ}
    (h : Tells ps ms s) (hperm : ms.Perm ms') : Tells ps ms' s := by
  intro p hp
  obtain ⟨v, hsole, hmeaning⟩ := h p hp
  have hnaming : (p.naming ms).Perm (p.naming ms') := hperm.filter _
  rw [hsole] at hnaming
  exact ⟨v, (List.singleton_perm.mp hnaming).symm, hmeaning⟩

/-- What became of a part when members were read: without a member with its name it is as it was,
and else there was one such member, which means what it is now. -/
theorem get_of_told {ps : List (Component σ)} (hapart : ps.Pairwise Apart)
    {ms : List (String × Option Value)} {s t : σ} {seen seen' : List String}
    (h : told ps ms (s, seen) = some (t, seen')) {p : Component σ} (hp : p ∈ ps) :
    (p.naming ms = [] ∧ p.get t = p.get s ∧ (p.name ∈ seen' → p.name ∈ seen)) ∨
      (p.name ∉ seen ∧ ∃ v, p.naming ms = [(p.name, some v)] ∧ p.meaning v = some (p.get t)) := by
  induction ms generalizing s seen with
  | nil =>
      cases h
      exact .inl ⟨rfl, rfl, id⟩
  | cons m ms ih =>
      obtain ⟨key, found⟩ := m
      rw [told] at h
      cases hfind : withName? ps key with
      | none =>
          rw [hfind] at h
          have hkey : key ≠ p.name := fun heq =>
            withName?_eq_none_iff.mp hfind (heq ▸ List.mem_map_of_mem hp)
          rw [naming_cons_of_ne hkey]
          exact ih h
      | some q =>
          rw [hfind] at h
          obtain ⟨hq, rfl⟩ := mem_of_withName? hfind
          simp only at h
          split at h
          · cases h
          · next hseen =>
              obtain ⟨a, hmeaning, h⟩ := Option.bind_eq_some_iff.mp h
              obtain ⟨v, hfound, hv⟩ := Option.bind_eq_some_iff.mp hmeaning
              rw [List.contains_iff_mem] at hseen
              have hlater := ih h
              by_cases hname : q.name = p.name
              · obtain rfl := eq_of_name_eq hapart hq hp hname
                obtain ⟨hnone, hget, -⟩ | ⟨habsurd, -⟩ := hlater
                · refine .inr ⟨hseen, v, ?_, ?_⟩
                  · rw [naming_cons_of_eq rfl, hnone, ← hfound]
                  · rw [hv, hget, q.get_set]
                · exact absurd List.mem_cons_self habsurd
              · have hne : p ≠ q := fun heq => hname (heq ▸ rfl)
                have huntouched := (hapart.forall hp hq hne).2.1 a s
                rw [naming_cons_of_ne hname]
                obtain ⟨hnone, hget, hstill⟩ | ⟨hnot, hsaid⟩ := hlater
                · refine .inl ⟨hnone, hget.trans huntouched, fun hmem => ?_⟩
                  exact (List.mem_cons.mp (hstill hmem)).resolve_left (Ne.symm hname)
                · exact .inr ⟨fun hmem => hnot (List.mem_cons_of_mem _ hmem), hsaid⟩

/-- Members are read to the end when each part was read already or has one member that means
something; then all parts are read. -/
theorem exists_told {ps : List (Component σ)} (hapart : ps.Pairwise Apart)
    {ms : List (String × Option Value)} {s : σ} {seen : List String}
    (h : ∀ p ∈ ps, (p.naming ms = [] ∧ p.name ∈ seen) ∨
      (p.name ∉ seen ∧ ∃ v a, p.naming ms = [(p.name, some v)] ∧ p.meaning v = some a)) :
    ∃ state, told ps ms (s, seen) = some state ∧ ∀ p ∈ ps, p.name ∈ state.2 := by
  induction ms generalizing s seen with
  | nil =>
      refine ⟨(s, seen), rfl, fun p hp => ?_⟩
      obtain ⟨-, hseen⟩ | ⟨-, v, a, hsole, -⟩ := h p hp
      · exact hseen
      · cases hsole
  | cons m ms ih =>
      obtain ⟨key, found⟩ := m
      rw [told]
      cases hfind : withName? ps key with
      | none =>
          refine ih fun p hp => ?_
          have hkey : key ≠ p.name := fun heq =>
            withName?_eq_none_iff.mp hfind (heq ▸ List.mem_map_of_mem hp)
          have hp' := h p hp
          rw [naming_cons_of_ne hkey] at hp'
          exact hp'
      | some q =>
          obtain ⟨hq, rfl⟩ := mem_of_withName? hfind
          have hq' := h q hq
          rw [naming_cons_of_eq rfl] at hq'
          obtain ⟨habsurd, -⟩ | ⟨hseen, v, a, hsole, hmeaning⟩ := hq'
          · cases habsurd
          obtain ⟨hfound, hnone⟩ := List.cons.inj hsole
          obtain rfl : found = some v := congrArg Prod.snd hfound
          simp only [List.contains_iff_mem, hseen, if_false, Option.bind_some, hmeaning]
          refine ih fun p hp => ?_
          by_cases hname : q.name = p.name
          · obtain rfl := eq_of_name_eq hapart hq hp hname
            exact .inl ⟨hnone, List.mem_cons_self⟩
          · have hp' := h p hp
            rw [naming_cons_of_ne hname] at hp'
            have hrest : p.name ∉ seen → p.name ∉ q.name :: seen := fun hnot hmem =>
              hnot ((List.mem_cons.mp hmem).resolve_left (Ne.symm hname))
            exact hp'.imp (And.imp_right (List.mem_cons_of_mem _)) (And.imp_left hrest)

end Component

/-! ## What stands in an object -/

/-- The members of an object of which only some keys are known, as they stand behind its brace or an
earlier member, up to the closing brace.  Behind a known key stands a value; what stands behind any
other is passed over. -/
inductive MembersHeld (known : List String) (depth : Nat) :
    Bool → List Char → List (String × Option Value) → List Char → Prop
  | nil {first : Bool} {cs rest : List Char} (h : nextKey first cs = .ok (false, rest)) :
      MembersHeld known depth first cs [] rest
  | known {first : Bool} {cs behind key afterKey colon left rest : List Char} {v : Value}
      {ms : List (String × Option Value)} (h : nextKey first cs = .ok (true, behind))
      (hkey : readString 0 behind = .ok (key, afterKey)) (hcolon : readColon afterKey = .ok colon)
      (hknown : String.ofList key ∈ known)
      (hv : readValue (enoughFuel colon) depth colon = .ok (v, left))
      (hms : MembersHeld known depth false left ms rest) :
      MembersHeld known depth first cs ((String.ofList key, some v) :: ms) rest
  | unknown {first : Bool} {cs behind key afterKey colon left rest : List Char}
      {ms : List (String × Option Value)} (h : nextKey first cs = .ok (true, behind))
      (hkey : readString 0 behind = .ok (key, afterKey)) (hcolon : readColon afterKey = .ok colon)
      (hunknown : String.ofList key ∉ known)
      (hleft : passValue (enoughFuel colon) colon = .ok left)
      (hms : MembersHeld known depth false left ms rest) :
      MembersHeld known depth first cs ((String.ofList key, none) :: ms) rest

section Parts

variable {shape : Shape σ} {parts : List (Component σ)}

/-- A structure reads from the members of an object what they make of it. -/
theorem gives_readMembers_told (hfields : shape.fields = parts.map Component.field)
    {depth fuel : Nat} {first : Bool} {seen : List String} {s : σ} {cs rest : List Char}
    {ms : List (String × Option Value)}
    (h : MembersHeld (parts.map (·.name)) depth first cs ms rest) (hfuel : cs.length < fuel) :
    Gives (shape.readMembers depth fuel first seen s cs) rest
      (Component.told parts ms (s, seen)) := by
  have hfind : ∀ name, shape.fields.find? (fun f => f.name == name) =
      (Component.withName? parts name).map Component.field := fun name => by
    rw [hfields, Component.find?_map_field]
  induction h generalizing fuel seen s with
  | nil hnext =>
      obtain ⟨fuel, rfl⟩ : ∃ more, fuel = more + 1 := ⟨fuel - 1, by omega⟩
      change shape.readMembers depth _ _ _ _ _ = .ok _
      rw [Shape.readMembers, hnext]
      rfl
  | @known first cs behind key afterKey colon left rest v ms hnext hkey hcolon hknown hv hms ih =>
      obtain ⟨fuel, rfl⟩ : ∃ more, fuel = more + 1 := ⟨fuel - 1, by omega⟩
      have hbehind := (length_le_of_nextKey hnext).1
      have hkeylt := length_lt_of_readString hkey
      have hcolonlt := length_lt_of_readColon hcolon
      have hleft := length_lt_of_readValue hv
      obtain ⟨p, hp⟩ := Option.ne_none_iff_exists'.mp
        fun hnone => Component.withName?_eq_none_iff.mp hnone hknown
      rw [Shape.readMembers, hnext, Component.told]
      simp only [bind, Except.bind, if_true, hkey, hfind, hp, Option.map_some]
      split
      · exact ⟨_, rfl⟩
      · rw [hcolon, Option.bind_some]
        have hfield : Gives (p.field.read depth colon) left ((p.meaning v).map p.set) :=
          gives_map (p.follows depth colon v left hv) p.set
        have hmore : ∀ change : σ → σ, Gives
            (shape.readMembers depth fuel false (String.ofList key :: seen) (change s) left) rest
            (Component.told parts ms (change s, String.ofList key :: seen)) :=
          fun _ => ih (by omega)
        have hboth : Gives
            (p.field.read depth colon >>= fun p =>
              shape.readMembers depth fuel false (String.ofList key :: seen) (p.1 s) p.2) rest
            (((p.meaning v).map p.set).bind fun change =>
              Component.told parts ms (change s, String.ofList key :: seen)) :=
          gives_bind hfield hmore
        rw [Option.bind_map] at hboth
        exact hboth
  | @unknown _ cs behind key afterKey colon left rest ms hnext hkey hcolon hunknown hleft hms ih =>
      obtain ⟨fuel, rfl⟩ : ∃ more, fuel = more + 1 := ⟨fuel - 1, by omega⟩
      have hbehind := (length_le_of_nextKey hnext).1
      have hkeylt := length_lt_of_readString hkey
      have hcolonlt := length_lt_of_readColon hcolon
      have hleftle := length_le_of_passValue hleft
      have hnone := Component.withName?_eq_none_iff.mpr hunknown
      rw [Shape.readMembers, hnext, Component.told]
      simp only [bind, Except.bind, if_true, hkey, hfind, hnone, Option.map_none, hcolon, hleft]
      exact ih (by omega)

/-- Where the members of an object are read into a structure, members stand. -/
theorem exists_membersHeld_of_readMembers (hfields : shape.fields = parts.map Component.field)
    {depth fuel : Nat} {first : Bool} {seen : List String} {s : σ} {cs rest : List Char}
    {state : σ × List String}
    (h : shape.readMembers depth fuel first seen s cs = .ok (state, rest)) :
    ∃ ms, MembersHeld (parts.map (·.name)) depth first cs ms rest := by
  induction fuel generalizing first seen s cs with
  | zero => cases h
  | succ fuel ih =>
      rw [Shape.readMembers] at h
      obtain ⟨⟨more, behind⟩, hnext, h⟩ := exists_of_bind_eq_ok h
      cases more with
      | false =>
          cases h
          exact ⟨[], .nil hnext⟩
      | true =>
          simp only [if_true] at h
          obtain ⟨⟨key, afterKey⟩, hkey, h⟩ := exists_of_bind_eq_ok h
          simp only [hfields, Component.find?_map_field] at h
          cases hfind : Component.withName? parts (String.ofList key) with
          | none =>
              rw [hfind] at h
              obtain ⟨colon, hcolon, h⟩ := exists_of_bind_eq_ok h
              obtain ⟨left, hleft, h⟩ := exists_of_bind_eq_ok h
              obtain ⟨ms, hms⟩ := ih h
              have hunknown := Component.withName?_eq_none_iff.mp hfind
              exact ⟨_, .unknown hnext hkey hcolon hunknown hleft hms⟩
          | some p =>
              rw [hfind] at h
              obtain ⟨hp, hname⟩ := Component.mem_of_withName? hfind
              simp only [Option.map_some] at h
              split at h
              · cases h
              · obtain ⟨colon, hcolon, h⟩ := exists_of_bind_eq_ok h
                obtain ⟨⟨change, left⟩, hread, h⟩ := exists_of_bind_eq_ok h
                obtain ⟨ms, hms⟩ := ih h
                obtain ⟨v, hv⟩ := p.grounded.map p.set depth colon change left hread
                exact ⟨_, .known hnext hkey hcolon (hname ▸ List.mem_map_of_mem hp) hv hms⟩

/-- A structure is made of parts: its fields are the ones of the parts, in their order, the parts do
not touch each other, and there is nothing else in the structure. -/
structure Shape.MadeOf (shape : Shape σ) (parts : List (Component σ)) : Prop where
  fields : shape.fields = parts.map Component.field
  apart : parts.Pairwise Component.Apart
  ext : ∀ s t : σ, (∀ p ∈ parts, p.get s = p.get t) → s = t

namespace Shape.MadeOf

theorem missing?_eq_none_iff (hmade : shape.MadeOf parts) {seen : List String} :
    shape.missing? seen = none ↔ ∀ p ∈ parts, p.name ∈ seen := by
  rw [Shape.missing?, hmade.fields]
  simp only [List.find?_eq_none, List.forall_mem_map, Component.field, Field.of, Bool.true_and,
    Bool.not_eq_true', Bool.not_eq_false, List.contains_iff_mem]

/-- Reading all members leaves what they say. -/
theorem tells_of_told (hmade : shape.MadeOf parts) {ms : List (String × Option Value)} {s t : σ}
    {seen : List String} (h : Component.told parts ms (s, []) = some (t, seen))
    (hall : ∀ p ∈ parts, p.name ∈ seen) : Component.Tells parts ms t := by
  intro p hp
  obtain ⟨-, -, hseen⟩ | ⟨-, hsaid⟩ := Component.get_of_told hmade.apart h hp
  · cases hseen (hall p hp)
  · exact hsaid

/-- Members say one structure at most. -/
theorem eq_of_tells (hmade : shape.MadeOf parts) {ms : List (String × Option Value)} {s t : σ}
    (hs : Component.Tells parts ms s) (ht : Component.Tells parts ms t) : s = t := by
  refine hmade.ext s t fun p hp => ?_
  obtain ⟨v, hv, hmeaning⟩ := hs p hp
  obtain ⟨w, hw, hmeaning'⟩ := ht p hp
  obtain rfl : v = w := by simpa [hv] using hw
  exact Option.some.inj (hmeaning.symm.trans hmeaning')

/-- A structure is read from an object exactly if the members say it. -/
theorem read_object_iff (hmade : shape.MadeOf parts) {depth : Nat} {cs more brace : List Char}
    {ms : List (String × Option Value)} (hdepth : 1 < depth) (heq : skipBlanks cs = '\x7b' :: more)
    (h : MembersHeld (parts.map (·.name)) (depth - 1) true more ms brace) {s : σ}
    {rest : List Char} :
    shape.read depth cs = .ok (s, rest) ↔ Component.Tells parts ms s ∧ rest = brace.drop 1 := by
  have hgives : Gives
      (shape.readMembers (depth - 1) (more.length + 1) true [] shape.initial more) brace
      (Component.told parts ms (shape.initial, [])) :=
    gives_readMembers_told hmade.fields h (Nat.lt_succ_self more.length)
  rw [Shape.read, heq]
  simp only [if_neg (Nat.not_le.mpr hdepth)]
  constructor
  · intro hread
    cases htold : Component.told parts ms (shape.initial, []) with
    | none =>
        rw [htold] at hgives
        obtain ⟨e, he⟩ := hgives
        rw [he] at hread
        cases hread
    | some state =>
        rw [htold] at hgives
        have hmembers : shape.readMembers (depth - 1) (more.length + 1) true [] shape.initial more =
            .ok (state, brace) := hgives
        rw [hmembers] at hread
        simp only at hread
        split at hread
        · cases hread
        · next hmissing =>
            cases hread
            exact ⟨hmade.tells_of_told htold (hmade.missing?_eq_none_iff.mp hmissing), rfl⟩
  · rintro ⟨htells, rfl⟩
    obtain ⟨⟨t, seen⟩, htold, hall⟩ : ∃ state,
        Component.told parts ms (shape.initial, []) = some state ∧
          ∀ p ∈ parts, p.name ∈ state.2 := by
      refine Component.exists_told hmade.apart fun p hp => ?_
      obtain ⟨v, hsole, hmeaning⟩ := htells p hp
      exact .inr ⟨List.not_mem_nil, v, _, hsole, hmeaning⟩
    obtain rfl := hmade.eq_of_tells htells (hmade.tells_of_told htold hall)
    rw [htold] at hgives
    have hmembers : shape.readMembers (depth - 1) (more.length + 1) true [] shape.initial more =
        .ok ((s, seen), brace) := hgives
    rw [hmembers]
    simp only [hmade.missing?_eq_none_iff.mpr hall]

/-- Where a structure is read from an object, members stand. -/
theorem exists_membersHeld (hmade : shape.MadeOf parts) {depth : Nat} {cs more rest : List Char}
    {s : σ} (heq : skipBlanks cs = '\x7b' :: more) (h : shape.read depth cs = .ok (s, rest)) :
    1 < depth ∧ ∃ ms brace,
      MembersHeld (parts.map (·.name)) (depth - 1) true more ms brace ∧ rest = brace.drop 1 := by
  rw [Shape.read, heq] at h
  simp only at h
  split at h
  · cases h
  · next hdepth =>
      split at h
      · cases h
      · next state seen brace hmembers =>
          split at h
          · cases h
          · cases h
            obtain ⟨ms, hms⟩ := exists_membersHeld_of_readMembers hmade.fields hmembers
            exact ⟨Nat.lt_of_not_le hdepth, ms, brace, hms, rfl⟩

end Shape.MadeOf

end Parts

/-! ## Written lists and members -/

/-- What stands behind an element of a list of strings: the other elements and the bracket. -/
def stringsBehind : List String → List Char
  | [] => [']']
  | s :: texts => ',' :: (quote s.toList ++ stringsBehind texts)

theorem compactElements_strings (s : String) (texts : List String) :
    Value.compactElements ((s :: texts).map .string) = quote s.toList ++ stringsBehind texts := by
  induction texts generalizing s with
  | nil => rfl
  | cons next texts ih =>
      rw [List.map_cons, List.map_cons, Value.compactElements, ← List.map_cons, ih]
      · rfl
      · exact List.cons_ne_nil _ _

theorem endsNumber_stringsBehind (texts : List String) (rest : List Char) :
    EndsNumber (stringsBehind texts ++ rest) := by
  cases texts with
  | nil => exact endsNumber_cons rfl (by decide) (by decide) (by decide)
  | cons s texts => exact endsNumber_cons rfl (by decide) (by decide) (by decide)

theorem readValue_quote {depth : Nat} (s : String) {rest : List Char} (hrest : EndsNumber rest) :
    readValue (enoughFuel (quote s.toList ++ rest)) depth (quote s.toList ++ rest) =
      .ok (.string s, rest) := by
  have hback := readBack_string s
  rw [ReadBack, Value.compactChars] at hback
  exact hback _ depth rest hrest

theorem elementsRead_stringsBehind (depth : Nat) (texts : List String) (rest : List Char) :
    ElementsRead depth false (stringsBehind texts ++ rest) (texts.map .string) rest := by
  induction texts with
  | nil => exact .nil rfl
  | cons s texts ih =>
      have hnext : nextElement false (stringsBehind (s :: texts) ++ rest) =
          .ok (true, quote s.toList ++ (stringsBehind texts ++ rest)) := by
        rw [stringsBehind, List.cons_append, List.append_assoc]
        rfl
      exact .cons hnext (readValue_quote s (endsNumber_stringsBehind texts rest)) ih

theorem elementsRead_strings (depth : Nat) (texts : List String) (rest : List Char) :
    ElementsRead depth true (Value.compactElements (texts.map .string) ++ rest)
      (texts.map .string) rest := by
  cases texts with
  | nil => exact .nil rfl
  | cons s texts =>
      rw [compactElements_strings, List.append_assoc]
      exact .cons rfl (readValue_quote s (endsNumber_stringsBehind texts rest))
        (elementsRead_stringsBehind depth texts rest)

/-- A value is read from a text in front of everything that cannot go on a number, where containers
may be nested to some depth. -/
def WrittenMember.ReadsWithin (depth : Nat) (m : WrittenMember) : Prop :=
  ∀ rest, EndsNumber rest →
    readValue (enoughFuel (m.written ++ rest)) depth (m.written ++ rest) = .ok (m.value, rest)

theorem WrittenMember.ReadsWithin.of_readBack {v : Value} (h : ReadBack v) (depth : Nat)
    (key : String) : (compact (key, v)).ReadsWithin depth :=
  fun rest hrest => h _ depth rest hrest

theorem WrittenMember.ReadsWithin.string (depth : Nat) (key s : String) :
    (compact (key, .string s)).ReadsWithin depth :=
  of_readBack (readBack_string s) depth key

theorem WrittenMember.ReadsWithin.natural (depth : Nat) (key : String) {n : Nat} (h : n < 2 ^ 64) :
    (compact (key, .ofNat n)).ReadsWithin depth :=
  of_readBack (readBack_number (numberOf?_chars_natural (Nat.le_sub_one_of_lt h))) depth
    key

theorem WrittenMember.ReadsWithin.strings {depth : Nat} (hdepth : 1 < depth) (key : String)
    (texts : List String) : (compact (key, .ofStrings texts)).ReadsWithin depth := by
  intro rest _
  have hread : readElements
      (2 * ((compact (key, .ofStrings texts)).written ++ rest).length + 3) (depth - 1) true
      (Value.compactElements (texts.map .string) ++ rest) = .ok (texts.map .string, rest) := by
    apply (elementsRead_strings (depth - 1) texts rest).readElements
    simp only [compact, Value.ofStrings, Value.compactChars, List.length_cons, List.cons_append]
    omega
  rw [enoughFuel, readValue]
  simp only [compact, Value.ofStrings, Value.compactChars, List.cons_append] at hread ⊢
  rw [skipBlanks_cons (by decide)]
  simp only
  rw [if_neg (by decide), if_neg (by decide), if_neg (by decide), if_neg (by decide),
    if_neg (by decide), if_pos (by decide), if_neg (Nat.not_le.mpr hdepth), hread]
  rfl

/-- Written members stand in the object that they are written into. -/
theorem membersHeld_membersAt {known : List String} {depth : Nat} {ms : List WrittenMember}
    (hknown : ∀ m ∈ ms, m.key ∈ known) (hreads : ∀ m ∈ ms, m.ReadsWithin depth) (first : Bool)
    (rest : List Char) :
    MembersHeld known depth first (membersAt first ms ++ rest)
      (ms.map fun m => (m.key, some m.value)) ('\x7d' :: rest) := by
  induction ms generalizing first with
  | nil => exact .nil (nextKey_membersAt_nil first rest)
  | cons m ms ih =>
      have hlater := ih (fun n hn => hknown n (List.mem_cons_of_mem _ hn))
        (fun n hn => hreads n (List.mem_cons_of_mem _ hn)) false
      have hvalue := hreads m List.mem_cons_self _ (endsNumber_membersBehind ms rest)
      have hkey : String.ofList m.key.toList ∈ known := by
        rw [String.ofList_toList]
        exact hknown m List.mem_cons_self
      have hheld := MembersHeld.known (nextKey_membersAt_cons first m ms rest)
        (readString_flatMap_escape _ _) rfl hkey hvalue hlater
      rw [String.ofList_toList] at hheld
      exact hheld

end Json
end FormulaMap
