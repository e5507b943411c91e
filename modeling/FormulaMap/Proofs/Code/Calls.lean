import FormulaMap.Proofs.Code.Nodes
import FormulaMap.Proofs.Text.Splitting
import FormulaMap.Proofs.Text.Trimming

/-!
# Calls as they are shown

Whether a call is shown behind the object it is called on is decided by the kind of the object
alone: names, `this`, `super` and members are shown.  What stands inside the object is not asked,
and the object is shown with all of its text but the blanks.  So an object that is put together
from names and dots gives a chain of names, while the member of anything else brings along what it
is a member of: other calls, brackets, literals and comments.
-/

namespace FormulaMap
namespace Code

/-! ## Chains of names -/

/-- Whether a node of this kind is a word of a chain. -/
def IsChainWord (kind : Kind) : Prop :=
  kind = .token .identifier ∨ kind = .token .thisWord ∨ kind = .token .superWord

/-- Whether a node of this kind has the words of a chain in it. -/
def IsAccess (kind : Kind) : Prop :=
  kind = .phrase .fieldAccess ∨ kind = .phrase .scopedIdentifier

/-- A forest is put together from words, which are names, `this` and `super`, by dots, with only
blanks between.  It may have members and qualified names in it that are chains again. -/
inductive Forest.Chain : Forest → List (List Char) → Prop
  | word {lead rest : List Char} {field : Option Field} {kind : Kind} {inner : Forest}
      (hkind : IsChainWord kind) (hlead : ∀ c ∈ lead, Text.isBlank c = true)
      (hrest : ∀ c ∈ rest, Text.isBlank c = true) :
      Forest.Chain (.node lead field kind inner (.text rest)) [Text.withoutBlanks inner.spelling]
  | access {lead rest : List Char} {field : Option Field} {kind : Kind} {inner : Forest}
      {ws : List (List Char)} (hkind : IsAccess kind)
      (hlead : ∀ c ∈ lead, Text.isBlank c = true) (hrest : ∀ c ∈ rest, Text.isBlank c = true)
      (h : inner.Chain ws) : Forest.Chain (.node lead field kind inner (.text rest)) ws
  | dot {f g : Forest} {gap : List Char} {role : Option Field} {ws others : List (List Char)}
      (hf : f.Chain ws) (hgap : ∀ c ∈ gap, Text.isBlank c = true) (hg : g.Chain others) :
      Forest.Chain (f.append (.node gap role (.token .dot) (.text ['.']) g)) (ws ++ others)

/-- A node that is a word of a chain or has one in it. -/
inductive Node.Chain (n : Node) : List (List Char) → Prop
  | word (hkind : IsChainWord n.kind) : n.Chain [Text.withoutBlanks n.spelling]
  | access {ws : List (List Char)} (hkind : IsAccess n.kind) (h : n.inner.Chain ws) : n.Chain ws

theorem Forest.Chain.ne_nil {f : Forest} {ws : List (List Char)} (h : f.Chain ws) : ws ≠ [] := by
  induction h with
  | word _ _ _ => exact List.cons_ne_nil _ _
  | access _ _ _ _ ih => exact ih
  | dot _ _ _ ihf _ => exact List.append_ne_nil_of_left_ne_nil ihf _

/-- Without its blanks the text of a chain is its words with dots between. -/
theorem Forest.Chain.withoutBlanks_spelling {f : Forest} {ws : List (List Char)}
    (h : f.Chain ws) : Text.withoutBlanks f.spelling = Text.joinWith ['.'] ws := by
  induction h with
  | word _ hlead hrest =>
      simp only [spelling_node, spelling_text, Text.withoutBlanks_append,
        Text.withoutBlanks_of_blank hlead, Text.withoutBlanks_of_blank hrest, List.nil_append,
        List.append_nil]
      rfl
  | access _ hlead hrest _ ih =>
      simp only [spelling_node, spelling_text, Text.withoutBlanks_append,
        Text.withoutBlanks_of_blank hlead, Text.withoutBlanks_of_blank hrest, List.nil_append,
        List.append_nil]
      exact ih
  | dot hf hgap hg ihf ihg =>
      rw [Text.joinWith_append _ hf.ne_nil hg.ne_nil, ← ihf, ← ihg]
      simp only [spelling_append, spelling_node, spelling_text, Text.withoutBlanks_append,
        Text.withoutBlanks_of_blank hgap, List.nil_append]
      rfl

theorem Node.Chain.ne_nil {n : Node} {ws : List (List Char)} (h : n.Chain ws) : ws ≠ [] := by
  cases h with
  | word _ => exact List.cons_ne_nil _ _
  | access _ h => exact h.ne_nil

theorem Node.Chain.withoutBlanks_spelling {n : Node} {ws : List (List Char)} (h : n.Chain ws) :
    Text.withoutBlanks n.spelling = Text.joinWith ['.'] ws := by
  cases h with
  | word _ => rfl
  | access _ h => exact h.withoutBlanks_spelling

theorem isQualifier_eq_true_iff {kind : Kind} :
    isQualifier kind = true ↔ IsChainWord kind ∨ IsAccess kind := by
  constructor
  · intro h
    unfold isQualifier at h
    split at h
    · exact .inl (.inl rfl)
    · exact .inl (.inr (.inl rfl))
    · exact .inl (.inr (.inr rfl))
    · exact .inr (.inl rfl)
    · exact .inr (.inr rfl)
    · cases h
  · rintro ((rfl | rfl | rfl) | rfl | rfl)
    · rfl
    · rfl
    · rfl
    · rfl
    · rfl

/-- A chain is shown in front of a call. -/
theorem Node.Chain.isQualifier {n : Node} {ws : List (List Char)} (h : n.Chain ws) :
    isQualifier n.kind = true := by
  rw [isQualifier_eq_true_iff]
  cases h with
  | word hkind => exact .inl hkind
  | access hkind _ => exact .inr hkind

/-! ## What is shown -/

namespace Node

/-- A call stands somewhere inside the body of a method. -/
def Invokes (method call : Node) : Prop :=
  ∃ body parent, method.part? .body = some body ∧ call.Within parent body ∧
    call.kind = .phrase .methodInvocation

/-- The parentheses of a call as they are shown, with dots if there is anything between them. -/
def shownArguments (call : Node) : List Char :=
  let arguments := ((call.part? .arguments).map fun list => hasArguments list.spelling).getD false
  '(' :: (if arguments then "...".toList else []) ++ [')']

/-- A call is shown by its name and its parentheses, alone or behind its object.  The kind of the
object decides which, and the text of an object that is shown is all of its text but the blanks. -/
inductive ShownAs (call : Node) : String → Prop
  | alone {name : Node} (hname : call.part? .name = some name)
      (hobject : ∀ object, call.part? .object = some object → isQualifier object.kind = false) :
      call.ShownAs (String.ofList (name.spelling ++ call.shownArguments))
  | behind {name object : Node} (hname : call.part? .name = some name)
      (hobject : call.part? .object = some object) (hkind : isQualifier object.kind = true) :
      call.ShownAs (String.ofList
        (Text.withoutBlanks object.spelling ++ '.' :: (name.spelling ++ call.shownArguments)))

theorem shownCall?_eq_some_iff {call : Node} {c : String} :
    call.shownCall? = some c ↔ call.ShownAs c := by
  have hshown : call.shownCall? = (call.part? .name).map fun name =>
      String.ofList (call.qualifier ++ (name.spelling ++ call.shownArguments)) := by
    rw [shownCall?]
    simp only [shownArguments, List.append_assoc, List.cons_append]
  rw [hshown, Option.map_eq_some_iff]
  constructor
  · rintro ⟨name, hname, rfl⟩
    cases hobject : call.part? .object with
    | none =>
        have hbare : call.qualifier = [] := by rw [qualifier, hobject]
        rw [hbare]
        exact .alone hname (by simp [hobject])
    | some object =>
        cases hkind : isQualifier object.kind with
        | false =>
            have hbare : call.qualifier = [] := by
              simp only [qualifier, hobject, hkind, Bool.false_eq_true, if_false]
            rw [hbare]
            exact .alone hname (by simp [hobject, hkind])
        | true =>
            have hfront : call.qualifier = Text.withoutBlanks object.spelling ++ ['.'] := by
              simp only [qualifier, hobject, hkind, if_true]
            rw [hfront, List.append_assoc]
            exact .behind hname hobject hkind
  · intro h
    cases h with
    | @alone name hname hobject =>
        refine ⟨name, hname, ?_⟩
        have hbare : call.qualifier = [] := by
          unfold qualifier
          split
          · next object hfound =>
              rw [hobject object hfound]
              rfl
          · rfl
        rw [hbare, List.nil_append]
    | @behind name object hname hobject hkind =>
        refine ⟨name, hname, ?_⟩
        simp only [qualifier, hobject, hkind, if_true, List.append_assoc, List.singleton_append]

/-- The calls of a method are the calls in its body as they are shown. -/
theorem mem_calls_iff {method : Node} {c : String} :
    c ∈ method.calls.toList ↔ ∃ call, method.Invokes call ∧ call.ShownAs c := by
  rw [calls, NameSet.mem_ofList, List.mem_filterMap]
  cases hbody : method.part? .body with
  | none => simp [Invokes, hbody]
  | some body =>
      simp only [Option.map_some, Option.getD_some]
      constructor
      · rintro ⟨⟨call, around⟩, hmem, hshown⟩
        obtain ⟨parent, hwithin, -⟩ := mem_descendants_iff.mp hmem
        split at hshown
        · next hkind =>
            exact ⟨call, ⟨body, parent, hbody, hwithin, hkind⟩, shownCall?_eq_some_iff.mp hshown⟩
        · cases hshown
      · rintro ⟨call, ⟨other, parent, hother, hwithin, hkind⟩, hshown⟩
        obtain rfl : body = other := Option.some.inj (hbody.symm.trans hother)
        refine ⟨(call, parent.kind), mem_descendants_iff.mpr ⟨parent, hwithin, rfl⟩, ?_⟩
        simp only [hkind, if_true]
        exact shownCall?_eq_some_iff.mpr hshown

theorem shownArguments_cases (call : Node) :
    call.shownArguments = "()".toList ∨ call.shownArguments = "(...)".toList := by
  unfold shownArguments
  cases ((call.part? .arguments).map fun list => hasArguments list.spelling).getD false with
  | false => exact .inl rfl
  | true => exact .inr rfl

theorem ShownAs.exists_name {call : Node} {c : String} (h : call.ShownAs c) :
    ∃ name, call.part? .name = some name ∧
      ((∀ object, call.part? .object = some object → isQualifier object.kind = false) →
        c = String.ofList (name.spelling ++ call.shownArguments)) ∧
      ∀ object, call.part? .object = some object → isQualifier object.kind = true →
        c = String.ofList (Text.withoutBlanks object.spelling ++
          '.' :: (name.spelling ++ call.shownArguments)) := by
  cases h with
  | @alone name hname hobject =>
      refine ⟨name, hname, fun _ => rfl, ?_⟩
      intro object hfound hkind
      rw [hobject object hfound] at hkind
      cases hkind
  | @behind name object hname hobject hkind =>
      refine ⟨name, hname, ?_, ?_⟩
      · intro hnone
        rw [hnone object hobject] at hkind
        cases hkind
      · intro other hother _
        obtain rfl : object = other := Option.some.inj (hobject.symm.trans hother)
        rfl

end Node

/-- The calls of a record are those in the body of a method as they are shown, each with the name of
what is called and with its parentheses.  A call without an object, or with one of another kind than
those of names, `this`, `super` and members, is shown by these alone.  A call on a chain of names is
shown as the chain with the name behind it.  Of any other object that is shown, everything inside it
is shown too: the member of a call brings the call along. -/
structure CallsByObject (method : Node) (r : MethodRecord) : Prop where
  mem_iff : ∀ c, c ∈ r.calls.toList ↔ ∃ call, method.Invokes call ∧ call.ShownAs c
  shown : ∀ call c, method.Invokes call → call.ShownAs c → ∃ name args,
    call.part? .name = some name ∧ (args = "()".toList ∨ args = "(...)".toList) ∧
    ((∀ object, call.part? .object = some object → isQualifier object.kind = false) →
      c = String.ofList (name.spelling ++ args)) ∧
    ∀ object, call.part? .object = some object →
      (∀ ws, object.Chain ws →
        c = String.ofList (Text.joinWith ['.'] (ws ++ [name.spelling]) ++ args)) ∧
      (isQualifier object.kind = true → ∀ n parent : Node, n.Within parent object →
        Text.withoutBlanks n.spelling <:+: c.toList)

theorem callsByObject_of_calls_eq {method : Node} {r : MethodRecord}
    (hcalls : r.calls = method.calls) : CallsByObject method r := by
  constructor
  case mem_iff =>
    intro c
    rw [hcalls]
    exact Node.mem_calls_iff
  case shown =>
    intro call c _ hshown
    obtain ⟨name, hname, halone, hbehind⟩ := hshown.exists_name
    refine ⟨name, call.shownArguments, hname, call.shownArguments_cases, halone, ?_⟩
    intro object hobject
    constructor
    · intro ws hchain
      rw [hbehind object hobject hchain.isQualifier, hchain.withoutBlanks_spelling,
        Text.joinWith_append _ hchain.ne_nil (List.cons_ne_nil _ _)]
      simp [Text.joinWith]
    · intro hkind n parent hwithin
      rw [hbehind object hobject hkind, String.toList_ofList]
      have hinside := hwithin.spelling_isInfix.filter fun d => !Text.isBlank d
      exact hinside.trans (List.prefix_append _ _).isInfix

/-- A tree that has no fault and declares methods gives a record for each of them, and which of its
calls are shown behind their objects, and how, is decided by the kinds of the objects.  So it is for
the syntax tree of a source text. -/
theorem calls_by_kind_of_object (source : String) (s : Selection) :
    (∀ tree : Forest, tree.IsTree →
      RecordsBy CallsByObject (tree.located [] 0) (recordsOfTree source s tree)) ∧
    RecordsBy CallsByObject ((syntaxTree source.toList).located [] 0) (records source s) :=
  recordsBy_every_tree (fun _ _ _ hcalls => callsByObject_of_calls_eq hcalls) source

/-- A method whose body is the call `new B().x.m();`. -/
def memberOfNewObject : Node where
  kind := .phrase .methodDeclaration
  inner := .node [] (some .body) (.phrase .block)
    (.node [] none (.phrase .methodInvocation)
      (.node [] (some .object) (.phrase .fieldAccess)
        (.node [] (some .object) (.phrase .objectCreationExpression)
          (.node [] none (.token .newWord) (.text "new".toList)
            (.node [' '] (some .type) .typeIdentifier (.text ['B'])
              (.node [] (some .arguments) (.phrase .argumentList) (.text "()".toList) (.text []))))
          (.node [] none (.token .dot) (.text ['.'])
            (.node [] (some .field) (.token .identifier) (.text ['x']) (.text []))))
        (.node [] none (.token .dot) (.text ['.'])
          (.node [] (some .name) (.token .identifier) (.text ['m'])
            (.node [] (some .arguments) (.phrase .argumentList) (.text "()".toList)
              (.text [])))))
      (.text [';']))
    (.text [])

/-- The call is shown with the object that is made in it. -/
theorem calls_by_kind_of_object_new :
    let tree := Forest.ofMethod memberOfNewObject
    let found := recordsOfTree (String.ofList tree.spelling) ⟨.numericTyped, false⟩ tree
    RecordsBy CallsByObject (tree.located [] 0) found ∧
      ∃ rs, found = .ok rs ∧ rs.map (·.calls.toList) = [["newB().x.m()"]] := by
  intro tree found
  have hcalls := (calls_by_kind_of_object (String.ofList tree.spelling)
    ⟨.numericTyped, false⟩).1 tree (isTree_ofMethod _)
  exact ⟨hcalls, [_], rfl, by decide⟩

end Code
end FormulaMap
