import FormulaMap.Proofs.Code.Calls

/-!
# Arguments as they are shown

Whether a call is shown with arguments is decided on the text of its list of arguments: blanks and
parentheses at both ends are taken off, and the list counts as empty if nothing is left.  So blanks
and line breaks make no difference, and no more do further parentheses around an argument; but
anything else between the parentheses counts, a comment too.
-/

namespace FormulaMap
namespace Code

/-! ## The text of a list of arguments -/

/-- A character that neither is blank nor can be taken for an end of a list. -/
def IsMark (c : Char) : Prop := Text.isBlank c = false ∧ c ≠ '(' ∧ c ≠ ')'

/-- Taking off blanks and parentheses at the ends does not lose a mark. -/
theorem IsMark.mem_inside {c : Char} (h : IsMark c) {list : List Char} (hmem : c ∈ list) :
    c ∈ Text.trim (Text.trimEndOf ')' (Text.trimStartOf '(' (Text.trim list))) := by
  have hdrop : ∀ {x : Char} {cs : List Char}, c ≠ x → c ∈ cs → c ∈ cs.dropWhile (· == x) := by
    intro x cs hne hc
    rw [← List.takeWhile_append_dropWhile (p := (· == x)) (l := cs), List.mem_append] at hc
    refine hc.resolve_left fun htaken => hne ?_
    simpa using List.mem_takeWhile_imp htaken
  rw [Text.mem_trim_iff h.1, Text.trimEndOf, List.mem_reverse]
  apply hdrop h.2.2
  rw [List.mem_reverse]
  exact hdrop h.2.1 ((Text.mem_trim_iff h.1).mpr hmem)

/-- A list with a mark in it has arguments. -/
theorem hasArguments_of_mem {c : Char} (h : IsMark c) {list : List Char} (hmem : c ∈ list) :
    hasArguments list = true := by
  have hinside := h.mem_inside hmem
  cases hrest : Text.trim (Text.trimEndOf ')' (Text.trimStartOf '(' (Text.trim list))) with
  | nil =>
      rw [hrest] at hinside
      cases hinside
  | cons d more => simp only [hasArguments, hrest, List.isEmpty_cons, Bool.not_false]

/-- A pair of parentheses with blanks between has no arguments. -/
theorem hasArguments_of_blank {gap : List Char} (h : ∀ c ∈ gap, Text.isBlank c = true) :
    hasArguments ('(' :: (gap ++ [')'])) = false := by
  have hkept : gap.dropWhile (· == '(') = gap := by
    rw [List.dropWhile_eq_self_iff]
    intro hpos hsame
    have hblank := h _ (List.getElem_mem hpos)
    rw [eq_of_beq hsame] at hblank
    cases hblank
  have hopen : Text.trimStartOf '(' ('(' :: (gap ++ [')'])) = gap ++ [')'] := by
    rw [Text.trimStartOf, List.dropWhile_cons_of_pos rfl, List.dropWhile_append, hkept]
    split
    · next hnone =>
        rw [List.isEmpty_iff.mp hnone]
        rfl
    · rfl
  have hclose : Text.trimEndOf ')' (gap ++ [')']) = gap := by
    rw [← List.replicate_one, Text.trimEndOf_append_replicate, Text.trimEndOf_eq_self_iff]
    intro hlast
    have hblank := h ')' (List.mem_of_getLast? hlast)
    cases hblank
  have hnothing : Text.trim gap = [] := by
    rw [Text.trim, Text.trimStart, List.dropWhile_eq_nil_iff.mpr h, Text.trimEnd_nil]
  simp only [hasArguments, Text.trim_of_not_blank (c := '(') (d := ')') rfl rfl, hopen, hclose,
    hnothing, List.isEmpty_nil, Bool.not_true]

/-! ## Calls with and without arguments -/

namespace Node

theorem shownArguments_of_mark {call list n parent : Node} {c : Char}
    (hlist : call.part? .arguments = some list) (hwithin : n.Within parent list) (hc : IsMark c)
    (hmem : c ∈ n.spelling) : call.shownArguments = "(...)".toList := by
  have hinside : c ∈ list.spelling := hwithin.spelling_isInfix.subset hmem
  simp only [shownArguments, hlist, Option.map_some, Option.getD_some,
    hasArguments_of_mem hc hinside, if_true]
  rfl

theorem shownArguments_of_blank {call list : Node} {gap : List Char}
    (hlist : call.part? .arguments = some list) (hgap : ∀ c ∈ gap, Text.isBlank c = true)
    (htext : list.spelling = '(' :: (gap ++ [')'])) : call.shownArguments = "()".toList := by
  simp only [shownArguments, hlist, Option.map_some, Option.getD_some, htext,
    hasArguments_of_blank hgap, Bool.false_eq_true, if_false]
  rfl

theorem ShownAs.exists_front {call : Node} {c : String} (h : call.ShownAs c) :
    ∃ front, c = String.ofList (front ++ call.shownArguments) := by
  cases h with
  | @alone name _ _ => exact ⟨name.spelling, rfl⟩
  | @behind name object _ _ _ =>
      refine ⟨Text.withoutBlanks object.spelling ++ '.' :: name.spelling, ?_⟩
      rw [List.append_assoc, List.cons_append]

end Node

/-- The calls of a record are those in the body of a method as they are shown, each with its
parentheses at the end.  These are empty if the list of arguments is a pair of parentheses with only
blanks between, and hold dots if there is any node in the list, at whatever depth, with a character
that neither is blank nor a parenthesis: an argument, in however many further parentheses, or a
comment. -/
structure CallsByArguments (method : Node) (r : MethodRecord) : Prop where
  mem_iff : ∀ c, c ∈ r.calls.toList ↔ ∃ call, method.Invokes call ∧ call.ShownAs c
  shown : ∀ call c list, method.Invokes call → call.ShownAs c → call.part? .arguments = some list →
    ∃ front args, c = String.ofList (front ++ args) ∧
      (∀ gap, (∀ d ∈ gap, Text.isBlank d = true) → list.spelling = '(' :: (gap ++ [')']) →
        args = "()".toList) ∧
      ∀ n parent : Node, n.Within parent list → (∃ d ∈ n.spelling, IsMark d) →
        args = "(...)".toList

theorem callsByArguments_of_calls_eq {method : Node} {r : MethodRecord}
    (hcalls : r.calls = method.calls) : CallsByArguments method r := by
  constructor
  case mem_iff =>
    intro c
    rw [hcalls]
    exact Node.mem_calls_iff
  case shown =>
    intro call c list _ hshown hlist
    obtain ⟨front, hfront⟩ := hshown.exists_front
    refine ⟨front, call.shownArguments, hfront, ?_, ?_⟩
    · intro gap hgap htext
      exact Node.shownArguments_of_blank hlist hgap htext
    · rintro n parent hwithin ⟨d, hmem, hd⟩
      exact Node.shownArguments_of_mark hlist hwithin hd hmem

/-- A tree that has no fault and declares methods gives a record for each of them, and whether its
calls are shown with arguments is decided by the text between their parentheses.  So it is for the
syntax tree of a source text. -/
theorem calls_by_text_of_arguments (source : String) (s : Selection) :
    (∀ tree : Forest, tree.IsTree →
      RecordsBy CallsByArguments (tree.located [] 0) (recordsOfTree source s tree)) ∧
    RecordsBy CallsByArguments ((syntaxTree source.toList).located [] 0) (records source s) :=
  recordsBy_every_tree (fun _ _ _ hcalls => callsByArguments_of_calls_eq hcalls) source

/-- A method whose body is the call `g(/* none */);`. -/
def commentForArgument : Node where
  kind := .phrase .methodDeclaration
  inner := .node "void f() ".toList (some .body) (.phrase .block)
    (.node "\x7b ".toList none (.phrase .methodInvocation)
      (.node [] (some .name) (.token .identifier) (.text ['g'])
        (.node [] (some .arguments) (.phrase .argumentList)
          (.node ['('] none (.token .blockComment) (.text "/* none */".toList) (.text [')']))
          (.text [])))
      (.text "; \x7d".toList))
    (.text [])

/-- The comment is shown as arguments. -/
theorem calls_by_text_of_arguments_comment :
    let tree := Forest.ofMethod commentForArgument
    let found := recordsOfTree (String.ofList tree.spelling) ⟨.numericTyped, false⟩ tree
    RecordsBy CallsByArguments (tree.located [] 0) found ∧
      ∃ rs, found = .ok rs ∧ rs.map (·.calls.toList) = [["g(...)"]] := by
  intro tree found
  have hcalls := (calls_by_text_of_arguments (String.ofList tree.spelling)
    ⟨.numericTyped, false⟩).1 tree (isTree_ofMethod _)
  exact ⟨hcalls, [_], rfl, by decide⟩

end Code
end FormulaMap
