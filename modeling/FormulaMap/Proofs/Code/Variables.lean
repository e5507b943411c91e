import FormulaMap.Proofs.Code.Nodes
import FormulaMap.Proofs.Code.Selection
import FormulaMap.Proofs.Text.Splitting
import FormulaMap.Proofs.Text.Trimming

/-!
# Candidates are the scalar numbers a method declares

What a method declares is told here apart from how it is collected: its parameters, those that take
any number of arguments, its local variables however deep they stand in its body, and the variables
of loops over the elements of a collection.  Under the policy for numeric types a name becomes a
candidate exactly if one of these declarations makes it a scalar number, so an array is never the
reason, wherever its brackets are written.
-/

namespace FormulaMap
namespace Code

/-! ## Scalar numeric types -/

/-- Whether a type, as it is written, is neither an array nor generic and the last segment of its
name is that of a numeric type. -/
structure IsScalarNumeric (typeText : String) : Prop where
  noBrackets : '[' ∉ typeText.toList
  noArguments : '<' ∉ typeText.toList
  named : ∃ segment, Text.IsLastPiece '.' typeText.toList segment ∧
    String.ofList (Text.trim segment) ∈ numericTypeNames

/-- Blanks around a name take no part in its last segment but for blanks around it. -/
theorem exists_isLastPiece_of_trim {cs segment : List Char}
    (h : Text.IsLastPiece '.' (Text.trim cs) segment) :
    ∃ segment', Text.IsLastPiece '.' cs segment' ∧ Text.trim segment' = Text.trim segment := by
  obtain ⟨before, behind, hbefore, hbehind, hcs⟩ := Text.exists_blanks_around_trim cs
  have hnoDot : ∀ blanks : List Char, (∀ c ∈ blanks, Text.isBlank c = true) → '.' ∉ blanks := by
    intro blanks hblanks hdot
    have hblank := hblanks '.' hdot
    revert hblank
    decide
  obtain ⟨hsegment, htext | ⟨front, htext⟩⟩ := h
  · refine ⟨cs, ⟨?_, .inl rfl⟩, by rw [← htext, Text.trim_trim]⟩
    rw [hcs, htext]
    simp [hsegment, hnoDot before hbefore, hnoDot behind hbehind]
  · refine ⟨segment ++ behind, ⟨?_, .inr ⟨before ++ front, ?_⟩⟩, ?_⟩
    · simp [hsegment, hnoDot behind hbehind]
    · rw [hcs, htext]
      simp
    · exact @Text.trim_append_of_blank [] behind nofun hbehind segment

/-- No numeric type has arguments or brackets in its name. -/
theorem notMem_of_mem_numericTypeNames {name : String} (h : name ∈ numericTypeNames) :
    '<' ∉ name.toList ∧ '[' ∉ name.toList := by
  revert name
  decide

theorem declaresNumeric_iff (typeText : String) :
    declaresNumeric typeText = true ↔ IsScalarNumeric typeText := by
  rw [declaresNumeric, isNumericType, List.contains_iff_mem, declaredTypeName]
  have harguments : '<' ∈ Text.trim typeText.toList ↔ '<' ∈ typeText.toList :=
    Text.mem_trim_iff (by decide)
  have hbrackets : '[' ∈ Text.trim typeText.toList ↔ '[' ∈ typeText.toList :=
    Text.mem_trim_iff (by decide)
  simp only [Bool.or_eq_true, List.contains_iff_mem, harguments, hbrackets]
  split
  · next hwhole =>
      constructor
      · intro h
        have hnone := notMem_of_mem_numericTypeNames h
        rw [String.toList_ofList, harguments, hbrackets] at hnone
        exact absurd hwhole (not_or.mpr hnone)
      · intro h
        exact absurd hwhole (not_or.mpr ⟨h.noArguments, h.noBrackets⟩)
  · next hplain =>
      rw [not_or] at hplain
      obtain ⟨last, hlast⟩ := Text.exists_isLastPiece '.' (Text.trim typeText.toList)
      obtain ⟨segment, hsegment, htrim⟩ := exists_isLastPiece_of_trim hlast
      rw [Text.getLast?_splitAt hlast, Option.getD_some, ← htrim]
      constructor
      · intro h
        exact ⟨hplain.2, hplain.1, segment, hsegment, h⟩
      · rintro ⟨-, -, other, hother, h⟩
        rw [hsegment.unique hother]
        exact h

/-! ## What a method declares -/

/-- A variable as it is declared: its name, the text of its type, whether brackets stand behind the
name, whether it takes any number of arguments, and whether it is there for a loop. -/
structure Variable where
  name : String
  type? : Option String
  dimensions : Bool
  variadic : Bool
  counter : Bool

namespace Variable

/-- Whether a variable is a single number. -/
def IsScalar (v : Variable) : Prop :=
  v.variadic = false ∧ v.dimensions = false ∧ ∃ t ∈ v.type?, IsScalarNumeric t

/-- Whether a variable is an array, by brackets in its type, by brackets behind its name or because
it takes any number of arguments. -/
def IsArray (v : Variable) : Prop :=
  v.variadic = true ∨ v.dimensions = true ∨ ∃ t ∈ v.type?, '[' ∈ t.toList

theorem IsArray.not_isScalar {v : Variable} (h : v.IsArray) : ¬v.IsScalar := by
  rintro ⟨hvariadic, hdimensions, t, ht, hscalar⟩
  rcases h with h | h | ⟨t', ht', hbracket⟩
  · rw [hvariadic] at h
    cases h
  · rw [hdimensions] at h
    cases h
  · obtain rfl : t = t' := Option.mem_unique ht ht'
    exact hscalar.noBrackets hbracket

end Variable

namespace Node

/-- The text of the type that a node gives to what it declares. -/
def typeText? (n : Node) : Option String := (n.part? .type).map text

/-- What a method declares: its parameters, which may take any number of arguments; the variables of
every declaration inside its body, which are for a loop if they stand directly in its head or are
its statement; and the variables of the loops over the elements of a collection. -/
inductive Declares (method : Node) : Variable → Prop
  | parameter {list p name : Node} (hlist : method.part? .parameters = some list)
      (hp : p ∈ list.children) (hkind : p.kind = .phrase .formalParameter)
      (hname : p.part? .name = some name) :
      Declares method ⟨name.text, p.typeText?, p.hasDimensions, false, false⟩
  | variadic {list p d name : Node} (hlist : method.part? .parameters = some list)
      (hp : p ∈ list.children) (hkind : p.kind = .phrase .spreadParameter)
      (hd : d ∈ p.children) (hdeclarator : d.kind = .phrase .variableDeclarator)
      (hname : d.part? .name = some name) :
      Declares method ⟨name.text, p.typeText?, d.hasDimensions, true, false⟩
  | localVariable {body n parent d name : Node} (hbody : method.part? .body = some body)
      (hn : n.Within parent body) (hkind : n.kind = .phrase .localVariableDeclaration)
      (hd : d ∈ n.children) (hdeclarator : d.kind = .phrase .variableDeclarator)
      (hname : d.part? .name = some name) :
      Declares method
        ⟨name.text, n.typeText?, d.hasDimensions, false, parent.kind == .phrase .forStatement⟩
  | element {body n parent name : Node} (hbody : method.part? .body = some body)
      (hn : n.Within parent body) (hkind : n.kind = .phrase .enhancedForStatement)
      (hname : n.part? .name = some name) :
      Declares method ⟨name.text, n.typeText?, n.hasDimensions, false, true⟩

end Node

/-! ## What is collected -/

/-- What is noted of a variable. -/
def Variable.noted (v : Variable) : Declared :=
  ⟨v.name, !v.variadic && !v.dimensions && (v.type?.map declaresNumeric).getD false, v.counter⟩

theorem Variable.noted_numeric_iff (v : Variable) : v.noted.numeric = true ↔ v.IsScalar := by
  have htype : (v.type?.map declaresNumeric).getD false = true ↔
      ∃ t ∈ v.type?, IsScalarNumeric t := by
    cases v.type? with
    | none => simp
    | some t => simp [declaresNumeric_iff]
  rw [noted, IsScalar, Bool.and_eq_true, Bool.and_eq_true, Bool.not_eq_true', Bool.not_eq_true',
    htype, and_assoc]

namespace Node

theorem mem_declared_iff {n : Node} {numericType counter : Bool} {d : Declared} :
    d ∈ n.declared numericType counter ↔ ∃ name, n.part? .name = some name ∧
      d = ⟨name.text, numericType && !n.hasDimensions, counter⟩ := by
  rw [declared, Option.mem_toList, Option.map_eq_some_iff]
  simp only [eq_comm]

theorem mem_declarators_iff {n d : Node} :
    d ∈ n.declarators ↔ d ∈ n.children ∧ d.kind = .phrase .variableDeclarator := by
  rw [declarators, List.mem_filter, beq_iff_eq]

theorem hasNumericType_eq (n : Node) :
    n.hasNumericType = (n.typeText?.map declaresNumeric).getD false := by
  rw [hasNumericType, typeText?, Option.map_map]
  rfl

theorem exists_declares_of_mem_declaredByParameter {method list p : Node} {d : Declared}
    (hlist : method.part? .parameters = some list) (hp : p ∈ list.children)
    (h : d ∈ p.declaredByParameter) : ∃ v, method.Declares v ∧ v.noted = d := by
  rw [declaredByParameter] at h
  split at h
  · next hkind =>
      obtain ⟨name, hname, rfl⟩ := mem_declared_iff.mp h
      refine ⟨_, .parameter hlist hp hkind hname, ?_⟩
      simp [Variable.noted, hasNumericType_eq, Bool.and_comm]
  · split at h
    · next hkind =>
        obtain ⟨c, hc, hd⟩ := List.mem_flatMap.mp h
        obtain ⟨hchild, hdeclarator⟩ := mem_declarators_iff.mp hc
        obtain ⟨name, hname, rfl⟩ := mem_declared_iff.mp hd
        refine ⟨_, .variadic hlist hp hkind hchild hdeclarator hname, ?_⟩
        simp [Variable.noted]
    · cases h

theorem exists_declares_of_mem_declaredByStatement {method body parent n : Node} {d : Declared}
    (hbody : method.part? .body = some body) (hn : n.Within parent body)
    (h : d ∈ n.declaredByStatement parent.kind) : ∃ v, method.Declares v ∧ v.noted = d := by
  rw [declaredByStatement] at h
  split at h
  · next hkind =>
      obtain ⟨c, hc, hd⟩ := List.mem_flatMap.mp h
      obtain ⟨hchild, hdeclarator⟩ := mem_declarators_iff.mp hc
      obtain ⟨name, hname, rfl⟩ := mem_declared_iff.mp hd
      refine ⟨_, .localVariable hbody hn hkind hchild hdeclarator hname, ?_⟩
      simp [Variable.noted, hasNumericType_eq, Bool.and_comm]
  · split at h
    · next hkind =>
        obtain ⟨name, hname, rfl⟩ := mem_declared_iff.mp h
        refine ⟨_, .element hbody hn hkind hname, ?_⟩
        simp [Variable.noted, hasNumericType_eq, Bool.and_comm]
    · cases h

theorem mem_declaredByMethod_of_parameter {method list p : Node} {d : Declared}
    (hlist : method.part? .parameters = some list) (hp : p ∈ list.children)
    (h : d ∈ p.declaredByParameter) : d ∈ method.declaredByMethod := by
  simp only [declaredByMethod, hlist, Option.map_some, Option.getD_some]
  exact List.mem_append_left _ (List.mem_flatMap.mpr ⟨p, hp, h⟩)

theorem mem_declaredByMethod_of_statement {method body parent n : Node} {d : Declared}
    (hbody : method.part? .body = some body) (hn : n.Within parent body)
    (h : d ∈ n.declaredByStatement parent.kind) : d ∈ method.declaredByMethod := by
  have hmem : (n, parent.kind) ∈ body.descendants := mem_descendants_iff.mpr ⟨parent, hn, rfl⟩
  simp only [declaredByMethod, hbody, Option.map_some, Option.getD_some]
  exact List.mem_append_right _ (List.mem_flatMap.mpr ⟨_, hmem, h⟩)

theorem noted_mem_declaredByMethod {method : Node} {v : Variable} (h : method.Declares v) :
    v.noted ∈ method.declaredByMethod := by
  cases h with
  | @parameter list p name hlist hp hkind hname =>
      apply mem_declaredByMethod_of_parameter hlist hp
      rw [declaredByParameter, if_pos hkind, mem_declared_iff]
      refine ⟨name, hname, ?_⟩
      simp [Variable.noted, hasNumericType_eq, Bool.and_comm]
  | @variadic list p d name hlist hp hkind hd hdeclarator hname =>
      apply mem_declaredByMethod_of_parameter hlist hp
      rw [declaredByParameter, if_neg (by rw [hkind]; nofun), if_pos hkind, List.mem_flatMap]
      refine ⟨d, mem_declarators_iff.mpr ⟨hd, hdeclarator⟩, mem_declared_iff.mpr ⟨name, hname, ?_⟩⟩
      simp [Variable.noted]
  | @localVariable body n parent d name hbody hn hkind hd hdeclarator hname =>
      apply mem_declaredByMethod_of_statement hbody hn
      rw [declaredByStatement, if_pos hkind, List.mem_flatMap]
      refine ⟨d, mem_declarators_iff.mpr ⟨hd, hdeclarator⟩, mem_declared_iff.mpr ⟨name, hname, ?_⟩⟩
      simp [Variable.noted, hasNumericType_eq, Bool.and_comm]
  | @element body n parent name hbody hn hkind hname =>
      apply mem_declaredByMethod_of_statement hbody hn
      rw [declaredByStatement, if_neg (by rw [hkind]; nofun), if_pos hkind, mem_declared_iff]
      refine ⟨name, hname, ?_⟩
      simp [Variable.noted, hasNumericType_eq, Bool.and_comm]

/-- What is collected of a method is what is noted of the variables it declares. -/
theorem mem_declaredByMethod_iff {method : Node} {d : Declared} :
    d ∈ method.declaredByMethod ↔ ∃ v, method.Declares v ∧ v.noted = d := by
  constructor
  · intro h
    rcases List.mem_append.mp h with hparameter | hstatement
    · cases hlist : method.part? .parameters with
      | none => simp [hlist] at hparameter
      | some list =>
          rw [hlist] at hparameter
          obtain ⟨p, hp, hd⟩ := List.mem_flatMap.mp hparameter
          exact exists_declares_of_mem_declaredByParameter hlist hp hd
    · cases hbody : method.part? .body with
      | none => simp [hbody] at hstatement
      | some body =>
          rw [hbody] at hstatement
          obtain ⟨⟨n, around⟩, hn, hd⟩ := List.mem_flatMap.mp hstatement
          obtain ⟨parent, hwithin, rfl⟩ := mem_descendants_iff.mp hn
          exact exists_declares_of_mem_declaredByStatement hbody hwithin hd
  · rintro ⟨v, hv, rfl⟩
    exact noted_mem_declaredByMethod hv

end Node

/-! ## What a selection admits, site by site -/

/-- A node has a name for a part, and that is its text. -/
def Node.Names (n : Node) (name : String) : Prop :=
  ∃ part, n.part? .name = some part ∧ part.text = name

namespace Selection

variable {s : Selection} {name : String}

theorem mem_candidates_append_iff {ds es : List Declared} :
    name ∈ (s.candidates (ds ++ es)).toList ↔
      name ∈ (s.candidates ds).toList ∨ name ∈ (s.candidates es).toList := by
  simp only [mem_candidates_iff, List.mem_append, or_and_right, exists_or]

theorem mem_candidates_flatMap_iff {α : Type} {xs : List α} {f : α → List Declared} :
    name ∈ (s.candidates (xs.flatMap f)).toList ↔ ∃ x ∈ xs, name ∈ (s.candidates (f x)).toList := by
  simp only [mem_candidates_iff, List.mem_flatMap]
  constructor
  · rintro ⟨d, ⟨x, hx, hd⟩, hadmits⟩
    exact ⟨x, hx, d, hd, hadmits⟩
  · rintro ⟨x, hx, d, hd, hadmits⟩
    exact ⟨d, ⟨x, hx, hd⟩, hadmits⟩

/-- What a node declares is admitted by its type and its brackets, a counter only where counters are
asked for. -/
theorem mem_candidates_declared_iff {n : Node} {numericType counter : Bool} :
    name ∈ (s.candidates (n.declared numericType counter)).toList ↔
      (counter = true → s.counters = true) ∧
        s.policy.admits (numericType && !n.hasDimensions) = true ∧ n.Names name := by
  rw [mem_candidates_iff]
  constructor
  · rintro ⟨d, hd, hadmits, rfl⟩
    obtain ⟨part, hpart, rfl⟩ := Node.mem_declared_iff.mp hd
    rw [admits, Bool.and_eq_true] at hadmits
    refine ⟨?_, hadmits.2, part, hpart, rfl⟩
    rintro rfl
    simpa using hadmits.1
  · rintro ⟨hcounter, hadmits, part, hpart, rfl⟩
    refine ⟨_, Node.mem_declared_iff.mpr ⟨part, hpart, rfl⟩, ?_, rfl⟩
    rw [admits, Bool.and_eq_true]
    refine ⟨?_, hadmits⟩
    cases counter with
    | false => simp
    | true => simp [hcounter rfl]

theorem mem_candidates_formalParameter_iff {p : Node}
    (hkind : p.kind = .phrase .formalParameter) :
    name ∈ (s.candidates p.declaredByParameter).toList ↔
      s.policy.admits (p.hasNumericType && !p.hasDimensions) = true ∧ p.Names name := by
  rw [Node.declaredByParameter, if_pos hkind, mem_candidates_declared_iff]
  simp

/-- A parameter that takes any number of arguments is admitted only where names of any type are. -/
theorem mem_candidates_spreadParameter_iff {p : Node}
    (hkind : p.kind = .phrase .spreadParameter) :
    name ∈ (s.candidates p.declaredByParameter).toList ↔
      s.policy.admits false = true ∧ ∃ d ∈ p.declarators, d.Names name := by
  rw [Node.declaredByParameter, if_neg (by rw [hkind]; nofun), if_pos hkind,
    mem_candidates_flatMap_iff]
  simp only [mem_candidates_declared_iff, Bool.false_and, Bool.false_eq_true, false_implies,
    true_and]
  constructor
  · rintro ⟨d, hd, hadmits, hname⟩
    exact ⟨hadmits, d, hd, hname⟩
  · rintro ⟨hadmits, d, hd, hname⟩
    exact ⟨d, hd, hadmits, hname⟩

/-- The variables of a declaration directly under a loop are left out as a whole unless counters are
asked for, and the others are admitted one by one. -/
theorem mem_candidates_localVariable_iff {n : Node} {parent : Kind}
    (hkind : n.kind = .phrase .localVariableDeclaration) :
    name ∈ (s.candidates (n.declaredByStatement parent)).toList ↔
      (parent = .phrase .forStatement → s.counters = true) ∧
        ∃ d ∈ n.declarators, s.policy.admits (n.hasNumericType && !d.hasDimensions) = true ∧
          d.Names name := by
  rw [Node.declaredByStatement, if_pos hkind, mem_candidates_flatMap_iff]
  simp only [mem_candidates_declared_iff, beq_iff_eq]
  constructor
  · rintro ⟨d, hd, hcounter, hadmits⟩
    exact ⟨hcounter, d, hd, hadmits⟩
  · rintro ⟨hcounter, d, hd, hadmits⟩
    exact ⟨d, hd, hcounter, hadmits⟩

/-- The variable of a loop over elements is there only where counters are asked for. -/
theorem mem_candidates_enhancedFor_iff {n : Node} {parent : Kind}
    (hkind : n.kind = .phrase .enhancedForStatement) :
    name ∈ (s.candidates (n.declaredByStatement parent)).toList ↔
      s.counters = true ∧ s.policy.admits (n.hasNumericType && !n.hasDimensions) = true ∧
        n.Names name := by
  rw [Node.declaredByStatement, if_neg (by rw [hkind]; nofun), if_pos hkind,
    mem_candidates_declared_iff]
  simp

/-- Parameters are admitted at two sites. -/
theorem mem_candidates_declaredByParameter_iff {p : Node} :
    name ∈ (s.candidates p.declaredByParameter).toList ↔
      p.kind = .phrase .formalParameter ∧
          s.policy.admits (p.hasNumericType && !p.hasDimensions) = true ∧ p.Names name ∨
        p.kind = .phrase .spreadParameter ∧
          s.policy.admits false = true ∧ ∃ d ∈ p.declarators, d.Names name := by
  by_cases hformal : p.kind = .phrase .formalParameter
  · rw [mem_candidates_formalParameter_iff hformal]
    simp [hformal]
  · by_cases hspread : p.kind = .phrase .spreadParameter
    · rw [mem_candidates_spreadParameter_iff hspread]
      simp [hspread]
    · rw [Node.declaredByParameter, if_neg hformal, if_neg hspread, mem_candidates_iff]
      simp [hformal, hspread]

/-- Statements are admitted at two sites. -/
theorem mem_candidates_declaredByStatement_iff {n : Node} {parent : Kind} :
    name ∈ (s.candidates (n.declaredByStatement parent)).toList ↔
      n.kind = .phrase .localVariableDeclaration ∧
          (parent = .phrase .forStatement → s.counters = true) ∧
          (∃ d ∈ n.declarators, s.policy.admits (n.hasNumericType && !d.hasDimensions) = true ∧
            d.Names name) ∨
        n.kind = .phrase .enhancedForStatement ∧ s.counters = true ∧
          s.policy.admits (n.hasNumericType && !n.hasDimensions) = true ∧ n.Names name := by
  by_cases hlocal : n.kind = .phrase .localVariableDeclaration
  · rw [mem_candidates_localVariable_iff hlocal]
    simp [hlocal]
  · by_cases hfor : n.kind = .phrase .enhancedForStatement
    · rw [mem_candidates_enhancedFor_iff hfor]
      simp [hfor]
    · rw [Node.declaredByStatement, if_neg hlocal, if_neg hfor, mem_candidates_iff]
      simp [hlocal, hfor]

/-- The candidates of a method are those of its parameters and of the statements inside its body. -/
theorem mem_candidates_declaredByMethod_iff {method : Node} :
    name ∈ (s.candidates method.declaredByMethod).toList ↔
      (∃ list, method.part? .parameters = some list ∧
        ∃ p ∈ list.children, name ∈ (s.candidates p.declaredByParameter).toList) ∨
      ∃ body, method.part? .body = some body ∧ ∃ n parent : Node, n.Within parent body ∧
        name ∈ (s.candidates (n.declaredByStatement parent.kind)).toList := by
  rw [Node.declaredByMethod, mem_candidates_append_iff, mem_candidates_flatMap_iff,
    mem_candidates_flatMap_iff]
  apply or_congr
  · cases method.part? .parameters with
    | none => simp
    | some list => simp
  · cases method.part? .body with
    | none => simp
    | some body =>
        simp only [Option.map_some, Option.getD_some, Option.some.injEq, exists_eq_left',
          Prod.exists, Node.mem_descendants_iff]
        constructor
        · rintro ⟨n, -, ⟨parent, hwithin, rfl⟩, hname⟩
          exact ⟨n, parent, hwithin, hname⟩
        · rintro ⟨n, parent, hwithin, hname⟩
          exact ⟨n, _, ⟨parent, hwithin, rfl⟩, hname⟩

end Selection

/-! ## Candidates -/

/-- The candidates of a method under the policy for numeric types. -/
theorem mem_candidates_numericTyped_iff {method : Node} {counters : Bool} {name : String} :
    name ∈ (Selection.candidates ⟨.numericTyped, counters⟩ method.declaredByMethod).toList ↔
      ∃ v, method.Declares v ∧ v.name = name ∧ (v.counter = true → counters = true) ∧
        v.IsScalar := by
  have hadmits : ∀ v : Variable,
      Selection.admits ⟨.numericTyped, counters⟩ v.noted = true ↔
        (v.counter = true → counters = true) ∧ v.IsScalar := by
    intro v
    rw [Selection.admits, VariablePolicy.admits, Bool.and_eq_true, v.noted_numeric_iff,
      Variable.noted]
    cases counters <;> cases v.counter <;> simp
  rw [Selection.mem_candidates_iff]
  constructor
  · rintro ⟨d, hd, hadmitted, hname⟩
    obtain ⟨v, hv, rfl⟩ := Node.mem_declaredByMethod_iff.mp hd
    exact ⟨v, hv, hname, (hadmits v).mp hadmitted⟩
  · rintro ⟨v, hv, hname, hadmitted⟩
    exact ⟨v.noted, Node.noted_mem_declaredByMethod hv, (hadmits v).mpr hadmitted, hname⟩

/-- A name is among the candidates of a record exactly if some declaration of the method makes it a
scalar number, those for loops only if counters are asked for.  So a name that is declared for
arrays only, by brackets in the type, by brackets behind the name or as a parameter that takes any
number of arguments, is never a candidate. -/
structure ScalarCandidates (counters : Bool) (method : Node) (r : MethodRecord) : Prop where
  mem_iff : ∀ name, name ∈ r.candidates.toList ↔
    ∃ v, method.Declares v ∧ v.name = name ∧ (v.counter = true → counters = true) ∧ v.IsScalar
  notMem_of_arrays : ∀ name, (∀ v, method.Declares v → v.name = name → v.IsArray) →
    name ∉ r.candidates.toList

theorem scalarCandidates_of_candidates_eq {counters : Bool} {method : Node} {r : MethodRecord}
    (h : r.candidates = Selection.candidates ⟨.numericTyped, counters⟩ method.declaredByMethod) :
    ScalarCandidates counters method r := by
  have hmem (name : String) : name ∈ r.candidates.toList ↔ ∃ v, method.Declares v ∧
      v.name = name ∧ (v.counter = true → counters = true) ∧ v.IsScalar := by
    rw [h]
    exact mem_candidates_numericTyped_iff
  refine ⟨hmem, ?_⟩
  intro name harrays hcandidate
  obtain ⟨v, hv, hname, -, hscalar⟩ := (hmem name).mp hcandidate
  exact (harrays v hv hname).not_isScalar hscalar

/-- A tree that has no fault and declares methods gives a record for each of them, and under the
policy for numeric types the candidates of the record are the scalar numbers that the method
declares.  So it is for the syntax tree of a source text. -/
theorem candidates_are_scalar_numbers (source : String) (counters : Bool) :
    (∀ tree : Forest, tree.IsTree →
      RecordsBy (ScalarCandidates counters) (tree.located [] 0)
        (recordsOfTree source ⟨.numericTyped, counters⟩ tree)) ∧
    RecordsBy (ScalarCandidates counters) ((syntaxTree source.toList).located [] 0)
      (records source ⟨.numericTyped, counters⟩) :=
  recordsBy_every_tree (fun _ _ hcandidates _ => scalarCandidates_of_candidates_eq hcandidates)
    source

/-- The declaration of `a` and `b` in `int a, b[];`, as the body of a method. -/
def mixedDeclaration : Node where
  kind := .phrase .methodDeclaration
  inner := .node "void f()".toList (some .body) (.phrase .block)
    (.node "\x7b ".toList none (.phrase .localVariableDeclaration)
      (.node [] (some .type) (.phrase .integralType) (.text "int".toList)
        (.node " ".toList (some .declarator) (.phrase .variableDeclarator)
          (.node [] (some .name) (.token .identifier) (.text "a".toList) (.text []))
          (.node ", ".toList (some .declarator) (.phrase .variableDeclarator)
            (.node [] (some .name) (.token .identifier) (.text "b".toList)
              (.node [] (some .dimensions) (.phrase .dimensions) (.text "[]".toList) (.text [])))
            (.text ";".toList))))
      (.text " \x7d".toList))
    (.text [])

/-- Of the two only the scalar is a candidate. -/
theorem candidates_are_scalar_numbers_mixed :
    let tree := Forest.ofMethod mixedDeclaration
    let found := recordsOfTree (String.ofList tree.spelling) ⟨.numericTyped, false⟩ tree
    RecordsBy (ScalarCandidates false) (tree.located [] 0) found ∧
      ∃ rs, found = .ok rs ∧ rs.map (·.candidates.toList) = [["a"]] := by
  intro tree found
  have hcandidates := (candidates_are_scalar_numbers (String.ofList tree.spelling) false).1 tree
    (isTree_ofMethod _)
  exact ⟨hcandidates, [_], rfl, by decide⟩

end Code
end FormulaMap
