import FormulaMap.Proofs.Code.Declarations

/-!
# The nodes of a syntax tree in the order of the text

A tree is gone through twice, once for its first fault and once for its method declarations.  Both
walks meet the nodes in one order, each before those inside it, and miss none however deep it
stands: the fault that is reported is the first node at fault, and there is a record for every
method declaration, also for those inside the bodies of others.
-/

namespace FormulaMap
namespace Code

/-- A node of a tree, the text before it and the number of nodes it stands in. -/
structure Located where
  before : List Char
  depth : Nat
  node : Node

/-- All nodes of a forest, each before those inside it, given the text before the forest and the
number of nodes around it. -/
def Forest.located (before : List Char) (depth : Nat) : Forest → List Located
  | .text _ => []
  | .node lead _ kind inner after =>
    let here := before ++ lead
    ⟨here, depth, ⟨kind, inner⟩⟩ ::
      (inner.located here (depth + 1) ++ after.located (here ++ inner.spelling) depth)

namespace Located

/-- Whether a node is a stretch of text that no rule accounts for, or, if it is not the root, one
that has neither nodes in it nor text. -/
def isFaulty (p : Located) : Bool :=
  p.node.kind == .fault || 0 < p.depth && p.node.children.isEmpty && p.node.spelling.isEmpty

/-- Whether a node is a method declaration; a constructor is none. -/
def isMethod (p : Located) : Bool := p.node.kind == .phrase .methodDeclaration

/-- The row and the column where a node starts, both counted from one. -/
def place (p : Located) : Place :=
  ⟨p.before.count '\n' + 1, (lineSoFar p.before).length + 1⟩

/-- What is said of a node that is at fault. -/
def fault (p : Located) : Fault :=
  if p.node.kind = .fault then .unexpected p.node.spelling p.place
  else .missing p.node.kind p.place

@[simp]
theorem place_fault (p : Located) : p.fault.place = p.place := by
  rw [fault]
  split
  · rfl
  · rfl

/-- A node stands inside another, in a part of its text. -/
def Inside (q p : Located) : Prop :=
  p.depth < q.depth ∧ ∃ lead rest,
    q.before = p.before ++ lead ∧ p.node.spelling = lead ++ (q.node.spelling ++ rest)

/-- A node stands behind all of another. -/
def Behind (q p : Located) : Prop := p.before ++ p.node.spelling <+: q.before

end Located

/-! ## Where nodes stand -/

/-- A node stands in a part of the text of the forest it is from. -/
theorem exists_lead_of_mem_located {f : Forest} {before : List Char} {depth : Nat} {p : Located}
    (h : p ∈ f.located before depth) :
    depth ≤ p.depth ∧ ∃ lead rest,
      p.before = before ++ lead ∧ f.spelling = lead ++ (p.node.spelling ++ rest) := by
  induction f generalizing before depth with
  | text cs => cases h
  | node lead field kind inner after ihInner ihAfter =>
      rw [Forest.located, List.mem_cons, List.mem_append] at h
      rw [Forest.spelling_node]
      rcases h with rfl | hinner | hafter
      · exact ⟨Nat.le_refl _, lead, after.spelling, rfl, rfl⟩
      · obtain ⟨hdepth, more, rest, hbefore, hspelling⟩ := ihInner hinner
        refine ⟨by omega, lead ++ more, rest ++ after.spelling, ?_, ?_⟩
        · rw [hbefore, List.append_assoc]
        · rw [hspelling]
          simp
      · obtain ⟨hdepth, more, rest, hbefore, hspelling⟩ := ihAfter hafter
        refine ⟨hdepth, lead ++ (inner.spelling ++ more), rest, ?_, ?_⟩
        · rw [hbefore]
          simp
        · rw [hspelling]
          simp

/-- Of two nodes the later stands inside the earlier or behind it. -/
theorem pairwise_located (f : Forest) (before : List Char) (depth : Nat) :
    (f.located before depth).Pairwise fun p q => q.Inside p ∨ q.Behind p := by
  induction f generalizing before depth with
  | text cs => exact .nil
  | node lead field kind inner after ihInner ihAfter =>
      rw [Forest.located, List.pairwise_cons, List.pairwise_append]
      refine ⟨?_, ihInner _ _, ihAfter _ _, ?_⟩
      · intro q hq
        rcases List.mem_append.mp hq with hinner | hafter
        · left
          obtain ⟨hdepth, hparts⟩ := exists_lead_of_mem_located hinner
          exact ⟨hdepth, hparts⟩
        · right
          obtain ⟨-, more, rest, hbefore, -⟩ := exists_lead_of_mem_located hafter
          exact ⟨more, hbefore.symm⟩
      · intro p hp q hq
        right
        obtain ⟨-, leadOf, restOf, hp, hspelling⟩ := exists_lead_of_mem_located hp
        obtain ⟨-, more, rest, hq, -⟩ := exists_lead_of_mem_located hq
        refine ⟨restOf ++ more, ?_⟩
        rw [hp, hq, hspelling]
        simp

theorem isPrefix_of_inside_or_behind {p q : Located} (h : q.Inside p ∨ q.Behind p) :
    p.before <+: q.before := by
  rcases h with ⟨-, lead, -, hbefore, -⟩ | hbehind
  · exact ⟨lead, hbefore.symm⟩
  · exact (List.prefix_append _ _).trans hbehind

/-! ## The first fault -/

/-- A place behind a text is told by its line ends and its last line. -/
theorem behind_start (cs : List Char) :
    Place.start.behind cs = ⟨cs.count '\n' + 1, (lineSoFar cs).length + 1⟩ := by
  induction cs using List.reverseRecOn with
  | nil => rfl
  | append_singleton cs c ih =>
      have hstep : Place.start.behind (cs ++ [c]) = (Place.start.behind cs).step c := by
        rw [Place.behind, List.foldl_append]
        rfl
      rw [hstep, ih, Place.step, lineSoFar, lineSoFar, List.rtakeWhile_concat, List.count_append]
      by_cases hc : c = '\n'
      · subst hc
        simp
      · have hcount : [c].count '\n' = 0 := by
          simpa [List.count_singleton] using hc
        simp [hc, hcount]

theorem behind_append (p : Place) (cs ds : List Char) :
    p.behind (cs ++ ds) = (p.behind cs).behind ds := by
  rw [Place.behind, List.foldl_append]
  rfl

/-- A node that is not the root is refused if it is at fault. -/
theorem fault?_eq (before : List Char) (depth : Nat) (n : Node) :
    n.fault? (Place.start.behind before) =
      if Located.isFaulty ⟨before, depth + 1, n⟩ then
        some (Located.fault ⟨before, depth + 1, n⟩)
      else none := by
  have hchildren : n.children.isEmpty = n.inner.nodes.isEmpty := by
    rw [Node.children, List.isEmpty_map]
  rw [Node.fault?, behind_start, Located.isFaulty, Located.fault, Located.place]
  by_cases hkind : n.kind = .fault
  · simp [hkind]
  · simp [hkind, hchildren]

/-- Going through a forest inside the root ends at its first node at fault. -/
theorem inspect_eq (f : Forest) (before : List Char) (depth : Nat) :
    f.inspect (Place.start.behind before) =
      match (f.located before (depth + 1)).find? Located.isFaulty with
      | some p => .error p.fault
      | none => .ok (Place.start.behind (before ++ f.spelling)) := by
  induction f generalizing before depth with
  | text cs =>
      rw [Forest.inspect, ← behind_append]
      simp [Forest.located]
  | node lead field kind inner after ihInner ihAfter =>
      rw [Forest.inspect, ← behind_append, Forest.located, List.find?_cons,
        fault?_eq (before ++ lead) depth ⟨kind, inner⟩]
      cases hhere : Located.isFaulty ⟨before ++ lead, depth + 1, ⟨kind, inner⟩⟩ with
      | true => rfl
      | false =>
          simp only [Bool.false_eq_true, if_false]
          rw [List.find?_append, ihInner (before ++ lead) (depth + 1)]
          cases hinner : (inner.located (before ++ lead) (depth + 1 + 1)).find?
              Located.isFaulty with
          | some p => rfl
          | none =>
              simp only [Except.bind, Option.none_or]
              rw [ihAfter (before ++ lead ++ inner.spelling) depth, Forest.spelling_node]
              simp

/-- The fault of a tree is that of its first node at fault. -/
theorem rootFault?_eq (lead : List Char) (field : Option Field) (kind : Kind) (inner : Forest) :
    (Forest.node lead field kind inner (.text [])).rootFault? =
      (((Forest.node lead field kind inner (.text [])).located [] 0).find?
        Located.isFaulty).map Located.fault := by
  have hroot : Located.isFaulty ⟨lead, 0, ⟨kind, inner⟩⟩ = (kind == .fault) := by
    simp [Located.isFaulty]
  rw [Forest.rootFault?, Forest.located, List.find?_cons, List.nil_append, hroot]
  by_cases hkind : kind = .fault
  · have hplace := behind_start lead
    simp [hkind, Located.fault, Located.place, Node.spelling, hplace]
  · have hinner := inspect_eq inner lead 0
    simp only [hkind, if_false, hinner]
    cases hfound : (inner.located lead (0 + 1)).find? Located.isFaulty with
    | some p => simp [Forest.located, hfound, beq_false_of_ne hkind]
    | none => simp [Forest.located, hfound, beq_false_of_ne hkind]

/-! ## The methods -/

/-- The declarations of a forest are the method declarations among its nodes. -/
theorem declarations_eq (f : Forest) (before : List Char) (depth : Nat) :
    f.declarations before =
      ((f.located before depth).filter Located.isMethod).map fun p => ⟨p.before, p.node⟩ := by
  induction f generalizing before depth with
  | text cs => rfl
  | node lead field kind inner after ihInner ihAfter =>
      have hparts := congrArg₂ (· ++ ·) (ihInner (before ++ lead) (depth + 1))
        (ihAfter (before ++ lead ++ inner.spelling) depth)
      simp only [← List.map_append, ← List.filter_append] at hparts
      rw [Forest.declarations, Forest.located, List.filter_cons]
      by_cases hkind : kind = .phrase .methodDeclaration
      · rw [if_pos hkind, hparts, if_pos (by simp [Located.isMethod, hkind]), List.map_cons]
      · rw [if_neg hkind, hparts, if_neg (by simp [Located.isMethod, hkind])]

/-- The methods of a forest are the method declarations among its nodes, in their order. -/
theorem forall₂_located_methods (f : Forest) :
    List.Forall₂ (fun p m => m.node = p.node ∧ m.rowsBefore = p.before.count '\n')
      ((f.located [] 0).filter Located.isMethod) (f.methods 0 []) := by
  have hmethods := forall₂_declarations_methods f [] []
  rw [declarations_eq f [] 0, List.forall₂_map_left_iff] at hmethods
  exact hmethods

theorem pairwise_rows_located (f : Forest) :
    (((f.located [] 0).filter Located.isMethod).map fun p => p.place.row).Pairwise (· ≤ ·) := by
  rw [List.pairwise_map]
  have horder := (pairwise_located f [] 0).filter Located.isMethod
  refine horder.imp ?_
  intro p q h
  simp only [Located.place]
  have hcount := (isPrefix_of_inside_or_behind h).sublist.count_le '\n'
  omega

/-! ## The nodes of a tree -/

/-- A tree is one node, with everything else inside it. -/
def Forest.IsTree (f : Forest) : Prop :=
  ∃ lead field kind inner, f = .node lead field kind inner (.text [])

/-- The nodes of a tree as they stand in the text: all but the first are inside others, and of two
nodes the later stands inside the earlier or behind it. -/
structure InOrder (nodes : List Located) : Prop where
  rooted : ∃ root inside, nodes = root :: inside ∧ root.depth = 0 ∧ ∀ p ∈ inside, 0 < p.depth
  placed : nodes.Pairwise fun p q => q.Inside p ∨ q.Behind p

theorem Forest.IsTree.inOrder {tree : Forest} (h : tree.IsTree) :
    InOrder (tree.located [] 0) := by
  obtain ⟨lead, field, kind, inner, rfl⟩ := h
  refine ⟨?_, pairwise_located _ [] 0⟩
  rw [located]
  refine ⟨_, _, rfl, rfl, ?_⟩
  intro p hp
  rw [located, List.append_nil] at hp
  exact (exists_lead_of_mem_located hp).1

theorem Forest.IsTree.rootFault?_eq {tree : Forest} (h : tree.IsTree) :
    tree.rootFault? = ((tree.located [] 0).find? Located.isFaulty).map Located.fault := by
  obtain ⟨lead, field, kind, inner, rfl⟩ := h
  exact Code.rootFault?_eq lead field kind inner

/-- A node of a tree stands in the text that the tree spells, behind the text before it. -/
theorem exists_behind_of_mem_located {tree : Forest} {source : List Char}
    (htree : tree.spelling = source) {p : Located} (h : p ∈ tree.located [] 0) :
    ∃ behind, source = p.before ++ p.node.spelling ++ behind := by
  obtain ⟨-, lead, rest, hbefore, hparts⟩ := exists_lead_of_mem_located h
  refine ⟨rest, ?_⟩
  rw [← htree, hparts, hbefore]
  simp

/-- A tree that is shown as a given kind is one node of that kind. -/
theorem exists_plant_some_eq (kind : Kind) (g : Reader.Growth) :
    ∃ lead inner, plant (some kind) g = .node lead none kind inner (.text []) := by
  cases g with
  | leaf facts blank cs => exact ⟨_, _, by rw [plant, enclose, if_pos (by simp), Option.getD_some]⟩
  | branch facts production children =>
      exact ⟨_, _, by rw [plant, enclose, if_pos (by simp), Option.getD_some]⟩

theorem isTree_syntaxTree (source : List Char) : (syntaxTree source).IsTree := by
  unfold syntaxTree
  cases Reader.read source with
  | none => exact ⟨[], none, .fault, .text source, rfl⟩
  | some g =>
      obtain ⟨lead, inner, hplant⟩ := exists_plant_some_eq (kindOf g.label) g
      exact ⟨lead, none, kindOf g.label, inner, hplant⟩

theorem exists_located_plant_leaf (kind : Kind) (facts : Reader.Facts) (blank cs : List Char) :
    ∃ q, (plant (some kind) (.leaf facts blank cs)).located [] 0 = [q] := by
  rw [plant, enclose, if_pos (by simp)]
  exact ⟨_, rfl⟩

/-- A node of a syntax tree stands in the source text behind the text before it, unless the tree
is a single node. -/
theorem located_syntaxTree {source : List Char} {p : Located}
    (h : p ∈ (syntaxTree source).located [] 0) :
    (syntaxTree source).located [] 0 = [p] ∨
      ∃ behind, source = p.before ++ p.node.spelling ++ behind := by
  have hwhole : (∃ q, (syntaxTree source).located [] 0 = [q]) ∨
      (syntaxTree source).spelling = source := by
    unfold syntaxTree
    generalize hread : Reader.read source = found
    cases found with
    | none => exact .inl ⟨_, rfl⟩
    | some g =>
        rcases Reader.whole_of_read hread with hspelling | ⟨facts, blank, cs, rfl, -⟩
        · right
          exact (Reader.Growth.spelling_plant _ g).trans hspelling
        · left
          exact exists_located_plant_leaf _ facts blank cs
  rcases hwhole with ⟨q, hsingle⟩ | hspelling
  · left
    rw [hsingle, List.mem_singleton] at h
    rw [hsingle, h]
  · right
    exact exists_behind_of_mem_located hspelling h

/-! ## The records of a tree -/

theorem methods_eq_nil_iff (f : Forest) :
    f.methods 0 [] = [] ↔ ∀ p ∈ f.located [] 0, p.isMethod = false := by
  have hmethods := (forall₂_located_methods f).length_eq
  rw [← List.length_eq_zero_iff, ← hmethods, List.length_eq_zero_iff, List.filter_eq_nil_iff]
  simp only [Bool.not_eq_true]

/-- The records of the methods of a forest follow its method declarations. -/
theorem forall₂_located_records (f : Forest) (lines : List (List Char)) (s : Selection) :
    List.Forall₂ (fun p r => r.name = ((p.node.part? .name).map Node.text).getD "" ∧
        r.candidates = s.candidates p.node.declaredByMethod ∧ r.calls = p.node.calls ∧
        r.startLine = p.place.row)
      ((f.located [] 0).filter Located.isMethod)
      ((f.methods 0 []).map (Method.record lines s)) := by
  rw [List.forall₂_map_right_iff]
  refine (forall₂_located_methods f).imp ?_
  rintro p m ⟨hnode, hrows⟩
  refine ⟨?_, ?_, ?_, ?_⟩
  · rw [Method.record, Method.name, hnode]
  · rw [Method.record, hnode]
  · rw [Method.record, hnode]
  · rw [Method.record, Method.startLine, hrows, Located.place]

theorem pairwise_startLine_records (f : Forest) (lines : List (List Char)) (s : Selection) :
    (((f.methods 0 []).map (Method.record lines s)).map (·.startLine)).Pairwise (· ≤ ·) := by
  have hlines : List.Forall₂ (· = ·)
      (((f.located [] 0).filter Located.isMethod).map fun p => p.place.row)
      (((f.methods 0 []).map (Method.record lines s)).map (·.startLine)) := by
    rw [List.forall₂_map_left_iff, List.forall₂_map_right_iff]
    refine (forall₂_located_records f lines s).imp ?_
    rintro p r ⟨-, -, -, hline⟩
    exact hline.symm
  rw [List.forall₂_eq_eq_eq] at hlines
  rw [← hlines]
  exact pairwise_rows_located f

/-- A tree gives its first fault, or no methods, or the records of all its methods. -/
theorem recordsOfTree_by_nodes (source : String) (s : Selection) {tree : Forest}
    (htree : tree.IsTree) :
    let nodes := tree.located [] 0
    (∃ front p behind, nodes = front ++ p :: behind ∧ p.isFaulty = true ∧
      (∀ q ∈ front, q.isFaulty = false) ∧
      recordsOfTree source s tree = .error (.faulty p.fault)) ∨
    (∀ p ∈ nodes, p.isFaulty = false) ∧
      ((∀ p ∈ nodes, p.isMethod = false) ∧ recordsOfTree source s tree = .error .noMethods ∨
        (∃ p ∈ nodes, p.isMethod = true) ∧
          recordsOfTree source s tree = .ok ((tree.methods 0 []).map
            (Method.record (Text.splitAt '\n' source.toList) s))) := by
  intro nodes
  have hfault : tree.rootFault? = (nodes.find? Located.isFaulty).map Located.fault :=
    htree.rootFault?_eq
  cases hfind : nodes.find? Located.isFaulty with
  | some p =>
      left
      obtain ⟨hp, front, behind, hnodes, hfront⟩ := List.find?_eq_some_iff_append.mp hfind
      rw [hfind, Option.map_some] at hfault
      refine ⟨front, p, behind, hnodes, hp, by simpa using hfront, ?_⟩
      rw [recordsOfTree, hfault]
  | none =>
      right
      rw [hfind, Option.map_none] at hfault
      refine ⟨by simpa using List.find?_eq_none.mp hfind, ?_⟩
      have hmethods := methods_eq_nil_iff tree
      rw [recordsOfTree, hfault]
      cases hms : tree.methods 0 [] with
      | nil => exact .inl ⟨hmethods.mp hms, rfl⟩
      | cons m ms =>
          refine .inr ⟨?_, rfl⟩
          by_contra hnone
          have hnil := hmethods.mpr (by simpa using hnone)
          rw [hms] at hnil
          cases hnil

/-- What is found fails only if a node is at fault or none is a method declaration, and otherwise
there is one record for each method declaration, in a given relation to it. -/
def RecordsBy (R : Node → MethodRecord → Prop) (nodes : List Located)
    (found : Except ReadFailure (List MethodRecord)) : Prop :=
  ((∃ p ∈ nodes, p.isFaulty = true) ∨ ∀ p ∈ nodes, p.isMethod = false) ∧
      (∃ failure, found = .error failure) ∨
    ∃ rs, found = .ok rs ∧
      List.Forall₂ (fun p r => R p.node r) (nodes.filter Located.isMethod) rs

/-- A relation between methods and their records holds of all that a tree gives. -/
theorem recordsBy_recordsOfTree {R : Node → MethodRecord → Prop} {s : Selection}
    (h : ∀ (n : Node) (r : MethodRecord), r.candidates = s.candidates n.declaredByMethod →
      r.calls = n.calls → R n r) (source : String) {tree : Forest} (htree : tree.IsTree) :
    RecordsBy R (tree.located [] 0) (recordsOfTree source s tree) := by
  rcases recordsOfTree_by_nodes source s htree with ⟨front, p, behind, hnodes, hp, -, hrecords⟩ |
    ⟨-, ⟨hmethods, hrecords⟩ | ⟨-, hrecords⟩⟩
  · have hmem : p ∈ tree.located [] 0 := hnodes ▸ List.mem_append_cons_self
    exact .inl ⟨.inl ⟨p, hmem, hp⟩, _, hrecords⟩
  · exact .inl ⟨.inr hmethods, _, hrecords⟩
  · refine .inr ⟨_, hrecords, (forall₂_located_records tree _ s).imp ?_⟩
    rintro p r ⟨-, hcandidates, hcalls, -⟩
    exact h p.node r hcandidates hcalls

/-- So it does of all that any tree gives, and of what a source text gives. -/
theorem recordsBy_every_tree {R : Node → MethodRecord → Prop} {s : Selection}
    (h : ∀ (n : Node) (r : MethodRecord), r.candidates = s.candidates n.declaredByMethod →
      r.calls = n.calls → R n r) (source : String) :
    (∀ tree : Forest, tree.IsTree →
      RecordsBy R (tree.located [] 0) (recordsOfTree source s tree)) ∧
    RecordsBy R ((syntaxTree source.toList).located [] 0) (records source s) :=
  ⟨fun _ htree => recordsBy_recordsOfTree h source htree,
    recordsBy_recordsOfTree h source (isTree_syntaxTree source.toList)⟩

/-- What is found follows the nodes of a tree: there is a fault exactly if some node is at fault,
and the first such node is reported, at its place; there are no methods exactly if no node is at
fault and none is a method declaration; and otherwise there is one record for each method
declaration, wherever it stands, in the order of the nodes, and their lines never go back. -/
structure FollowsNodes (s : Selection) (nodes : List Located)
    (found : Except ReadFailure (List MethodRecord)) : Prop where
  faulty_iff : (∃ fault, found = .error (.faulty fault)) ↔ ∃ p ∈ nodes, p.isFaulty = true
  first_fault : ∀ fault, found = .error (.faulty fault) → ∃ front p behind,
    nodes = front ++ p :: behind ∧ p.isFaulty = true ∧
      (∀ q ∈ front, q.isFaulty = false) ∧ fault = p.fault ∧ fault.place = p.place
  noMethods_iff : found = .error .noMethods ↔
    (∀ p ∈ nodes, p.isFaulty = false) ∧ ∀ p ∈ nodes, p.isMethod = false
  records : (∀ p ∈ nodes, p.isFaulty = false) → (∃ p ∈ nodes, p.isMethod = true) →
    ∃ rs, found = .ok rs ∧
      List.Forall₂ (fun p r => r.name = ((p.node.part? .name).map Node.text).getD "" ∧
          r.candidates = s.candidates p.node.declaredByMethod ∧ r.calls = p.node.calls ∧
          r.startLine = p.place.row)
        (nodes.filter Located.isMethod) rs ∧
      (rs.map (·.startLine)).Pairwise (· ≤ ·)

theorem followsNodes_recordsOfTree (source : String) (s : Selection) {tree : Forest}
    (htree : tree.IsTree) :
    FollowsNodes s (tree.located [] 0) (recordsOfTree source s tree) := by
  rcases recordsOfTree_by_nodes source s htree with
    ⟨front, p, behind, hnodes, hp, hfront, hrecords⟩ |
    ⟨hsound, ⟨hmethods, hrecords⟩ | ⟨hmethods, hrecords⟩⟩
  · have hmem : p ∈ tree.located [] 0 := hnodes ▸ List.mem_append_cons_self
    have hfaulty : ∃ p ∈ tree.located [] 0, p.isFaulty = true := ⟨p, hmem, hp⟩
    have hunsound : ¬∀ p ∈ tree.located [] 0, p.isFaulty = false := by simpa using hfaulty
    refine ⟨⟨fun _ => hfaulty, fun _ => ⟨p.fault, hrecords⟩⟩, ?_, ?_, ?_⟩
    · intro fault h
      rw [hrecords] at h
      cases h
      exact ⟨front, p, behind, hnodes, hp, hfront, rfl, p.place_fault⟩
    · rw [hrecords]
      exact ⟨nofun, fun h => absurd h.1 hunsound⟩
    · exact fun h => absurd h hunsound
  · rw [hrecords]
    refine ⟨⟨nofun, ?_⟩, nofun, ⟨fun _ => ⟨hsound, hmethods⟩, fun _ => rfl⟩, ?_⟩
    · rintro ⟨p, hp, hfaulty⟩
      rw [hsound p hp] at hfaulty
      cases hfaulty
    · rintro - ⟨p, hp, hmethod⟩
      rw [hmethods p hp] at hmethod
      cases hmethod
  · rw [hrecords]
    refine ⟨⟨nofun, ?_⟩, nofun, ⟨nofun, ?_⟩, fun _ _ => ⟨_, rfl, ?_⟩⟩
    · rintro ⟨p, hp, hfaulty⟩
      rw [hsound p hp] at hfaulty
      cases hfaulty
    · rintro ⟨-, hnone⟩
      obtain ⟨p, hp, hmethod⟩ := hmethods
      rw [hnone p hp] at hmethod
      cases hmethod
    · exact ⟨forall₂_located_records _ _ s, pairwise_startLine_records _ _ s⟩

/-- What a source text gives is decided by the nodes of its syntax tree, taken in the order of the
text: by that of the first one at fault, and if there is none by the method declarations.  It is the
same for any tree in place of the syntax tree, and if that spells the text every node stands in it
behind the text before it. -/
theorem records_follow_nodes (source : String) (s : Selection) :
    (∀ tree : Forest, tree.IsTree →
      InOrder (tree.located [] 0) ∧
      (tree.spelling = source.toList → ∀ p ∈ tree.located [] 0,
        ∃ behind, source.toList = p.before ++ p.node.spelling ++ behind) ∧
      FollowsNodes s (tree.located [] 0) (recordsOfTree source s tree)) ∧
    let nodes := (syntaxTree source.toList).located [] 0
    InOrder nodes ∧
      (∀ p ∈ nodes, nodes = [p] ∨
        ∃ behind, source.toList = p.before ++ p.node.spelling ++ behind) ∧
      FollowsNodes s nodes (records source s) := by
  refine ⟨?_, ?_⟩
  · intro tree htree
    exact ⟨htree.inOrder, fun hspelling p hp => exists_behind_of_mem_located hspelling hp,
      followsNodes_recordsOfTree source s htree⟩
  · intro nodes
    have htree := isTree_syntaxTree source.toList
    exact ⟨htree.inOrder, fun p hp => located_syntaxTree hp,
      followsNodes_recordsOfTree source s htree⟩

/-- A tree with a method in another one, and a third behind them. -/
def nestedTree : Forest :=
  .node [] none (.phrase .program)
    (.node "class A \x7b\n".toList none (.phrase .methodDeclaration)
      (.node "A ".toList (some .name) (.token .identifier) (.text ['f'])
        (.node "() ".toList (some .body) (.phrase .block)
          (.node "\x7b return new A() \x7b\n".toList none (.phrase .methodDeclaration)
            (.node "A ".toList (some .name) (.token .identifier) (.text ['g'])
              (.text "() \x7b return null; \x7d".toList))
            (.text " \x7d; \x7d".toList))
          (.text [])))
      (.node "\n".toList none (.phrase .methodDeclaration)
        (.node "A ".toList (some .name) (.token .identifier) (.text ['h'])
          (.text "() \x7b return this; \x7d".toList))
        (.text "\n\x7d".toList)))
    (.text [])

/-- Its records stand in the order of the text, that of the inner method between the others. -/
theorem records_follow_nodes_nested :
    let source := String.ofList nestedTree.spelling
    let found := recordsOfTree source ⟨.numericTyped, false⟩ nestedTree
    FollowsNodes ⟨.numericTyped, false⟩ (nestedTree.located [] 0) found ∧
      ∃ rs, found = .ok rs ∧ rs.map (·.name) = ["f", "g", "h"] ∧
        rs.map (·.startLine) = [2, 3, 4] := by
  intro source found
  have hfollows := ((records_follow_nodes source ⟨.numericTyped, false⟩).1 nestedTree
    ⟨_, _, _, _, rfl⟩).2.2
  exact ⟨hfollows, [_, _, _], rfl, by decide, by decide⟩

/-! ## A class with one method -/

/-- A tree with a method as the only one. -/
def Forest.ofMethod (method : Node) : Forest :=
  .node [] none (.phrase .program)
    (.node "class A \x7b ".toList none method.kind method.inner (.text " \x7d".toList)) (.text [])

theorem isTree_ofMethod (method : Node) : (Forest.ofMethod method).IsTree := ⟨_, _, _, _, rfl⟩

/-! ## Nodes inside a node -/

/-- A node stands directly inside another, which is a given node or stands inside it. -/
inductive Node.Within (n parent : Node) : Node → Prop
  | child (h : n ∈ parent.children) : Within n parent parent
  | deeper {c m : Node} (hc : c ∈ m.children) (h : Within n parent c) : Within n parent m

theorem exists_child_of_mem_descendants {f : Forest} {outer around : Kind} {n : Node}
    (h : (n, around) ∈ f.descendants outer) :
    ∃ c ∈ f.nodes.map (·.2), n = c ∧ around = outer ∨
      ∃ parent, n.Within parent c ∧ parent.kind = around := by
  induction f generalizing outer with
  | text cs => cases h
  | node before field kind inner after ihInner ihAfter =>
      rw [Forest.descendants, List.mem_cons, List.mem_append, Prod.mk.injEq] at h
      rw [Forest.nodes, List.map_cons]
      rcases h with hhere | hinner | hafter
      · exact ⟨_, List.mem_cons_self, .inl hhere⟩
      · refine ⟨⟨kind, inner⟩, List.mem_cons_self, .inr ?_⟩
        obtain ⟨c, hc, ⟨heq, haround⟩ | ⟨parent, hwithin, hparent⟩⟩ := ihInner hinner
        · exact ⟨⟨kind, inner⟩, .child (heq ▸ hc), haround.symm⟩
        · exact ⟨parent, .deeper hc hwithin, hparent⟩
      · obtain ⟨c, hc, hwhere⟩ := ihAfter hafter
        exact ⟨c, List.mem_cons_of_mem _ hc, hwhere⟩

theorem mem_descendants_of_child {f : Forest} {outer around : Kind} {n c : Node}
    (hc : c ∈ f.nodes.map (·.2)) (h : n = c ∧ around = outer ∨ (n, around) ∈ c.descendants) :
    (n, around) ∈ f.descendants outer := by
  induction f with
  | text cs => cases hc
  | node before field kind inner after ihInner ihAfter =>
      rw [Forest.descendants, List.mem_cons, List.mem_append, Prod.mk.injEq]
      rw [Forest.nodes, List.map_cons, List.mem_cons] at hc
      rcases hc with rfl | hc
      · exact h.imp_right .inl
      · exact .inr (.inr (ihAfter hc))

/-- The nodes inside a node are found however deep they stand, each with what is around it. -/
theorem Node.mem_descendants_iff {m n : Node} {around : Kind} :
    (n, around) ∈ m.descendants ↔ ∃ parent, n.Within parent m ∧ parent.kind = around := by
  constructor
  · intro h
    obtain ⟨c, hc, ⟨heq, haround⟩ | ⟨parent, hwithin, hparent⟩⟩ :=
      exists_child_of_mem_descendants h
    · exact ⟨m, .child (heq ▸ hc), haround.symm⟩
    · exact ⟨parent, .deeper hc hwithin, hparent⟩
  · rintro ⟨parent, hwithin, rfl⟩
    induction hwithin with
    | child h => exact mem_descendants_of_child h (.inl ⟨rfl, rfl⟩)
    | deeper hc _ ih => exact mem_descendants_of_child hc (.inr ih)

theorem Node.spelling_isInfix_of_mem_children {n m : Node} (h : n ∈ m.children) :
    n.spelling <:+: m.spelling := by
  obtain ⟨kind, f⟩ := m
  rw [Node.children] at h
  simp only [Node.spelling] at h ⊢
  induction f with
  | text cs => cases h
  | node lead field kind' inner after _ ihAfter =>
      rw [Forest.nodes, List.map_cons, List.mem_cons] at h
      rw [Forest.spelling_node]
      rcases h with rfl | h
      · exact ⟨lead, after.spelling, by simp⟩
      · exact (ihAfter h).trans ⟨lead ++ inner.spelling, [], by simp⟩

/-- The text of a node stands in that of every node around it. -/
theorem Node.Within.spelling_isInfix {n parent m : Node} (h : n.Within parent m) :
    n.spelling <:+: m.spelling := by
  induction h with
  | child h => exact spelling_isInfix_of_mem_children h
  | deeper hc _ ih => exact ih.trans (spelling_isInfix_of_mem_children hc)

end Code
end FormulaMap
