import FormulaMap.Code.Kind

/-!
# Forests

A source text with the nodes of its syntax tree marked in it.  A forest is plain text, or plain
text with a node behind it and a further forest behind the node; what is inside a node is a forest
again.  So the text of a forest is that of its parts one behind the other, and a node's place is
given by the text before it.
-/

namespace FormulaMap
namespace Code

/-- A text with nodes in it. -/
inductive Forest where
  /-- Text without nodes. -/
  | text (cs : List Char)
  /-- Text, a node of some kind that may be a named part of the phrase around it, with what is
  inside it, and what is behind it. -/
  | node (before : List Char) (field : Option Field) (kind : Kind) (inner after : Forest)

/-- A node: its kind and what is inside it. -/
structure Node where
  kind : Kind
  inner : Forest

namespace Forest

/-- The text of a forest with a text behind it. -/
def spellingBefore (rest : List Char) : Forest → List Char
  | .text cs => cs ++ rest
  | .node before _ _ inner after => before ++ inner.spellingBefore (after.spellingBefore rest)

/-- The text of a forest. -/
def spelling (f : Forest) : List Char := f.spellingBefore []

/-- What stands behind a forest takes no part in its text. -/
theorem spellingBefore_eq (f : Forest) (rest : List Char) :
    f.spellingBefore rest = f.spelling ++ rest := by
  induction f generalizing rest with
  | text cs => simp [spellingBefore, spelling]
  | node before field kind inner after ihInner ihAfter =>
    simp only [spellingBefore, spelling]
    rw [ihInner, ihInner (after.spellingBefore []), ihAfter]
    simp [spelling]

@[simp]
theorem spelling_text (cs : List Char) : (text cs).spelling = cs := by
  simp [spelling, spellingBefore]

@[simp]
theorem spelling_node (before : List Char) (field : Option Field) (kind : Kind)
    (inner after : Forest) :
    (node before field kind inner after).spelling =
      before ++ (inner.spelling ++ after.spelling) := by
  rw [← spellingBefore_eq]
  rfl

/-- The nodes of a forest that are not inside others, each with the name of the part it is. -/
def nodes : Forest → List (Option Field × Node)
  | .text _ => []
  | .node _ field kind inner after => (field, ⟨kind, inner⟩) :: after.nodes

/-- Text in front of a forest. -/
def prepend (cs : List Char) : Forest → Forest
  | .text ds => .text (cs ++ ds)
  | .node before field kind inner after => .node (cs ++ before) field kind inner after

/-- One forest behind another. -/
def append : Forest → Forest → Forest
  | .text cs, g => g.prepend cs
  | .node before field kind inner after, g => .node before field kind inner (after.append g)

/-- The first characters of a forest, which are in front of its first node. -/
def takeBefore (n : Nat) : Forest → List Char
  | .text cs => cs.take n
  | .node before _ _ _ _ => before.take n

/-- The forest without its first characters, which are in front of its first node. -/
def dropBefore (n : Nat) : Forest → Forest
  | .text cs => .text (cs.drop n)
  | .node before field kind inner after => .node (before.drop n) field kind inner after

/-- The forest with its first node as a part, unless that is one already. -/
def nameFirst (name : Option Field) : Forest → Forest
  | .text cs => .text cs
  | .node before old kind inner after => .node before (old.or name) kind inner after

@[simp]
theorem spelling_prepend (cs : List Char) (f : Forest) :
    (f.prepend cs).spelling = cs ++ f.spelling := by
  cases f <;> simp [prepend]

@[simp]
theorem spelling_append (f g : Forest) :
    (f.append g).spelling = f.spelling ++ g.spelling := by
  induction f with
  | text cs => simp [append]
  | node _ _ _ _ _ _ ih => simp [append, ih]

@[simp]
theorem spelling_nameFirst (name : Option Field) (f : Forest) :
    (f.nameFirst name).spelling = f.spelling := by
  cases f <;> simp [nameFirst]

/-- Nothing is lost between the first characters and the rest. -/
@[simp]
theorem takeBefore_append_dropBefore (n : Nat) (f : Forest) :
    f.takeBefore n ++ (f.dropBefore n).spelling = f.spelling := by
  cases f <;> simp [takeBefore, dropBefore, ← List.append_assoc]

end Forest

namespace Node

/-- The text of a node. -/
def spelling (n : Node) : List Char := n.inner.spelling

/-- The nodes directly inside a node. -/
def children (n : Node) : List Node := n.inner.nodes.map (·.2)

/-- The first node directly inside a node that is a certain part of it. -/
def part? (n : Node) (role : Field) : Option Node :=
  (n.inner.nodes.find? fun child => child.1 == some role).map (·.2)

end Node
end Code
end FormulaMap
