import FormulaMap.Code.SyntaxTree

/-!
# What trees spell

The text of a tree under construction, and its extent in characters.  Trees are taken apart and
put together again in many ways; what is kept throughout is the text, and that the extents that
were noted are those of the text.
-/

namespace FormulaMap
namespace Code
namespace Reader
namespace Growth

mutual

/-- The text of a tree with the blank text before it. -/
def spelling : Growth → List Char
  | .leaf _ blank text => blank ++ text
  | .branch _ _ children => spellingAll children

/-- The text of several trees one behind the other. -/
def spellingAll : List Growth → List Char
  | [] => []
  | g :: rest => g.spelling ++ spellingAll rest

end

@[simp]
theorem spellingAll_nil : spellingAll [] = [] := by
  rw [spellingAll]

@[simp]
theorem spellingAll_cons (g : Growth) (rest : List Growth) :
    spellingAll (g :: rest) = g.spelling ++ spellingAll rest := by
  rw [spellingAll]

@[simp]
theorem spellingAll_append (left right : List Growth) :
    spellingAll (left ++ right) = spellingAll left ++ spellingAll right := by
  induction left with
  | nil => simp
  | cons g left ih => simp [ih]

@[simp]
theorem spelling_leaf (facts : Facts) (blank text : List Char) :
    (leaf facts blank text).spelling = blank ++ text := by
  rw [spelling]

@[simp]
theorem spelling_branch (facts : Facts) (production : Option Nat) (children : List Growth) :
    (branch facts production children).spelling = spellingAll children := by
  rw [spelling]

@[simp]
theorem spelling_node (label : Label) (production : Option Nat) (children : List Growth) :
    (node label production children).spelling = spellingAll children := by
  rw [node, spelling_branch]

@[simp]
theorem spelling_asExtra (g : Growth) : g.asExtra.spelling = g.spelling := by
  cases g with
  | leaf facts blank text => simp [asExtra]
  | branch facts production children => simp [asExtra]

@[simp]
theorem spelling_weigh (weight : Int) (g : Growth) : (g.weigh weight).spelling = g.spelling := by
  cases g with
  | leaf facts blank text => simp [weigh]
  | branch facts production children => simp [weigh]

/-! ## Planted trees -/

theorem spelling_enclose (label : Label) (shownAs : Option Kind) (gap : Nat) (inner : Forest) :
    (enclose label shownAs gap inner).spelling = inner.spelling := by
  rw [enclose]
  split
  · simp
  · rfl

mutual

/-- A tree spells the same in a forest. -/
theorem spelling_plant (shownAs : Option Kind) (g : Growth) :
    (plant shownAs g).spelling = g.spelling := by
  cases g with
  | leaf facts blank text =>
      rw [plant, spelling_enclose, Forest.spelling_text, spelling_leaf]
  | branch facts production children =>
      rw [plant, spelling_enclose, spelling_plantAll, spelling_branch]

theorem spelling_plantAll (steps : List Grammar.Step) (gs : List Growth) :
    (plantAll steps gs).spelling = spellingAll gs := by
  cases gs with
  | nil => rw [plantAll, Forest.spelling_text, spellingAll_nil]
  | cons g rest =>
      rw [plantAll, spellingAll_cons]
      split
      · rw [Forest.spelling_append, spelling_plant, spelling_plantAll]
      · simp only [Forest.spelling_append, Forest.spelling_nameFirst]
        rw [spelling_plant, spelling_plantAll]

end

/-! ## Measured trees -/

/-- The extents noted in a tree and its parts count the characters of their texts, and only
trees with parts are phrases. -/
inductive Measured : Growth → Prop
  | leaf {facts : Facts} {blank text : List Char} (label : ∀ head, facts.label ≠ .phrase head)
      (gap : facts.gap.characters = blank.length) (size : facts.size.characters = text.length) :
      Measured (.leaf facts blank text)
  | branch {facts : Facts} {production : Option Nat} {children : List Growth}
      (extent : facts.gap.characters + facts.size.characters = (spellingAll children).length)
      (parts : ∀ g ∈ children, Measured g) : Measured (.branch facts production children)

theorem Measured.characters {g : Growth} (h : g.Measured) :
    g.extent.characters = g.spelling.length := by
  cases h with
  | leaf label gap size =>
      rw [spelling_leaf, List.length_append, ← gap, ← size]
      rfl
  | branch extent parts =>
      rw [spelling_branch, ← extent]
      rfl

theorem Measured.children {g : Growth} (h : g.Measured) : ∀ child ∈ g.children, child.Measured := by
  cases h with
  | leaf label gap size =>
      intro child hchild
      cases hchild
  | branch extent parts => exact parts

theorem Measured.asExtra {g : Growth} (h : g.Measured) : g.asExtra.Measured := by
  cases h with
  | leaf label gap size => exact .leaf label gap size
  | branch extent parts => exact .branch extent parts

theorem Measured.weigh {g : Growth} (h : g.Measured) (weight : Int) :
    (g.weigh weight).Measured := by
  cases h with
  | leaf label gap size => exact .leaf label gap size
  | branch extent parts => exact .branch extent parts

theorem measured_token {label : Label} (hlabel : ∀ head, label ≠ .phrase head)
    (blank text : List Char) (keyword : Bool) : (token label blank text keyword).Measured :=
  .leaf hlabel rfl rfl

theorem measured_missing (position : Nat) : (missing position).Measured :=
  .leaf (by simp) rfl rfl

theorem characters_foldl (gs : List Growth) (size : Extent) (hgs : ∀ g ∈ gs, g.Measured) :
    (gs.foldl (fun size g => size.add g.extent) size).characters =
      size.characters + (spellingAll gs).length := by
  induction gs generalizing size with
  | nil => simp
  | cons g rest ih =>
      have hg := (hgs g List.mem_cons_self).characters
      have hrest := ih (size.add g.extent) fun h hh => hgs h (List.mem_cons_of_mem g hh)
      rw [List.foldl_cons, hrest, spellingAll_cons, List.length_append, ← hg]
      simp only [Extent.add]
      omega

/-- A tree put together from measured trees is measured. -/
theorem measured_node {label : Label} {production : Option Nat} {gs : List Growth}
    (hgs : ∀ g ∈ gs, g.Measured) : (node label production gs).Measured := by
  refine .branch ?_ hgs
  cases gs with
  | nil => simp [join, Extent.zero]
  | cons g rest =>
      have hg := (hgs g List.mem_cons_self).characters
      have hrest := characters_foldl rest g.facts.size fun h hh => hgs h (List.mem_cons_of_mem g hh)
      have hextent : g.extent.characters = g.facts.gap.characters + g.facts.size.characters := rfl
      simp only [join, List.head?_cons, Option.map_some, Option.getD_some]
      rw [hrest, spellingAll_cons, List.length_append, ← hg, hextent]
      omega

/-! ## Faults that can be opened -/

/-- A fault among the trees on a stack is taken apart again.  It is then a row of trees, and so are
the faults in it; a stretch of text by itself would be lost. -/
inductive Openable : Growth → Prop
  | sound {g : Growth} (label : g.label ≠ .fault) : Openable g
  | row {facts : Facts} {production : Option Nat} {children : List Growth}
      (parts : ∀ g ∈ children, Openable g) : Openable (.branch facts production children)

theorem Openable.asExtra {g : Growth} (h : g.Openable) : g.asExtra.Openable := by
  cases h with
  | sound label =>
      cases g with
      | leaf facts blank text => exact .sound label
      | branch facts production children => exact .sound label
  | row parts => exact .row parts

theorem Openable.weigh {g : Growth} (h : g.Openable) (weight : Int) :
    (g.weigh weight).Openable := by
  cases h with
  | sound label =>
      cases g with
      | leaf facts blank text => exact .sound label
      | branch facts production children => exact .sound label
  | row parts => exact .row parts

/-- A fault that can be opened spells what is in it. -/
theorem Openable.spellingAll_children {g : Growth} (h : g.Openable) (hfault : g.label = .fault) :
    spellingAll g.children = g.spelling := by
  cases h with
  | sound label => exact absurd hfault label
  | row parts => rw [spelling_branch, Growth.children]

theorem Openable.children {g : Growth} (h : g.Openable) (hfault : g.label = .fault) :
    ∀ child ∈ g.children, child.Openable := by
  cases h with
  | sound label => exact absurd hfault label
  | row parts => exact parts

end Growth
end Reader
end Code
end FormulaMap
