import FormulaMap.Code.Kind

/-!
# Grammar rules

Rules in extended notation: sequences, choices and repetitions of tokens and phrases, with the
names of parts, the kinds that nodes are given, and the ranks and weights that decide between
readings.
-/

namespace FormulaMap
namespace Code
namespace Grammar

/-- A symbol of the grammar, by its number: a token, or a phrase with a rule of its own. -/
inductive Symbol where
  | token (number : Nat)
  | phrase (number : Nat)
  deriving DecidableEq, Hashable

/-- To which side an operation groups. -/
inductive Side where
  | left
  | right
  deriving DecidableEq

/-- A grammar rule. -/
inductive Rule where
  /-- Nothing at all. -/
  | blank
  /-- One symbol. -/
  | symbol (s : Symbol)
  /-- One rule behind another. -/
  | sequence (first second : Rule)
  /-- Either of two rules. -/
  | choice (first second : Rule)
  /-- A rule once or more often. -/
  | repeated (body : Rule)
  /-- A rule for a named part of the phrase. -/
  | part (role : Field) (body : Rule)
  /-- A rule whose node is shown as another kind. -/
  | renamed (kind : Kind) (body : Rule)
  /-- A rule with a rank among those it competes with, and a side it groups to. -/
  | ranked (rank : Int) (side : Option Side) (body : Rule)
  /-- A rule whose reading is preferred, or avoided, by its weight. -/
  | weighted (weight : Int) (body : Rule)
  deriving DecidableEq

/-- A token as a rule. -/
def tok (t : Token) : Rule := .symbol (.token t.index)

/-- A phrase as a rule. -/
def ref (p : Phrase) : Rule := .symbol (.phrase p.index)

/-- Rules one behind another. -/
def seq : List Rule → Rule
  | [] => .blank
  | [rule] => rule
  | rule :: rules => .sequence rule (seq rules)

/-- One of several rules, of which the first is tried first. -/
def oneOf : List Rule → Rule
  | [] => .blank
  | [rule] => rule
  | rule :: rules => .choice rule (oneOf rules)

/-- A rule or nothing. -/
def optional (rule : Rule) : Rule := .choice rule .blank

/-- A rule once or more often. -/
def many1 (rule : Rule) : Rule := .repeated rule

/-- A rule any number of times. -/
def many (rule : Rule) : Rule := optional (many1 rule)

/-- A rule once or more often with a token between. -/
def listOf (separator : Token) (rule : Rule) : Rule :=
  .sequence rule (many (.sequence (tok separator) rule))

/-- A named part. -/
def part (role : Field) (rule : Rule) : Rule := .part role rule

/-- A rule whose node is shown as another kind. -/
def renamed (kind : Kind) (rule : Rule) : Rule := .renamed kind rule

/-- A rule with a rank and a side. -/
def ranked (rank : Int) (side : Option Side) (rule : Rule) : Rule := .ranked rank side rule

/-- A rule with a weight. -/
def weighted (weight : Int) (rule : Rule) : Rule := .weighted weight rule

/-- A name without qualifiers. -/
def simpleName : Rule := oneOf [tok .identifier, ref .contextualName]

end Grammar
end Code
end FormulaMap
