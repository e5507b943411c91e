import FormulaMap.CommandLine.Directive

/-!
# Filters of the log

A filter lists directives, and of those that are about an event the one that asks for most decides
whether it is let through.
-/

namespace FormulaMap
namespace CommandLine

/-- A filter. -/
abbrev Filter := List Directive

namespace Filter

/-- The filter that lets everything up to a severity through. -/
def upTo (severity : Severity) : Filter := [{ Directive.any with rank := severity.rank }]

/-- The filter that a text stands for: directives with commas between them.  No directive at all
lets errors through. -/
def read? (text : String) : Option Filter := do
  let parts := (Text.splitAt ',' text.toList).filter (!·.isEmpty)
  let directives ← parts.mapM Directive.read?
  some (if directives.isEmpty then upTo .error else directives)

/-- The directive that decides about an event: the one that asks for most, and of two that ask for
the same the later one. -/
def deciding? (filter : Filter) (e : Event) : Option Directive :=
  (filter.filter fun d => d.isAboutEvents && d.concerns e).foldl
    (fun best d =>
      match best with
      | none => some d
      | some b => if (d.order b).isGE then some d else some b)
    none

/-- Whether a filter lets an event through. -/
def admits (filter : Filter) (e : Event) : Bool :=
  match filter.deciding? e with
  | none => false
  | some d => e.severity.rank ≤ d.rank

end Filter
end CommandLine
end FormulaMap
