/-!
# Logs

Events that a run notes: how grave they are, what noted them, and what belongs to them.
-/

namespace FormulaMap
namespace CommandLine

/-- How grave an event is, the gravest first. -/
inductive Severity where
  | error
  | warning
  | info
  | debug
  | trace
  deriving DecidableEq, Repr

namespace Severity

/-- How severities are ordered, the gravest lowest. -/
def rank : Severity → Nat
  | error => 1
  | warning => 2
  | info => 3
  | debug => 4
  | trace => 5

/-- The name of a severity in a log. -/
def name : Severity → String
  | error => "ERROR"
  | warning => "WARN"
  | info => "INFO"
  | debug => "DEBUG"
  | trace => "TRACE"

end Severity

/-- An event: what noted it, what happened, and the values that belong to it. -/
structure Event where
  severity : Severity
  target : String
  message : String
  values : List (String × String)
  deriving DecidableEq, Repr

/-- An event as text. -/
def Event.text (e : Event) : String :=
  e.severity.name ++ " " ++ e.target ++ ": " ++ e.message ++
    String.join (e.values.map fun (name, value) => " " ++ name ++ "=" ++ value)

/-- The names of the values of an event, of which the message is one. -/
def Event.valueNames (e : Event) : List String :=
  "message" :: e.values.map (·.1)

end CommandLine
end FormulaMap
