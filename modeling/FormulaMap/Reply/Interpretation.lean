import FormulaMap.Mapping.Outcome
import FormulaMap.Policy
import FormulaMap.Record.Basic
import FormulaMap.Reply.Decode
import FormulaMap.Symbol

/-!
# Interpreting replies

The symbols of a reply are checked against the formula text of the method.  Those that do not
occur in it are set aside or make the reply fail, as the contract policy says.
-/

namespace FormulaMap
namespace Reply

/-- The symbols of a mapping that a formula text does not contain. -/
def foreignKeys (m : SymbolMapping) (documentation : String) : List String :=
  m.keys.filter fun key => !Symbol.containedIn documentation key

/-- The outcome that a reply gives for a method. -/
def interpret (policy : ContractPolicy) (record : MethodRecord) (raw : String) : MethodOutcome :=
  match parse raw record.candidates with
  | .error fault => .failed record.name .format fault.message (some fault.raw)
  | .ok (object, m) =>
    let foreign := foreignKeys m record.documentation
    if foreign.isEmpty then .mapped record.name m
    else
      match policy with
      | .strip =>
        let (kept, removed) := m.retain fun key => !foreign.contains key
        (MethodOutcome.mapped record.name kept).withRejected removed
      | .reject =>
        .failed record.name .contractViolation
          ("keys not in formula: " ++ ", ".intercalate foreign) (some object)

end Reply
end FormulaMap
