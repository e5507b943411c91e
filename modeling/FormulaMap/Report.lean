import FormulaMap.Mapping.Outcome

/-!
# Reports

Counts over the outcomes of a run.  A report is a sum over the outcomes, one summand for each, so
it does not depend on their order.
-/

namespace FormulaMap

/-- Counts over a run. -/
structure Report where
  methods : Nat
  mapped : Nat
  withRejectedKeys : Nat
  unmappedSymbols : Nat
  transportErrors : Nat
  formatErrors : Nat
  contractViolations : Nat
  deriving DecidableEq, Repr

namespace Report

/-- The report of no outcome. -/
def zero : Report := ⟨0, 0, 0, 0, 0, 0, 0⟩

/-- The sum of two reports, field by field. -/
def add (a b : Report) : Report :=
  ⟨a.methods + b.methods, a.mapped + b.mapped, a.withRejectedKeys + b.withRejectedKeys,
    a.unmappedSymbols + b.unmappedSymbols, a.transportErrors + b.transportErrors,
    a.formatErrors + b.formatErrors, a.contractViolations + b.contractViolations⟩

/-- The report of one outcome. -/
def single (r : MethodOutcome) : Report :=
  match r.outcome with
  | .mapped mapping keys =>
    { zero with
      methods := 1
      mapped := 1
      withRejectedKeys := if keys.isEmpty then 0 else 1
      unmappedSymbols := mapping.unmappedCount }
  | .failed .transport _ _ => { zero with methods := 1, transportErrors := 1 }
  | .failed .format _ _ => { zero with methods := 1, formatErrors := 1 }
  | .failed .contractViolation _ _ => { zero with methods := 1, contractViolations := 1 }

/-- The report of a list of outcomes. -/
def ofOutcomes (rs : List MethodOutcome) : Report :=
  rs.foldl (fun report r => report.add (single r)) zero

/-- The number of outcomes that are failures. -/
def failed (r : Report) : Nat :=
  r.transportErrors + r.formatErrors + r.contractViolations

/-- A report as an object. -/
def toJson (r : Report) : Json.Value :=
  .object [
    ("methods", .ofNat r.methods),
    ("mapped", .ofNat r.mapped),
    ("with_rejected_keys", .ofNat r.withRejectedKeys),
    ("unmapped_symbols", .ofNat r.unmappedSymbols),
    ("transport_errors", .ofNat r.transportErrors),
    ("format_errors", .ofNat r.formatErrors),
    ("contract_violations", .ofNat r.contractViolations)]

/-- A report in one line. -/
def text (r : Report) : String :=
  Decimal.text r.methods ++ " methods: " ++ Decimal.text r.mapped ++ " mapped, " ++
    Decimal.text r.failed ++ " failed (transport " ++ Decimal.text r.transportErrors ++
    ", format " ++ Decimal.text r.formatErrors ++ ", contract " ++
    Decimal.text r.contractViolations ++ ")"

end Report
end FormulaMap
