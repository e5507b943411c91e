import FormulaMap.CommandLine.Log
import FormulaMap.Oracle.Call
import FormulaMap.Report
import FormulaMap.Settings.Basic
import FormulaMap.Text.Shown

/-!
# The events of a run

What a run notes in its log: that the settings are loaded, each method that has been read, each
call that gives no plain mapping, and the report at the end.
-/

namespace FormulaMap
namespace CommandLine

namespace Event

/-- The event that settings are loaded. -/
def loaded (s : Settings) : Event where
  severity := .debug
  target := "fmap::bootstrap"
  message := "configuration loaded"
  values := [("model", s.oracle.model), ("policy", s.reader.policy.name),
    ("loop_counters", if s.reader.counters then "true" else "false")]

/-- The event that a method has been read. -/
def methodRead (r : MethodRecord) : Event where
  severity := .debug
  target := "fmap_parser::java"
  message := "parsed method"
  values := [("method", r.name), ("line", Decimal.text r.startLine),
    ("variables", Decimal.text r.candidates.toList.length),
    ("calls", Decimal.text r.calls.toList.length)]

/-- A warning about a call. -/
def ofCall (message : String) (values : List (String × String)) : Event :=
  ⟨.warning, "fmap_oracle::client", message, values⟩

/-- The events of a call about a method. -/
def ofAnswer (policy : ContractPolicy) (r : MethodRecord) : Oracle.Answer → List Event
  | .error fault => [ofCall "oracle request failed" [("method", r.name), ("error", fault.message)]]
  | .ok raw =>
    match Reply.parse raw r.candidates with
    | .error fault =>
      [ofCall "unusable oracle reply" [("method", r.name), ("error", fault.message)]]
    | .ok (_, m) =>
      let foreign := Reply.foreignKeys m r.documentation
      if foreign.isEmpty then []
      else [ofCall "reply keys not found in formula"
        [("method", r.name), ("keys", Text.shownList foreign), ("policy", policy.name)]]

/-- The event that all methods have been asked about. -/
def finished (report : Report) : Event where
  severity := .info
  target := "fmap_analyzer"
  message := "analysis finished"
  values := [("report", report.text)]

end Event

end CommandLine
end FormulaMap
