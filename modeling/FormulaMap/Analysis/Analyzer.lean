import FormulaMap.Analysis.FanOut
import FormulaMap.Code.Methods
import FormulaMap.Oracle.Call

/-!
# Analysing a source text

A source text is read once, and then every method it declares is asked about.  A text that cannot
be read fails as a whole; a call that fails is the outcome of its method.
-/

namespace FormulaMap
namespace Analysis

/-- The settings of an analysis. -/
structure Analyzer where
  selection : Code.Selection
  client : Oracle.Client
  concurrency : Nat

namespace Analyzer

/-- What comes of asking about a record, given how requests are answered; a task may break down
instead of giving an answer. -/
def ask (a : Analyzer) (answer : Oracle.Request → Http.Posting (Except Payload Oracle.Answer)) :
    Asking := fun record => do
  let reply ← answer (a.client.requestFor record)
  pure (reply.map (Oracle.outcomeOf a.client.contract record))

@[simp]
theorem posts_ask (a : Analyzer)
    (answer : Oracle.Request → Http.Posting (Except Payload Oracle.Answer))
    (record : MethodRecord) :
    (a.ask answer record).posts = (answer (a.client.requestFor record)).posts := by
  simp [ask]

/-- Asks about all records, where the tasks take their turns in some order. -/
def mapRecordsInTurns (a : Analyzer)
    (answer : Oracle.Request → Http.Posting (Except Payload Oracle.Answer)) (turns : List Action)
    (records : List MethodRecord) : State :=
  fanOut (a.ask answer) a.concurrency turns records

/-- Asks about all records, one task after another, where nothing is posted and a task may break
down with a text. -/
def mapRecords (a : Analyzer) (answer : Oracle.Request → Except String Oracle.Answer)
    (records : List MethodRecord) : State :=
  a.mapRecordsInTurns (fun r => pure ((answer r).mapError .words)) [] records

/-- The outcomes for all methods of a source text. -/
def analyze (a : Analyzer) (answer : Oracle.Request → Except String Oracle.Answer)
    (source : String) : Except Code.ReadFailure (List MethodOutcome) :=
  (Code.records source a.selection).map fun records => (a.mapRecords answer records).outcomes

end Analyzer
end Analysis
end FormulaMap
