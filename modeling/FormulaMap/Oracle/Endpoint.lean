import FormulaMap.Http.Exchange
import FormulaMap.Oracle.Completion
import FormulaMap.Settings.Basic

/-!
# Endpoints

Where requests go and how they are answered there: a request is posted as a document, and a
response of success holds a completion.
-/

namespace FormulaMap
namespace Oracle

/-- Where requests go, and the key that is shown there. -/
structure Endpoint where
  address : String
  key : String
  deriving DecidableEq, Repr

namespace Endpoint

/-- The endpoint of some settings. -/
def ofSettings (s : OracleSettings) : Endpoint :=
  ⟨s.completionsUrl, s.apiKey⟩

/-- The post of a request. -/
def post (e : Endpoint) (r : Request) : Except Http.PostFault Http.Post :=
  Http.Post.build e.address e.key r.toJson.compact

/-- The answer that a response holds. -/
def answerOf (r : Http.Response) : Answer :=
  if r.isSuccess then replyText r.body else .error (.status r.status r.body)

/-- Asks about a request: it is posted, once, and the answer is read from what comes back. -/
def complete (e : Endpoint) (transport : Http.Transport) (r : Request) : Http.Posting Answer :=
  match e.post r with
  | .error fault => pure (.error (.transport fault.message))
  | .ok p => do
    match ← p.send transport with
    | .error fault => pure (.error (.transport fault.message))
    | .ok response => pure (answerOf response)

/-- A request that can be posted is posted once, whatever comes back. -/
@[simp]
theorem posts_complete (e : Endpoint) (transport : Http.Transport) (r : Request) :
    (e.complete transport r).posts = (e.post r).toOption.toList := by
  rw [complete]
  cases e.post r with
  | error fault => rfl
  | ok p =>
    simp only [Http.Posting.posts_bind]
    cases (p.send transport).result with
    | error fault => rfl
    | ok response => rfl

/-- The answer to a request. -/
def ask (e : Endpoint) (transport : Http.Transport) (r : Request) : Answer :=
  (e.complete transport r).result

end Endpoint

/-- The client of some settings. -/
def Client.ofSettings (s : OracleSettings) : Client :=
  ⟨s.model, s.temperature, s.contract⟩

end Oracle
end FormulaMap
