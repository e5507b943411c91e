import FormulaMap.Oracle.Request
import FormulaMap.Reply.Interpretation

/-!
# Calls

Asking about one method: a request is sent, and either a reply text comes back or the call fails.
A failed call is an outcome like any other; a reply is interpreted.
-/

namespace FormulaMap
namespace Oracle

/-- Why a call gives no reply text. -/
inductive CallFault where
  /-- Nothing could be sent or received. -/
  | transport (cause : String)
  /-- The answer has a status other than success. -/
  | status (code : Nat) (message : String)
  /-- The answer is no completion with a text. -/
  | envelope (reason : String)
  deriving DecidableEq, Repr

/-- The wording of a fault. -/
def CallFault.message : CallFault → String
  | transport cause => "HTTP error: " ++ cause
  | status code message => "API error (" ++ Decimal.text code ++ "): " ++ message
  | envelope reason => "unreadable response envelope: " ++ reason

/-- What a call gives. -/
abbrev Answer := Except CallFault String

/-- The settings that requests and their interpretation depend on. -/
structure Client where
  model : String
  temperature : Binary.Value
  contract : ContractPolicy
  deriving DecidableEq, Repr

/-- The request that a client sends about a method. -/
def Client.requestFor (client : Client) (record : MethodRecord) : Request :=
  Request.ofRecord record client.model client.temperature

/-- The outcome that an answer gives for a method. -/
def outcomeOf (policy : ContractPolicy) (record : MethodRecord) : Answer → MethodOutcome
  | .error fault => .failed record.name .transport fault.message none
  | .ok raw => Reply.interpret policy record raw

/-- The outcome of asking about a method, given how requests are answered. -/
def Client.mapFormula (client : Client) (answer : Request → Answer) (record : MethodRecord) :
    MethodOutcome :=
  outcomeOf client.contract record (answer (client.requestFor record))

end Oracle
end FormulaMap
