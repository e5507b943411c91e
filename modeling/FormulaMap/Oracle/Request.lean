import FormulaMap.Oracle.Prompt

/-!
# Requests

A request names a model, holds a fixed system message and the prompt for one method, and sets the
sampling temperature.
-/

namespace FormulaMap
namespace Oracle

/-- The system message of every request. -/
def systemMessage : String :=
  "You are an assistant that outputs only structured JSON data."

/-- One message of a conversation. -/
structure Message where
  role : String
  content : String
  deriving DecidableEq, Repr

/-- A request for one completion. -/
structure Request where
  model : String
  messages : List Message
  temperature : Binary.Value
  deriving DecidableEq, Repr

namespace Request

/-- The request about a method. -/
def ofRecord (record : MethodRecord) (model : String) (temperature : Binary.Value) : Request :=
  ⟨model, [⟨"system", systemMessage⟩, ⟨"user", Oracle.prompt record⟩], temperature⟩

/-- The content of the first message of the user. -/
def prompt (r : Request) : String :=
  ((r.messages.find? fun m => m.role == "user").map (·.content)).getD ""

/-- A request as an object. -/
def toJson (r : Request) : Json.Value :=
  .object [
    ("model", .string r.model),
    ("messages", .array (r.messages.map fun m =>
      .object [("role", .string m.role), ("content", .string m.content)])),
    ("temperature", .ofSingle r.temperature)]

end Request
end Oracle
end FormulaMap
