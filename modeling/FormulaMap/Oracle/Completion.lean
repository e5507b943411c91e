import FormulaMap.Json.Typed
import FormulaMap.Oracle.Call

/-!
# Completions

The envelope in which a reply text comes: a list of choices, each with a message whose content may
be missing.  The text is the trimmed content of the first choice.
-/

namespace FormulaMap
namespace Oracle

/-- One choice: its message, of which only the content counts. -/
structure Choice where
  content : Option String
  deriving DecidableEq, Repr

/-- An envelope. -/
structure Completion where
  choices : List Choice
  deriving DecidableEq, Repr

namespace Completion

/-- The shape of a message. -/
def messageShape : Json.Shape (Option String) where
  name := "struct CompletionMessage"
  fields := [.of "content" false (Json.readOptional Json.readText) fun v _ => v]
  initial := none

/-- The shape of a choice. -/
def choiceShape : Json.Shape Choice where
  name := "struct CompletionChoice"
  fields := [.of "message" true messageShape.read fun v _ => ⟨v⟩]
  initial := ⟨none⟩

/-- The shape of an envelope. -/
def shape : Json.Shape Completion where
  name := "struct CompletionResponse"
  fields := [.of "choices" true (Json.readList choiceShape.read) fun v _ => ⟨v⟩]
  initial := ⟨[]⟩

/-- The envelope that a document holds. -/
def ofJson (text : String) : Except Json.Fault Completion :=
  Json.documentOf shape.read text.toList

/-- The content of the first choice. -/
def content? (c : Completion) : Option String :=
  c.choices.head?.bind (·.content)

end Completion

/-- The reply text in a document. -/
def replyText (body : String) : Answer :=
  match Completion.ofJson body with
  | .error e => .error (.envelope (e.message body.toList))
  | .ok completion =>
    match completion.content? with
    | none => .error (.envelope "response has no message content")
    | some content => .ok (String.ofList (Text.trim content.toList))

end Oracle
end FormulaMap
