import FormulaMap.Json.Typed
import FormulaMap.Mapping.SymbolMapping
import FormulaMap.Reply.Object

/-!
# Decoding replies

The object of a reply is read as a JSON object whose values all name constructs.  A symbol that
comes twice keeps its first place and its last construct.
-/

namespace FormulaMap

/-- Why a reply gives no mapping. -/
inductive ReplyFault where
  /-- There is no object in the reply. -/
  | noObject (raw : String)
  /-- The object is not well-formed JSON. -/
  | notJson (object : String) (fault : Json.Fault)
  /-- The value of a symbol names no construct. -/
  | notScalar (object : String) (key : String)
  deriving Repr

namespace ReplyFault

/-- The wording of a fault. -/
def message : ReplyFault → String
  | noObject _ => "No JSON found"
  | notJson object fault => "invalid JSON object: " ++ fault.message object.toList
  | notScalar _ key =>
    "invalid JSON object: value for `" ++ key ++ "` is not a string, number, or null"

/-- The text that is kept with a fault: the whole reply, or the object in it. -/
def raw : ReplyFault → String
  | noObject raw => raw
  | notJson object _ => object
  | notScalar object _ => object

end ReplyFault

namespace Reply

/-- Reads an object as the list of its members. -/
def readObject : Json.Reader (List (String × Json.Value)) := fun depth cs =>
  match Json.skipBlanks cs with
  | [] => .error (.next .endInValue [])
  | '\x7b' :: rest =>
    if depth ≤ 1 then .error (.next .recursionLimit ('\x7b' :: rest))
    else Json.readMembers (Json.enoughFuel rest) (depth - 1) true rest
  | rest => .error (Json.wrongType "a JSON object" rest)

/-- The members of the object that a text holds, in the order of the text. -/
def membersOf (object : String) : Except Json.Fault (List (String × Json.Value)) :=
  Json.documentOf readObject object.toList

/-- Adds members to a mapping from left to right, up to the first whose value names no
construct; of that one, the key. -/
def collect (candidates : NameSet) (m : SymbolMapping) :
    List (String × Json.Value) → Except String SymbolMapping
  | [] => .ok m
  | (key, v) :: rest =>
    match Construct.classify? candidates v with
    | none => .error key
    | some construct => collect candidates (m.insert key construct) rest

/-- The mapping that an object holds. -/
def decode (object : String) (candidates : NameSet) : Except ReplyFault SymbolMapping :=
  match membersOf object with
  | .error fault => .error (.notJson object fault)
  | .ok members =>
    match collect candidates .empty members with
    | .error key => .error (.notScalar object key)
    | .ok m => .ok m

/-- The object of a reply and the mapping it holds. -/
def parse (raw : String) (candidates : NameSet) : Except ReplyFault (String × SymbolMapping) :=
  match locateObject? (stripFences raw) with
  | none => .error (.noObject raw)
  | some object =>
    match decode object candidates with
    | .error fault => .error fault
    | .ok m => .ok (object, m)

end Reply
end FormulaMap
