import FormulaMap.Text.Blank
import FormulaMap.Text.Pieces

/-!
# The object inside a reply

A reply may wrap the wanted object into prose or a code fence.  The fence markers are removed, and
the object is what lies between the leftmost opening and the rightmost closing brace.
-/

namespace FormulaMap
namespace Reply

/-- The marker that opens and closes a code fence. -/
def fence : List Char := "```".toList

/-- The language tag that an opening fence may carry. -/
def fenceTag : List Char := "json".toList

/-- A reply without the fence marker at its start, with or without a tag, and the one at its
end. -/
def stripFenceChars (reply : List Char) : List Char :=
  let text := Text.trim reply
  let text := match Text.after? fence text with
    | some rest => Text.trimStart ((Text.after? fenceTag rest).getD rest)
    | none => text
  match Text.before? fence text with
  | some rest => Text.trimEnd rest
  | none => text

/-- The text up to and including its last closing brace. -/
def throughLastBrace (cs : List Char) : List Char :=
  (cs.reverse.dropWhile (· != '\x7d')).reverse

/-- The text from the leftmost opening through the rightmost closing brace. -/
def locateObjectChars? (cs : List Char) : Option (List Char) :=
  let object := throughLastBrace (cs.dropWhile (· != '\x7b'))
  if object.isEmpty then none else some object

/-- A reply without its fence markers. -/
def stripFences (reply : String) : String :=
  String.ofList (stripFenceChars reply.toList)

/-- The object inside a text. -/
def locateObject? (text : String) : Option String :=
  (locateObjectChars? text.toList).map String.ofList

end Reply
end FormulaMap
