import FormulaMap.Code.Forest
import FormulaMap.Text.Blank
import FormulaMap.Text.Pieces

/-!
# Doc comments

The documentation of a declaration is the text of the doc comment before it.  Line comments
between the two do not matter; whatever else stands nearest before the declaration decides.
-/

namespace FormulaMap
namespace Code

/-- What opens a doc comment. -/
def docOpening : List Char := "/**".toList

/-- What opens a comment that only looks like a doc comment. -/
def bannerOpening : List Char := "/***".toList

/-- What closes a comment. -/
def commentClosing : List Char := "*/".toList

/-- A line of a doc comment without its margin. -/
def docLine (line : List Char) : List Char :=
  Text.trim (Text.trimStartOf '*' (Text.trim line))

/-- The text inside a doc comment: its lines without their margins, blank ones left out. -/
def docBody (body : List Char) : List Char :=
  Text.joinWith ['\n'] (((Text.lines body).map docLine).filter fun line => !line.isEmpty)

/-- The documentation that a comment gives, from its opening to its closing mark; none if it is no
doc comment. -/
def docText (comment : List Char) : List Char :=
  let text := Text.trim comment
  if Text.opensWith docOpening text && !Text.opensWith bannerOpening text then
    match (Text.after? docOpening text).bind (Text.before? commentClosing) with
    | some body => docBody body
    | none => []
  else []

/-- The documentation of a declaration, given the nodes before it, the nearest first. -/
def documentation : List Node → List Char
  | [] => []
  | n :: earlier =>
    if n.kind = .token .lineComment then documentation earlier
    else if n.kind = .token .blockComment then docText n.spelling
    else []

end Code
end FormulaMap
