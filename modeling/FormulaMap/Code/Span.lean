import FormulaMap.Text.Pieces

/-!
# The span of a declaration

The source text of a declaration is recovered line by line: lines are taken from its first line
on until as many closing as opening braces have been seen and at least one opening brace.  The
count is purely textual, so braces in comments and literals count as well.
-/

namespace FormulaMap
namespace Code

/-- The lines up to and including the first one after which the braces are balanced, given how
many opening and closing braces came before. -/
def takeBalanced (opened closed : Nat) : List (List Char) → List (List Char)
  | [] => []
  | line :: rest =>
    let opened := opened + line.count '{'
    let closed := closed + line.count '}'
    if opened > 0 && opened == closed then [line]
    else line :: takeBalanced opened closed rest

/-- The text of the declaration that starts on a line, counted from one, given the lines of the
whole text.  There is none for line zero or a line behind the last; without a balanced end the text
runs to the last line. -/
def bodyAmong (lines : List (List Char)) (startLine : Nat) : String :=
  if startLine = 0 then ""
  else
    let below := lines.drop (startLine - 1)
    String.ofList (Text.joinWith ['\n'] (takeBalanced 0 0 below))

/-- The text of the declaration that starts on a line of a text. -/
def extractBody (text : String) (startLine : Nat) : String :=
  bodyAmong (Text.splitAt '\n' text.toList) startLine

/-- Whether a text has as many closing as opening braces. -/
def isBalanced (span : String) : Bool :=
  span.toList.count '{' == span.toList.count '}'

end Code
end FormulaMap
