import FormulaMap.Code.Lexis.Pattern
import FormulaMap.Code.Token

/-!
# The patterns of the tokens

What texts are tokens of each sort, and which tokens come before others.  Most tokens may follow
blank text; those inside a text in quotes may not.
-/

namespace FormulaMap
namespace Code
namespace Lexis

open Pattern

/-- A decimal digit. -/
def digit : Pattern := range '0' '9'

/-- A decimal digit other than zero. -/
def nonzeroDigit : Pattern := range '1' '9'

/-- An octal digit. -/
def octalDigit : Pattern := range '0' '7'

/-- A hexadecimal digit. -/
def hexDigit : Pattern := .one (.among [('A', 'F'), ('a', 'f'), ('0', '9')])

/-- The mark between groups of digits. -/
def lowLine : Pattern := anyOf ['_']

/-- A decimal number without leading zeros; any number of marks may stand between digits. -/
def plainNumber : Pattern :=
  .either (anyOf ['0'])
    (.sequence nonzeroDigit
      (optional (.sequence (optional lowLine) (listOf (many1 lowLine) (many1 digit)))))

/-- Digits with single marks between groups. -/
def digitGroups (d : Pattern) : Pattern := listOf lowLine (many1 d)

/-- The mark of a long integer. -/
def longMark : Pattern := optional (.either (anyOf ['l']) (anyOf ['L']))

/-- The mark of a floating-point number. -/
def floatMark : Pattern := anyOf ['f', 'F', 'd', 'D']

/-- A sign or none. -/
def optionalSign : Pattern := optional (.either (anyOf ['-']) (anyOf ['+']))

/-- The two spellings of a mark in front of a number. -/
def base (lower upper : Char) : Pattern :=
  .either (exactly ['0', lower]) (exactly ['0', upper])

/-- An exponent of ten. -/
def exponent : Pattern := seq [anyOf ['e', 'E'], optionalSign, digitGroups digit]

/-- A floating-point number with at least one of a point, an exponent and a mark. -/
def decimalFloat : Pattern :=
  oneOf
    [seq [digitGroups digit, anyOf ['.'], optional (digitGroups digit), optional exponent,
          optional floatMark],
     seq [anyOf ['.'], digitGroups digit, optional exponent, optional floatMark],
     seq [plainNumber, anyOf ['e', 'E'], optionalSign, digitGroups digit, optional floatMark],
     seq [plainNumber, optional exponent, floatMark]]

/-- A hexadecimal number, possibly with a point and a binary exponent. -/
def hexFloat : Pattern :=
  seq
    [base 'x' 'X',
     .either (.sequence (digitGroups hexDigit) (optional (anyOf ['.'])))
       (seq [optional (digitGroups hexDigit), anyOf ['.'], digitGroups hexDigit]),
     optional (seq [anyOf ['p', 'P'], optionalSign, plainNumber, optional floatMark])]

/-- One or more characters or escapes between single quotes. -/
def characterLiteral : Pattern :=
  seq
    [anyOf ['\''],
     many1
       (oneOf
         [noneOf ['\\', '\'', '\n'], .sequence (anyOf ['\\']) (noneOf ['\n']),
          exactly ['\\', '\n']]),
     anyOf ['\'']]

/-- A backslash with the character, the digits or the code point it stands for. -/
def escape : Pattern :=
  .sequence (anyOf ['\\'])
    (oneOf
      [.one (.outside [('x', 'x'), ('u', 'u'), ('0', '7')]),
       seq [octalDigit, optional octalDigit, optional octalDigit],
       seq [anyOf ['x'], hexDigit, hexDigit],
       seq [anyOf ['u'], hexDigit, hexDigit, hexDigit, hexDigit],
       seq [exactly ['u', '{'], many1 hexDigit, anyOf ['}']]])

/-- A comment between marks. -/
def blockComment : Pattern :=
  seq
    [exactly ['/', '*'], .many (noneOf ['*']), many1 (anyOf ['*']),
     .many (seq [noneOf ['/', '*'], .many (noneOf ['*']), many1 (anyOf ['*'])]),
     anyOf ['/']]

/-- The pattern of a token. -/
def pattern : Token → Pattern
  | .decimalInteger => .sequence plainNumber longMark
  | .hexInteger => seq [base 'x' 'X', digitGroups hexDigit, longMark]
  | .octalInteger =>
    seq [.either (base 'o' 'O') (anyOf ['0']), digitGroups octalDigit, longMark]
  | .binaryInteger => seq [base 'b' 'B', digitGroups (range '0' '1'), longMark]
  | .decimalFloat => decimalFloat
  | .hexFloat => hexFloat
  | .characterLiteral => characterLiteral
  | .stringFragment | .textFragment => many1 (noneOf ['"', '\\'])
  | .quotedFragment =>
    .sequence (anyOf ['"']) (.many (.either (noneOf ['"', '\\']) (exactly ['\\', '"'])))
  | .plainEscape =>
    .sequence (anyOf ['\\']) (noneOf ['b', 'f', 'n', 'r', 't', 's', '\'', '"', '\\'])
  | .escapeSequence => escape
  | .identifier => .sequence (.one .nameStart) (.many (.one .namePart))
  | .lineComment => .sequence (exactly ['/', '/']) (.many (noneOf ['\n']))
  | .blockComment => blockComment
  | other => exactly ((other.spelling?.getD "").toList)

/-- Whether no blank text may stand before a token: it continues the text in quotes. -/
def isImmediate : Token → Bool
  | .stringFragment | .plainEscape | .escapeSequence => true
  | _ => false

/-- The precedence of a token among those that match at one place: a piece of a text in quotes
comes before comments. -/
def precedence : Token → Nat
  | .stringFragment => 1
  | _ => 0

/-- How narrowly a token is described: of two tokens of the same precedence that match the same
text, one with a fixed spelling wins over one that continues a text in quotes, and that over any
other. -/
def narrowness (t : Token) : Nat :=
  if t.spelling?.isSome then 2 else if isImmediate t then 1 else 0

/-- Whether a token is a word that would be a name if it were not listed. -/
def isKeyword (t : Token) : Bool :=
  match t.spelling? with
  | some spelling => (pattern .identifier).isMatch spelling.toList
  | none => false

/-- The keywords. -/
def listedTokens : List Token := Token.all.filter isKeyword

/-- All other tokens. -/
def unlistedTokens : List Token := Token.all.filter fun t => !isKeyword t

/-- The spellings of the keywords. -/
def keywords : List (List Char × Token) :=
  listedTokens.filterMap fun t => t.spelling?.map fun spelling => (spelling.toList, t)

/-- The keyword that a word spells. -/
def keyword? (word : List Char) : Option Token := keywords.lookup word

end Lexis
end Code
end FormulaMap
