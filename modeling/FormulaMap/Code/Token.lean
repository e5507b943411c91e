/-!
# Tokens of Java

The tokens a source text is made of, in the fixed order that decides between equals: of two
tokens of the same precedence the earlier one wins, and a missing token is looked for in this
order.
-/

namespace FormulaMap
namespace Code

/-- A token of the language. -/
inductive Token where
  | decimalInteger | hexInteger | octalInteger | binaryInteger | decimalFloat | hexFloat
  | trueWord | falseWord | characterLiteral | quote | tripleQuote | stringFragment | textFragment
  | quotedFragment | interpolationStart | rightBrace | plainEscape | escapeSequence | nullWord
  | leftParen | rightParen | ampersand | assign | plusAssign | minusAssign | timesAssign
  | divideAssign | andAssign | orAssign | xorAssign | remainderAssign | leftShiftAssign
  | rightShiftAssign | unsignedShiftAssign | greater | less | greaterEqual | lessEqual
  | equalEqual | notEqual | andAnd | orOr | plus | minus | star | slash | bar | caret | percent
  | leftShift | rightShift | unsignedShift | instanceofWord | finalWord | arrow | comma
  | question | colon | bang | tilde | increment | decrement | newWord | leftBracket
  | rightBracket | dot | classWord | doubleColon | extendsWord | switchWord | leftBrace
  | caseWord | defaultWord | underscore | whenWord | semicolon | assertWord | doWord | whileWord
  | breakWord | continueWord | returnWord | yieldWord | synchronizedWord | throwWord | tryWord
  | catchWord | finallyWord | ifWord | elseWord | forWord | atSign | openWord | moduleWord
  | requiresWord | transitiveWord | staticWord | exportsWord | toWord | opensWord | usesWord
  | providesWord | withWord | packageWord | importWord | enumWord | publicWord | protectedWord
  | privateWord | abstractWord | strictfpWord | nativeWord | transientWord | volatileWord
  | sealedWord | nonSealedWord | implementsWord | permitsWord | recordWord | atInterface
  | interfaceWord | byteWord | shortWord | intWord | longWord | charWord | floatWord | doubleWord
  | booleanWord | voidWord | ellipsis | throwsWord | thisWord | superWord | identifier
  | lineComment | blockComment
  deriving DecidableEq

namespace Token

/-- The tokens with a fixed spelling, with the names they go by; every other token is described
by a pattern. -/
def spelling? : Token → Option String
  | .trueWord => some "true"
  | .falseWord => some "false"
  | .quote => some "\""
  | .tripleQuote => some "\"\"\""
  | .interpolationStart => some "\\\x7b"
  | .rightBrace => some "\x7d"
  | .nullWord => some "null"
  | .leftParen => some "("
  | .rightParen => some ")"
  | .ampersand => some "&"
  | .assign => some "="
  | .plusAssign => some "+="
  | .minusAssign => some "-="
  | .timesAssign => some "*="
  | .divideAssign => some "/="
  | .andAssign => some "&="
  | .orAssign => some "|="
  | .xorAssign => some "^="
  | .remainderAssign => some "%="
  | .leftShiftAssign => some "<<="
  | .rightShiftAssign => some ">>="
  | .unsignedShiftAssign => some ">>>="
  | .greater => some ">"
  | .less => some "<"
  | .greaterEqual => some ">="
  | .lessEqual => some "<="
  | .equalEqual => some "=="
  | .notEqual => some "!="
  | .andAnd => some "&&"
  | .orOr => some "||"
  | .plus => some "+"
  | .minus => some "-"
  | .star => some "*"
  | .slash => some "/"
  | .bar => some "|"
  | .caret => some "^"
  | .percent => some "%"
  | .leftShift => some "<<"
  | .rightShift => some ">>"
  | .unsignedShift => some ">>>"
  | .instanceofWord => some "instanceof"
  | .finalWord => some "final"
  | .arrow => some "->"
  | .comma => some ","
  | .question => some "?"
  | .colon => some ":"
  | .bang => some "!"
  | .tilde => some "~"
  | .increment => some "++"
  | .decrement => some "--"
  | .newWord => some "new"
  | .leftBracket => some "["
  | .rightBracket => some "]"
  | .dot => some "."
  | .classWord => some "class"
  | .doubleColon => some "::"
  | .extendsWord => some "extends"
  | .switchWord => some "switch"
  | .leftBrace => some "\x7b"
  | .caseWord => some "case"
  | .defaultWord => some "default"
  | .underscore => some "_"
  | .whenWord => some "when"
  | .semicolon => some ";"
  | .assertWord => some "assert"
  | .doWord => some "do"
  | .whileWord => some "while"
  | .breakWord => some "break"
  | .continueWord => some "continue"
  | .returnWord => some "return"
  | .yieldWord => some "yield"
  | .synchronizedWord => some "synchronized"
  | .throwWord => some "throw"
  | .tryWord => some "try"
  | .catchWord => some "catch"
  | .finallyWord => some "finally"
  | .ifWord => some "if"
  | .elseWord => some "else"
  | .forWord => some "for"
  | .atSign => some "@"
  | .openWord => some "open"
  | .moduleWord => some "module"
  | .requiresWord => some "requires"
  | .transitiveWord => some "transitive"
  | .staticWord => some "static"
  | .exportsWord => some "exports"
  | .toWord => some "to"
  | .opensWord => some "opens"
  | .usesWord => some "uses"
  | .providesWord => some "provides"
  | .withWord => some "with"
  | .packageWord => some "package"
  | .importWord => some "import"
  | .enumWord => some "enum"
  | .publicWord => some "public"
  | .protectedWord => some "protected"
  | .privateWord => some "private"
  | .abstractWord => some "abstract"
  | .strictfpWord => some "strictfp"
  | .nativeWord => some "native"
  | .transientWord => some "transient"
  | .volatileWord => some "volatile"
  | .sealedWord => some "sealed"
  | .nonSealedWord => some "non-sealed"
  | .implementsWord => some "implements"
  | .permitsWord => some "permits"
  | .recordWord => some "record"
  | .atInterface => some "@interface"
  | .interfaceWord => some "interface"
  | .byteWord => some "byte"
  | .shortWord => some "short"
  | .intWord => some "int"
  | .longWord => some "long"
  | .charWord => some "char"
  | .floatWord => some "float"
  | .doubleWord => some "double"
  | .booleanWord => some "boolean"
  | .voidWord => some "void"
  | .ellipsis => some "..."
  | .throwsWord => some "throws"
  | .thisWord => some "this"
  | .superWord => some "super"
  | _ => none

/-- The name by which a message calls the token: a few have a name of their own, the others go
by their spelling. -/
def name : Token → String
  | .decimalInteger => "decimal_integer_literal"
  | .hexInteger => "hex_integer_literal"
  | .octalInteger => "octal_integer_literal"
  | .binaryInteger => "binary_integer_literal"
  | .decimalFloat => "decimal_floating_point_literal"
  | .hexFloat => "hex_floating_point_literal"
  | .characterLiteral => "character_literal"
  | .stringFragment => "string_fragment"
  | .textFragment => "_multiline_string_fragment_token1"
  | .quotedFragment => "_multiline_string_fragment_token2"
  | .plainEscape => "_escape_sequence_token1"
  | .escapeSequence => "escape_sequence"
  | .nullWord => "null_literal"
  | .underscore => "underscore_pattern"
  | .booleanWord => "boolean_type"
  | .voidWord => "void_type"
  | .identifier => "identifier"
  | .lineComment => "line_comment"
  | .blockComment => "block_comment"
  | other => other.spelling?.getD ""

/-- The parts a text block is scanned into that make no node of their own. -/
def isHidden : Token → Bool
  | .textFragment | .quotedFragment | .plainEscape => true
  | _ => false

/-- The position of a token in the order of tokens. -/
def index (t : Token) : Nat := t.ctorIdx

/-- All tokens, in order. -/
def all : List Token :=
  [.decimalInteger, .hexInteger, .octalInteger, .binaryInteger, .decimalFloat, .hexFloat,
   .trueWord, .falseWord, .characterLiteral, .quote, .tripleQuote, .stringFragment, .textFragment,
   .quotedFragment, .interpolationStart, .rightBrace, .plainEscape, .escapeSequence, .nullWord,
   .leftParen, .rightParen, .ampersand, .assign, .plusAssign, .minusAssign, .timesAssign,
   .divideAssign, .andAssign, .orAssign, .xorAssign, .remainderAssign, .leftShiftAssign,
   .rightShiftAssign, .unsignedShiftAssign, .greater, .less, .greaterEqual, .lessEqual,
   .equalEqual, .notEqual, .andAnd, .orOr, .plus, .minus, .star, .slash, .bar, .caret, .percent,
   .leftShift, .rightShift, .unsignedShift, .instanceofWord, .finalWord, .arrow, .comma,
   .question, .colon, .bang, .tilde, .increment, .decrement, .newWord, .leftBracket,
   .rightBracket, .dot, .classWord, .doubleColon, .extendsWord, .switchWord, .leftBrace,
   .caseWord, .defaultWord, .underscore, .whenWord, .semicolon, .assertWord, .doWord, .whileWord,
   .breakWord, .continueWord, .returnWord, .yieldWord, .synchronizedWord, .throwWord, .tryWord,
   .catchWord, .finallyWord, .ifWord, .elseWord, .forWord, .atSign, .openWord, .moduleWord,
   .requiresWord, .transitiveWord, .staticWord, .exportsWord, .toWord, .opensWord, .usesWord,
   .providesWord, .withWord, .packageWord, .importWord, .enumWord, .publicWord, .protectedWord,
   .privateWord, .abstractWord, .strictfpWord, .nativeWord, .transientWord, .volatileWord,
   .sealedWord, .nonSealedWord, .implementsWord, .permitsWord, .recordWord, .atInterface,
   .interfaceWord, .byteWord, .shortWord, .intWord, .longWord, .charWord, .floatWord, .doubleWord,
   .booleanWord, .voidWord, .ellipsis, .throwsWord, .thisWord, .superWord, .identifier,
   .lineComment, .blockComment]

end Token
end Code
end FormulaMap
