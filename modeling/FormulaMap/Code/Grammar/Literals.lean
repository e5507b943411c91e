import FormulaMap.Code.Grammar.Rule

/-!
# Literals

The rules of literals that have parts: texts in quotes and text blocks with escapes and embedded
expressions.
-/

namespace FormulaMap
namespace Code
namespace Grammar

/-- A literal of any sort. -/
def literal : Rule :=
  oneOf
    [tok .decimalInteger,
     tok .hexInteger,
     tok .octalInteger,
     tok .binaryInteger,
     tok .decimalFloat,
     tok .hexFloat,
     tok .trueWord,
     tok .falseWord,
     tok .characterLiteral,
     ref .stringLiteral,
     tok .nullWord]

/-- A text in double quotes or a text block. -/
def stringLiteral : Rule :=
  oneOf [ref .quotedString, ref .textBlock]

/-- A text in double quotes on one line, with escapes and embedded expressions. -/
def quotedString : Rule :=
  seq
    [tok .quote,
     many (oneOf [tok .stringFragment, tok .escapeSequence, ref .stringInterpolation]),
     tok .quote]

/-- A text between triple quotes, which may run over several lines. -/
def textBlock : Rule :=
  seq
    [tok .tripleQuote,
     many
       (oneOf
         [renamed (.phrase .textBlockFragment) (ref .textBlockFragment),
          ref .textBlockEscape,
          ref .stringInterpolation]),
     tok .tripleQuote]

/-- A piece of a text block without escapes; a quote may begin it. -/
def textBlockFragment : Rule :=
  oneOf [tok .textFragment, tok .quotedFragment]

/-- An expression embedded in a text. -/
def stringInterpolation : Rule :=
  seq [tok .interpolationStart, ref .expression, tok .rightBrace]

/-- An escape inside a text block; only the standard ones make a node of their own. -/
def textBlockEscape : Rule :=
  oneOf [ranked 2 none (tok .plainEscape), ranked 1 none (tok .escapeSequence)]

end Grammar
end Code
end FormulaMap
