import FormulaMap.Code.Grammar.Rule

/-!
# Expressions

The rules of expressions.  Ranks order the operations: a higher rank binds more tightly.
-/

namespace FormulaMap
namespace Code
namespace Grammar

/-- An expression. -/
def expression : Rule :=
  oneOf
    [ref .assignmentExpression,
     ref .binaryExpression,
     ref .instanceofExpression,
     ref .lambdaExpression,
     ref .ternaryExpression,
     ref .updateExpression,
     ref .primaryExpression,
     ref .unaryExpression,
     ref .castExpression,
     ref .switchExpression]

/-- A cast to one type, or to several joined by `&`. -/
def castExpression : Rule :=
  ranked 14 none
    (oneOf
      [seq
         [tok .leftParen, part .type (ref .anyType), tok .rightParen,
          part .value (ref .expression)],
       seq
         [tok .leftParen,
          listOf .ampersand (part .type (ref .anyType)),
          tok .rightParen,
          part .value (oneOf [ref .primaryExpression, ref .lambdaExpression])]])

/-- An assignment, plain or combined with an operation; it groups to the right. -/
def assignmentExpression : Rule :=
  ranked 1 (some .right)
    (seq
      [part .left
         (oneOf [tok .identifier, ref .contextualName, ref .fieldAccess, ref .arrayAccess]),
       part .operator
         (oneOf
           [tok .assign,
            tok .plusAssign,
            tok .minusAssign,
            tok .timesAssign,
            tok .divideAssign,
            tok .andAssign,
            tok .orAssign,
            tok .xorAssign,
            tok .remainderAssign,
            tok .leftShiftAssign,
            tok .rightShiftAssign,
            tok .unsignedShiftAssign]),
       part .right (ref .expression)])

/-- The operations on two operands with their ranks. -/
def binaryOperators : List (Token × Int) :=
  [(.greater, 10), (.less, 10), (.greaterEqual, 10), (.lessEqual, 10), (.equalEqual, 9),
   (.notEqual, 9), (.andAnd, 5), (.orOr, 4), (.plus, 12), (.minus, 12), (.star, 13), (.slash, 13),
   (.ampersand, 8), (.bar, 6), (.caret, 7), (.percent, 13), (.leftShift, 11), (.rightShift, 11),
   (.unsignedShift, 11)]

/-- An operation on two operands; all of them group to the left. -/
def binaryExpression : Rule :=
  oneOf (binaryOperators.map fun (operator, rank) =>
    ranked rank (some .left)
      (seq
        [part .left (ref .expression),
         part .operator (tok operator),
         part .right (ref .expression)]))

/-- A test of a value against a type, which may name the value, or a record pattern. -/
def instanceofExpression : Rule :=
  ranked 10 none
    (seq
      [part .left (ref .expression),
       tok .instanceofWord,
       optional (tok .finalWord),
       oneOf
         [seq
            [part .right (ref .anyType),
             optional (part .name simpleName)],
          part .pattern (ref .recordPattern)]])

/-- A function of its parameters. -/
def lambdaExpression : Rule :=
  seq
    [part .parameters
       (oneOf
         [tok .identifier, ref .formalParameters, ref .inferredParameters, ref .contextualName]),
     tok .arrow,
     part .body (oneOf [ref .expression, ref .block])]

/-- Parameters of a function that are given by their names alone. -/
def inferredParameters : Rule :=
  seq
    [tok .leftParen, listOf .comma simpleName, tok .rightParen]

/-- A choice between two values; it groups to the right. -/
def ternaryExpression : Rule :=
  ranked 3 (some .right)
    (seq
      [part .condition (ref .expression),
       tok .question,
       part .consequence (ref .expression),
       tok .colon,
       part .alternative (ref .expression)])

/-- A sign or negation before an operand. -/
def unaryExpression : Rule :=
  oneOf ([Token.plus, .minus, .bang, .tilde].map fun operator =>
    ranked 15 (some .left)
      (seq [part .operator (tok operator), part .operand (ref .expression)]))

/-- An increment or decrement, before or after its operand. -/
def updateExpression : Rule :=
  ranked 15 (some .left)
    (oneOf
      [seq [ref .expression, tok .increment],
       seq [ref .expression, tok .decrement],
       seq [tok .increment, ref .expression],
       seq [tok .decrement, ref .expression]])

/-- An expression that may stand before a dot, a bracket or a double colon. -/
def primaryExpression : Rule :=
  oneOf
    [ref .literal,
     ref .classLiteral,
     tok .thisWord,
     tok .identifier,
     ref .contextualName,
     ref .parenthesizedExpression,
     ref .objectCreationExpression,
     ref .fieldAccess,
     ref .arrayAccess,
     ref .methodInvocation,
     ref .methodReference,
     ref .arrayCreationExpression,
     ref .templateExpression]

/-- A new array, of given sizes or with given elements. -/
def arrayCreationExpression : Rule :=
  ranked 0 (some .right)
    (seq
      [tok .newWord,
       many (ref .annotationUse),
       part .type (ref .simpleType),
       oneOf
         [seq
            [part .dimensions (many1 (ref .dimensionsExpr)),
             part .dimensions (optional (ref .dimensions))],
          seq [part .dimensions (ref .dimensions), part .value (ref .arrayInitializer)]]])

/-- The size of one dimension of a new array. -/
def dimensionsExpr : Rule :=
  seq [many (ref .annotationUse), tok .leftBracket, ref .expression, tok .rightBracket]

/-- An expression in parentheses. -/
def parenthesizedExpression : Rule :=
  seq [tok .leftParen, ref .expression, tok .rightParen]

/-- A type used as a value. -/
def classLiteral : Rule :=
  weighted 17 (seq [ref .unannotatedType, tok .dot, tok .classWord])

/-- A new object, possibly of an inner class of the object before the dot. -/
def objectCreationExpression : Rule :=
  oneOf [ref .newExpression, seq [ref .primaryExpression, tok .dot, ref .newExpression]]

/-- A new object, possibly with a class body of its own. -/
def newExpression : Rule :=
  ranked 0 (some .right)
    (seq
      [tok .newWord,
       oneOf
         [seq
            [many (ref .annotationUse),
             part .typeArguments (ref .typeArguments),
             many (ref .annotationUse)],
          many (ref .annotationUse)],
       part .type (ref .simpleType),
       part .arguments (ref .argumentList),
       optional (ref .classBody)])

/-- A field of an object, possibly by way of the superclass. -/
def fieldAccess : Rule :=
  seq
    [part .object (oneOf [ref .primaryExpression, tok .superWord]),
     optional (seq [tok .dot, tok .superWord]),
     tok .dot,
     part .field (oneOf [tok .identifier, ref .contextualName, tok .thisWord])]

/-- A text handed to a template processor. -/
def templateExpression : Rule :=
  seq
    [part .templateProcessor (ref .primaryExpression),
     tok .dot,
     part .templateArgument (ref .stringLiteral)]

/-- An element of an array. -/
def arrayAccess : Rule :=
  seq
    [part .array (ref .primaryExpression),
     tok .leftBracket,
     part .index (ref .expression),
     tok .rightBracket]

/-- A call of a method by its name alone or on an object. -/
def methodInvocation : Rule :=
  seq
    [oneOf
       [part .name simpleName,
        seq
          [part .object (oneOf [ref .primaryExpression, tok .superWord]),
           tok .dot,
           optional (seq [tok .superWord, tok .dot]),
           part .typeArguments (optional (ref .typeArguments)),
           part .name simpleName]],
     part .arguments (ref .argumentList)]

/-- The arguments of a call. -/
def argumentList : Rule :=
  seq [tok .leftParen, optional (listOf .comma (ref .expression)), tok .rightParen]

/-- A method or constructor used as a value. -/
def methodReference : Rule :=
  seq
    [oneOf [ref .anyType, ref .primaryExpression, tok .superWord],
     tok .doubleColon,
     optional (ref .typeArguments),
     oneOf [tok .newWord, tok .identifier]]

/-- The arguments of a generic type; there may be none. -/
def typeArguments : Rule :=
  seq [tok .less, optional (listOf .comma (oneOf [ref .anyType, ref .wildcard])), tok .greater]

/-- An unknown type argument, possibly with a bound. -/
def wildcard : Rule :=
  seq [many (ref .annotationUse), tok .question, optional (ref .wildcardBounds)]

/-- The bound of an unknown type argument. -/
def wildcardBounds : Rule :=
  oneOf [seq [tok .extendsWord, ref .anyType], seq [tok .superWord, ref .anyType]]

/-- The empty brackets of an array type. -/
def dimensions : Rule :=
  ranked 0 (some .right)
    (many1 (seq [many (ref .annotationUse), tok .leftBracket, tok .rightBracket]))

end Grammar
end Code
end FormulaMap
