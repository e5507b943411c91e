import FormulaMap.Code.Grammar.Rule

/-!
# Statements

The rules of statements and of the patterns in them.
-/

namespace FormulaMap
namespace Code
namespace Grammar

/-- A choice by value, as a statement or an expression. -/
def switchExpression : Rule :=
  seq
    [tok .switchWord, part .condition (ref .parenthesizedExpression), part .body (ref .switchBlock)]

/-- The body of a choice by value: groups of statements or rules, not both. -/
def switchBlock : Rule :=
  seq
    [tok .leftBrace,
     oneOf [many (ref .switchBlockStatementGroup), many (ref .switchRule)],
     tok .rightBrace]

/-- Statements under one or more labels. -/
def switchBlockStatementGroup : Rule :=
  ranked 0 (some .left) (seq [many1 (seq [ref .switchLabel, tok .colon]), many (ref .statement)])

/-- One rule of a choice by value. -/
def switchRule : Rule :=
  seq
    [ref .switchLabel,
     tok .arrow,
     oneOf [ref .expressionStatement, ref .throwStatement, ref .block]]

/-- The label of a case: a pattern or values, possibly guarded, or the default. -/
def switchLabel : Rule :=
  oneOf
    [seq
       [tok .caseWord, oneOf [ref .pattern, listOf .comma (ref .expression)],
        optional (ref .guard)],
     tok .defaultWord]

/-- A pattern that a value may match. -/
def pattern : Rule :=
  oneOf [ref .typePattern, ref .recordPattern]

/-- A type and the name given to a value of it. -/
def typePattern : Rule :=
  seq [ref .unannotatedType, simpleName]

/-- A record type and patterns for its components. -/
def recordPattern : Rule :=
  seq [oneOf [tok .identifier, ref .contextualName, ref .genericType], ref .recordPatternBody]

/-- The patterns for the components of a record. -/
def recordPatternBody : Rule :=
  seq
    [tok .leftParen,
     optional (listOf .comma (oneOf [ref .recordPatternComponent, ref .recordPattern])),
     tok .rightParen]

/-- A component that is ignored or named. -/
def recordPatternComponent : Rule :=
  oneOf [tok .underscore, seq [ref .unannotatedType, simpleName]]

/-- The condition of a case. -/
def guard : Rule :=
  seq [tok .whenWord, ref .expression]

/-- A statement. -/
def statement : Rule :=
  oneOf
    [ref .declaration,
     ref .expressionStatement,
     ref .labeledStatement,
     ref .ifStatement,
     ref .whileStatement,
     ref .forStatement,
     ref .enhancedForStatement,
     ref .block,
     tok .semicolon,
     ref .assertStatement,
     ref .doStatement,
     ref .breakStatement,
     ref .continueStatement,
     ref .returnStatement,
     ref .yieldStatement,
     ref .switchExpression,
     ref .synchronizedStatement,
     ref .localVariableDeclaration,
     ref .throwStatement,
     ref .tryStatement,
     ref .tryWithResourcesStatement]

/-- Statements in braces. -/
def block : Rule :=
  seq [tok .leftBrace, many (ref .statement), tok .rightBrace]

/-- An expression used as a statement. -/
def expressionStatement : Rule :=
  seq [ref .expression, tok .semicolon]

/-- A statement under a label. -/
def labeledStatement : Rule :=
  seq [tok .identifier, tok .colon, ref .statement]

/-- An assertion, possibly with a message. -/
def assertStatement : Rule :=
  oneOf
    [seq [tok .assertWord, ref .expression, tok .semicolon],
     seq [tok .assertWord, ref .expression, tok .colon, ref .expression, tok .semicolon]]

/-- A loop with its test at the end. -/
def doStatement : Rule :=
  seq
    [tok .doWord,
     part .body (ref .statement),
     tok .whileWord,
     part .condition (ref .parenthesizedExpression),
     tok .semicolon]

/-- The end of a loop or of a labeled statement. -/
def breakStatement : Rule :=
  seq [tok .breakWord, optional (tok .identifier), tok .semicolon]

/-- The next round of a loop. -/
def continueStatement : Rule :=
  seq [tok .continueWord, optional (tok .identifier), tok .semicolon]

/-- The end of a method, possibly with a value. -/
def returnStatement : Rule :=
  seq [tok .returnWord, optional (ref .expression), tok .semicolon]

/-- The value of a choice by value. -/
def yieldStatement : Rule :=
  seq [tok .yieldWord, ref .expression, tok .semicolon]

/-- A block that holds a lock. -/
def synchronizedStatement : Rule :=
  seq [tok .synchronizedWord, ref .parenthesizedExpression, part .body (ref .block)]

/-- An exception thrown. -/
def throwStatement : Rule :=
  seq [tok .throwWord, ref .expression, tok .semicolon]

/-- A block with handlers for exceptions, a final block or both. -/
def tryStatement : Rule :=
  seq
    [tok .tryWord,
     part .body (ref .block),
     oneOf [many1 (ref .catchClause), seq [many (ref .catchClause), ref .finallyClause]]]

/-- A handler for exceptions. -/
def catchClause : Rule :=
  seq
    [tok .catchWord,
     tok .leftParen,
     ref .catchFormalParameter,
     tok .rightParen,
     part .body (ref .block)]

/-- The exception that a handler names. -/
def catchFormalParameter : Rule :=
  seq [optional (ref .modifiers), ref .catchType, ref .declaratorName]

/-- The types of exceptions a handler takes. -/
def catchType : Rule :=
  listOf .bar (ref .unannotatedType)

/-- A block that runs in any case. -/
def finallyClause : Rule :=
  seq [tok .finallyWord, ref .block]

/-- A block with resources that are closed behind it. -/
def tryWithResourcesStatement : Rule :=
  seq
    [tok .tryWord,
     part .resources (ref .resourceSpecification),
     part .body (ref .block),
     many (ref .catchClause),
     optional (ref .finallyClause)]

/-- The resources of a block. -/
def resourceSpecification : Rule :=
  seq
    [tok .leftParen, listOf .semicolon (ref .resource), optional (tok .semicolon), tok .rightParen]

/-- A resource: a declaration, a name or a field. -/
def resource : Rule :=
  oneOf
    [seq
       [optional (ref .modifiers),
        part .type (ref .unannotatedType),
        ref .declaratorName,
        tok .assign,
        part .value (ref .expression)],
     tok .identifier,
     ref .fieldAccess]

/-- A choice by a condition; an alternative belongs to the nearest condition. -/
def ifStatement : Rule :=
  ranked 0 (some .right)
    (seq
      [tok .ifWord,
       part .condition (ref .parenthesizedExpression),
       part .consequence (ref .statement),
       optional (seq [tok .elseWord, part .alternative (ref .statement)])])

/-- A loop with its test at the start. -/
def whileStatement : Rule :=
  seq [tok .whileWord, part .condition (ref .parenthesizedExpression), part .body (ref .statement)]

/-- A loop with start, test and step. -/
def forStatement : Rule :=
  seq
    [tok .forWord,
     tok .leftParen,
     oneOf
       [part .initial (ref .localVariableDeclaration),
        seq [optional (listOf .comma (part .initial (ref .expression))), tok .semicolon]],
     part .condition (optional (ref .expression)),
     tok .semicolon,
     optional (listOf .comma (part .update (ref .expression))),
     tok .rightParen,
     part .body (ref .statement)]

/-- A loop over the elements of a collection. -/
def enhancedForStatement : Rule :=
  seq
    [tok .forWord,
     tok .leftParen,
     optional (ref .modifiers),
     part .type (ref .unannotatedType),
     ref .declaratorName,
     tok .colon,
     part .value (ref .expression),
     tok .rightParen,
     part .body (ref .statement)]

end Grammar
end Code
end FormulaMap
