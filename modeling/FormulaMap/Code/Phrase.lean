/-!
# Phrases of Java

The syntactic categories of the language, one for each rule of its grammar, and the names that
a rule gives to the parts of a phrase.  Some categories only group others and leave no node of
their own in a syntax tree.
-/

namespace FormulaMap
namespace Code

/-- A syntactic category. -/
inductive Phrase where
  | program | topLevel | literal | stringLiteral | quotedString | textBlock | textBlockFragment
  | stringInterpolation | textBlockEscape | expression | castExpression | assignmentExpression
  | binaryExpression | instanceofExpression | lambdaExpression | inferredParameters
  | ternaryExpression | unaryExpression | updateExpression | primaryExpression
  | arrayCreationExpression | dimensionsExpr | parenthesizedExpression | classLiteral
  | objectCreationExpression | newExpression | fieldAccess | templateExpression | arrayAccess
  | methodInvocation | argumentList | methodReference | typeArguments | wildcard | wildcardBounds
  | dimensions | switchExpression | switchBlock | switchBlockStatementGroup | switchRule
  | switchLabel | pattern | typePattern | recordPattern | recordPatternBody
  | recordPatternComponent | guard | statement | block | expressionStatement | labeledStatement
  | assertStatement | doStatement | breakStatement | continueStatement | returnStatement
  | yieldStatement | synchronizedStatement | throwStatement | tryStatement | catchClause
  | catchFormalParameter | catchType | finallyClause | tryWithResourcesStatement
  | resourceSpecification | resource | ifStatement | whileStatement | forStatement
  | enhancedForStatement | annotationUse | annotationMarker | annotationWithArguments
  | annotationArgumentList | elementValuePair | elementValue | elementValueArrayInitializer
  | declaration | moduleDeclaration | moduleBody | moduleDirective | requiresModuleDirective
  | requiresModifier | exportsModuleDirective | opensModuleDirective | usesModuleDirective
  | providesModuleDirective | packageDeclaration | importDeclaration | asterisk | enumDeclaration
  | enumBody | enumBodyDeclarations | enumConstant | classDeclaration | modifiers
  | typeParameters | typeParameter | typeBound | superclass | superInterfaces | typeList
  | permits | classBody | classMember | staticInitializer | constructorDeclaration
  | constructorDeclarator | constructorBody | explicitConstructorInvocation | qualifiedName
  | scopedIdentifier | fieldDeclaration | recordDeclaration | annotationTypeDeclaration
  | annotationTypeBody | annotationTypeElementDeclaration | defaultValue | interfaceDeclaration
  | extendsInterfaces | interfaceBody | constantDeclaration | declaratorList | variableDeclarator
  | declaratorName | initializer | arrayInitializer | anyType | unannotatedType | simpleType
  | annotatedType | scopedTypeIdentifier | genericType | arrayType | integralType
  | floatingPointType | methodHeader | methodDeclarator | formalParameters | formalParameter
  | receiverParameter | spreadParameter | throws | localVariableDeclaration | methodDeclaration
  | compactConstructorDeclaration | contextualName
  deriving DecidableEq

/-- The name of a part of a phrase. -/
inductive Field where
  | type | value | left | operator | right | name | pattern | parameters | body | condition
  | consequence | alternative | operand | dimensions | typeArguments | arguments | object | field
  | templateProcessor | templateArgument | array | index | resources | initial | update | key
  | modifiers | moduleName | packageName | moduleNames | provided | provider | interfaces
  | typeParameters | superclass | permits | constructed | scope | declarator | element
  deriving DecidableEq

namespace Phrase

/-- The position of a category in the order of the grammar's rules. -/
def index (p : Phrase) : Nat := p.ctorIdx

/-- All categories, in the order of the grammar's rules. -/
def all : List Phrase :=
  [.program, .topLevel, .literal, .stringLiteral, .quotedString, .textBlock, .textBlockFragment,
   .stringInterpolation, .textBlockEscape, .expression, .castExpression, .assignmentExpression,
   .binaryExpression, .instanceofExpression, .lambdaExpression, .inferredParameters,
   .ternaryExpression, .unaryExpression, .updateExpression, .primaryExpression,
   .arrayCreationExpression, .dimensionsExpr, .parenthesizedExpression, .classLiteral,
   .objectCreationExpression, .newExpression, .fieldAccess, .templateExpression, .arrayAccess,
   .methodInvocation, .argumentList, .methodReference, .typeArguments, .wildcard, .wildcardBounds,
   .dimensions, .switchExpression, .switchBlock, .switchBlockStatementGroup, .switchRule,
   .switchLabel, .pattern, .typePattern, .recordPattern, .recordPatternBody,
   .recordPatternComponent, .guard, .statement, .block, .expressionStatement, .labeledStatement,
   .assertStatement, .doStatement, .breakStatement, .continueStatement, .returnStatement,
   .yieldStatement, .synchronizedStatement, .throwStatement, .tryStatement, .catchClause,
   .catchFormalParameter, .catchType, .finallyClause, .tryWithResourcesStatement,
   .resourceSpecification, .resource, .ifStatement, .whileStatement, .forStatement,
   .enhancedForStatement, .annotationUse, .annotationMarker, .annotationWithArguments,
   .annotationArgumentList, .elementValuePair, .elementValue, .elementValueArrayInitializer,
   .declaration, .moduleDeclaration, .moduleBody, .moduleDirective, .requiresModuleDirective,
   .requiresModifier, .exportsModuleDirective, .opensModuleDirective, .usesModuleDirective,
   .providesModuleDirective, .packageDeclaration, .importDeclaration, .asterisk, .enumDeclaration,
   .enumBody, .enumBodyDeclarations, .enumConstant, .classDeclaration, .modifiers,
   .typeParameters, .typeParameter, .typeBound, .superclass, .superInterfaces, .typeList,
   .permits, .classBody, .classMember, .staticInitializer, .constructorDeclaration,
   .constructorDeclarator, .constructorBody, .explicitConstructorInvocation, .qualifiedName,
   .scopedIdentifier, .fieldDeclaration, .recordDeclaration, .annotationTypeDeclaration,
   .annotationTypeBody, .annotationTypeElementDeclaration, .defaultValue, .interfaceDeclaration,
   .extendsInterfaces, .interfaceBody, .constantDeclaration, .declaratorList, .variableDeclarator,
   .declaratorName, .initializer, .arrayInitializer, .anyType, .unannotatedType, .simpleType,
   .annotatedType, .scopedTypeIdentifier, .genericType, .arrayType, .integralType,
   .floatingPointType, .methodHeader, .methodDeclarator, .formalParameters, .formalParameter,
   .receiverParameter, .spreadParameter, .throws, .localVariableDeclaration, .methodDeclaration,
   .compactConstructorDeclaration, .contextualName]

/-- The categories that group others and stand for their members in a syntax tree. -/
def isGroup : Phrase → Bool
  | .topLevel | .literal | .quotedString | .textBlock | .textBlockFragment | .textBlockEscape
  | .expression | .primaryExpression | .newExpression | .wildcardBounds | .statement
  | .annotationUse | .elementValue | .declaration | .moduleDirective | .classMember
  | .constructorDeclarator | .qualifiedName | .defaultValue | .declaratorList | .declaratorName
  | .initializer | .anyType | .unannotatedType | .simpleType | .methodHeader | .methodDeclarator
  | .contextualName => true
  | _ => false

/-- The groups that are a choice between phrases of one sort; a phrase of theirs is told apart
even where it is all that can follow. -/
def isSort : Phrase → Bool
  | .expression | .declaration | .statement | .primaryExpression | .literal | .anyType
  | .simpleType | .unannotatedType | .moduleDirective => true
  | _ => false

/-- The groups that are written out wherever a rule mentions them. -/
def isInline : Phrase → Bool
  | .qualifiedName | .simpleType | .classMember | .initializer => true
  | _ => false

end Phrase
end Code
end FormulaMap
