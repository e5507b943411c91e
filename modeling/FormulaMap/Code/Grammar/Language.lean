import FormulaMap.Code.Grammar.Classes
import FormulaMap.Code.Grammar.Expressions
import FormulaMap.Code.Grammar.Literals
import FormulaMap.Code.Grammar.Members
import FormulaMap.Code.Grammar.Modules
import FormulaMap.Code.Grammar.Statements

/-!
# The grammar of Java

Each syntactic category with its rule.  The language read here is a little more than Java:
statements and methods may stand at the top of a source text, and imports and modifiers in any
number and order.
-/

namespace FormulaMap
namespace Code
namespace Grammar

/-- The rule of a syntactic category. -/
def rule : Phrase → Rule
  | .program => program
  | .topLevel => topLevel
  | .literal => literal
  | .stringLiteral => stringLiteral
  | .quotedString => quotedString
  | .textBlock => textBlock
  | .textBlockFragment => textBlockFragment
  | .stringInterpolation => stringInterpolation
  | .textBlockEscape => textBlockEscape
  | .expression => expression
  | .castExpression => castExpression
  | .assignmentExpression => assignmentExpression
  | .binaryExpression => binaryExpression
  | .instanceofExpression => instanceofExpression
  | .lambdaExpression => lambdaExpression
  | .inferredParameters => inferredParameters
  | .ternaryExpression => ternaryExpression
  | .unaryExpression => unaryExpression
  | .updateExpression => updateExpression
  | .primaryExpression => primaryExpression
  | .arrayCreationExpression => arrayCreationExpression
  | .dimensionsExpr => dimensionsExpr
  | .parenthesizedExpression => parenthesizedExpression
  | .classLiteral => classLiteral
  | .objectCreationExpression => objectCreationExpression
  | .newExpression => newExpression
  | .fieldAccess => fieldAccess
  | .templateExpression => templateExpression
  | .arrayAccess => arrayAccess
  | .methodInvocation => methodInvocation
  | .argumentList => argumentList
  | .methodReference => methodReference
  | .typeArguments => typeArguments
  | .wildcard => wildcard
  | .wildcardBounds => wildcardBounds
  | .dimensions => dimensions
  | .switchExpression => switchExpression
  | .switchBlock => switchBlock
  | .switchBlockStatementGroup => switchBlockStatementGroup
  | .switchRule => switchRule
  | .switchLabel => switchLabel
  | .pattern => pattern
  | .typePattern => typePattern
  | .recordPattern => recordPattern
  | .recordPatternBody => recordPatternBody
  | .recordPatternComponent => recordPatternComponent
  | .guard => guard
  | .statement => statement
  | .block => block
  | .expressionStatement => expressionStatement
  | .labeledStatement => labeledStatement
  | .assertStatement => assertStatement
  | .doStatement => doStatement
  | .breakStatement => breakStatement
  | .continueStatement => continueStatement
  | .returnStatement => returnStatement
  | .yieldStatement => yieldStatement
  | .synchronizedStatement => synchronizedStatement
  | .throwStatement => throwStatement
  | .tryStatement => tryStatement
  | .catchClause => catchClause
  | .catchFormalParameter => catchFormalParameter
  | .catchType => catchType
  | .finallyClause => finallyClause
  | .tryWithResourcesStatement => tryWithResourcesStatement
  | .resourceSpecification => resourceSpecification
  | .resource => resource
  | .ifStatement => ifStatement
  | .whileStatement => whileStatement
  | .forStatement => forStatement
  | .enhancedForStatement => enhancedForStatement
  | .annotationUse => annotationUse
  | .annotationMarker => annotationMarker
  | .annotationWithArguments => annotationWithArguments
  | .annotationArgumentList => annotationArgumentList
  | .elementValuePair => elementValuePair
  | .elementValue => elementValue
  | .elementValueArrayInitializer => elementValueArrayInitializer
  | .declaration => declaration
  | .moduleDeclaration => moduleDeclaration
  | .moduleBody => moduleBody
  | .moduleDirective => moduleDirective
  | .requiresModuleDirective => requiresModuleDirective
  | .requiresModifier => requiresModifier
  | .exportsModuleDirective => exportsModuleDirective
  | .opensModuleDirective => opensModuleDirective
  | .usesModuleDirective => usesModuleDirective
  | .providesModuleDirective => providesModuleDirective
  | .packageDeclaration => packageDeclaration
  | .importDeclaration => importDeclaration
  | .asterisk => asterisk
  | .enumDeclaration => enumDeclaration
  | .enumBody => enumBody
  | .enumBodyDeclarations => enumBodyDeclarations
  | .enumConstant => enumConstant
  | .classDeclaration => classDeclaration
  | .modifiers => modifiers
  | .typeParameters => typeParameters
  | .typeParameter => typeParameter
  | .typeBound => typeBound
  | .superclass => superclass
  | .superInterfaces => superInterfaces
  | .typeList => typeList
  | .permits => permits
  | .classBody => classBody
  | .classMember => classMember
  | .staticInitializer => staticInitializer
  | .constructorDeclaration => constructorDeclaration
  | .constructorDeclarator => constructorDeclarator
  | .constructorBody => constructorBody
  | .explicitConstructorInvocation => explicitConstructorInvocation
  | .qualifiedName => qualifiedName
  | .scopedIdentifier => scopedIdentifier
  | .fieldDeclaration => fieldDeclaration
  | .recordDeclaration => recordDeclaration
  | .annotationTypeDeclaration => annotationTypeDeclaration
  | .annotationTypeBody => annotationTypeBody
  | .annotationTypeElementDeclaration => annotationTypeElementDeclaration
  | .defaultValue => defaultValue
  | .interfaceDeclaration => interfaceDeclaration
  | .extendsInterfaces => extendsInterfaces
  | .interfaceBody => interfaceBody
  | .constantDeclaration => constantDeclaration
  | .declaratorList => declaratorList
  | .variableDeclarator => variableDeclarator
  | .declaratorName => declaratorName
  | .initializer => initializer
  | .arrayInitializer => arrayInitializer
  | .anyType => anyType
  | .unannotatedType => unannotatedType
  | .simpleType => simpleType
  | .annotatedType => annotatedType
  | .scopedTypeIdentifier => scopedTypeIdentifier
  | .genericType => genericType
  | .arrayType => arrayType
  | .integralType => integralType
  | .floatingPointType => floatingPointType
  | .methodHeader => methodHeader
  | .methodDeclarator => methodDeclarator
  | .formalParameters => formalParameters
  | .formalParameter => formalParameter
  | .receiverParameter => receiverParameter
  | .spreadParameter => spreadParameter
  | .throws => throws
  | .localVariableDeclaration => localVariableDeclaration
  | .methodDeclaration => methodDeclaration
  | .compactConstructorDeclaration => compactConstructorDeclaration
  | .contextualName => contextualName

end Grammar
end Code
end FormulaMap
