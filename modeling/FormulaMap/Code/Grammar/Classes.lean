import FormulaMap.Code.Grammar.Rule

/-!
# Classes

The rules of classes, records, enumerations, interfaces and annotation types, and of the
members that only they have.
-/

namespace FormulaMap
namespace Code
namespace Grammar

/-- An enumeration. -/
def enumDeclaration : Rule :=
  seq
    [optional (ref .modifiers),
     tok .enumWord,
     part .name (tok .identifier),
     part .interfaces (optional (ref .superInterfaces)),
     part .body (ref .enumBody)]

/-- The constants of an enumeration and its further members. -/
def enumBody : Rule :=
  seq
    [tok .leftBrace,
     optional (listOf .comma (ref .enumConstant)),
     optional (tok .comma),
     optional (ref .enumBodyDeclarations),
     tok .rightBrace]

/-- The members of an enumeration behind its constants. -/
def enumBodyDeclarations : Rule :=
  seq [tok .semicolon, many (ref .classMember)]

/-- A constant of an enumeration. -/
def enumConstant : Rule :=
  seq
    [optional (ref .modifiers),
     part .name (tok .identifier),
     part .arguments (optional (ref .argumentList)),
     part .body (optional (ref .classBody))]

/-- A class. -/
def classDeclaration : Rule :=
  seq
    [optional (ref .modifiers),
     tok .classWord,
     part .name (tok .identifier),
     optional (part .typeParameters (ref .typeParameters)),
     optional (part .superclass (ref .superclass)),
     optional (part .interfaces (ref .superInterfaces)),
     optional (part .permits (ref .permits)),
     part .body (ref .classBody)]

/-- Annotations and modifiers of a declaration, in any order. -/
def modifiers : Rule :=
  many1
    (oneOf
      [ref .annotationUse,
       tok .publicWord,
       tok .protectedWord,
       tok .privateWord,
       tok .abstractWord,
       tok .staticWord,
       tok .finalWord,
       tok .strictfpWord,
       tok .defaultWord,
       tok .synchronizedWord,
       tok .nativeWord,
       tok .transientWord,
       tok .volatileWord,
       tok .sealedWord,
       tok .nonSealedWord])

/-- The type parameters of a declaration. -/
def typeParameters : Rule :=
  seq [tok .less, listOf .comma (ref .typeParameter), tok .greater]

/-- A type parameter, possibly with bounds. -/
def typeParameter : Rule :=
  seq
    [many (ref .annotationUse),
     renamed .typeIdentifier (tok .identifier),
     optional (ref .typeBound)]

/-- The bounds of a type parameter. -/
def typeBound : Rule :=
  seq [tok .extendsWord, listOf .ampersand (ref .anyType)]

/-- The class that a class extends. -/
def superclass : Rule :=
  seq [tok .extendsWord, ref .anyType]

/-- The interfaces that a class implements. -/
def superInterfaces : Rule :=
  seq [tok .implementsWord, ref .typeList]

/-- A list of types. -/
def typeList : Rule :=
  listOf .comma (ref .anyType)

/-- The types that may extend a sealed type. -/
def permits : Rule :=
  seq [tok .permitsWord, ref .typeList]

/-- The members of a class. -/
def classBody : Rule :=
  seq [tok .leftBrace, many (ref .classMember), tok .rightBrace]

/-- A member of a class. -/
def classMember : Rule :=
  oneOf
    [ref .fieldDeclaration,
     ref .recordDeclaration,
     ref .methodDeclaration,
     ref .compactConstructorDeclaration,
     ref .classDeclaration,
     ref .interfaceDeclaration,
     ref .annotationTypeDeclaration,
     ref .enumDeclaration,
     ref .block,
     ref .staticInitializer,
     ref .constructorDeclaration,
     tok .semicolon]

/-- A block that runs when a class is loaded. -/
def staticInitializer : Rule :=
  seq [tok .staticWord, ref .block]

/-- A constructor. -/
def constructorDeclaration : Rule :=
  seq
    [optional (ref .modifiers),
     ref .constructorDeclarator,
     optional (ref .throws),
     part .body (ref .constructorBody)]

/-- The name and the parameters of a constructor. -/
def constructorDeclarator : Rule :=
  seq
    [part .typeParameters (optional (ref .typeParameters)),
     part .name (tok .identifier),
     part .parameters (ref .formalParameters)]

/-- The body of a constructor, which may begin with a call of another. -/
def constructorBody : Rule :=
  seq
    [tok .leftBrace,
     optional (ref .explicitConstructorInvocation),
     many (ref .statement),
     tok .rightBrace]

/-- A call of another constructor. -/
def explicitConstructorInvocation : Rule :=
  seq
    [oneOf
       [seq
          [part .typeArguments (optional (ref .typeArguments)),
           part .constructed (oneOf [tok .thisWord, tok .superWord])],
        seq
          [part .object (ref .primaryExpression),
           tok .dot,
           part .typeArguments (optional (ref .typeArguments)),
           part .constructed (tok .superWord)]],
     part .arguments (ref .argumentList),
     tok .semicolon]

/-- A name, possibly with qualifiers. -/
def qualifiedName : Rule :=
  oneOf [tok .identifier, ref .contextualName, ref .scopedIdentifier]

/-- A name with a qualifier. -/
def scopedIdentifier : Rule :=
  seq [part .scope (ref .qualifiedName), tok .dot, part .name (tok .identifier)]

/-- Fields of a class. -/
def fieldDeclaration : Rule :=
  seq
    [optional (ref .modifiers),
     part .type (ref .unannotatedType),
     ref .declaratorList,
     tok .semicolon]

/-- A record. -/
def recordDeclaration : Rule :=
  seq
    [optional (ref .modifiers),
     tok .recordWord,
     part .name (tok .identifier),
     optional (part .typeParameters (ref .typeParameters)),
     part .parameters (ref .formalParameters),
     optional (part .interfaces (ref .superInterfaces)),
     part .body (ref .classBody)]

/-- An annotation type. -/
def annotationTypeDeclaration : Rule :=
  seq
    [optional (ref .modifiers),
     tok .atInterface,
     part .name (tok .identifier),
     part .body (ref .annotationTypeBody)]

/-- The members of an annotation type. -/
def annotationTypeBody : Rule :=
  seq
    [tok .leftBrace,
     many
       (oneOf
         [ref .annotationTypeElementDeclaration,
          ref .constantDeclaration,
          ref .classDeclaration,
          ref .interfaceDeclaration,
          ref .enumDeclaration,
          ref .annotationTypeDeclaration,
          tok .semicolon]),
     tok .rightBrace]

/-- An element of an annotation type. -/
def annotationTypeElementDeclaration : Rule :=
  seq
    [optional (ref .modifiers),
     part .type (ref .unannotatedType),
     part .name simpleName,
     tok .leftParen,
     tok .rightParen,
     part .dimensions (optional (ref .dimensions)),
     optional (ref .defaultValue),
     tok .semicolon]

/-- The default of an element of an annotation type. -/
def defaultValue : Rule :=
  seq [tok .defaultWord, part .value (ref .elementValue)]

/-- An interface. -/
def interfaceDeclaration : Rule :=
  seq
    [optional (ref .modifiers),
     tok .interfaceWord,
     part .name (tok .identifier),
     part .typeParameters (optional (ref .typeParameters)),
     optional (ref .extendsInterfaces),
     optional (part .permits (ref .permits)),
     part .body (ref .interfaceBody)]

/-- The interfaces that an interface extends. -/
def extendsInterfaces : Rule :=
  seq [tok .extendsWord, ref .typeList]

/-- The members of an interface. -/
def interfaceBody : Rule :=
  seq
    [tok .leftBrace,
     many
       (oneOf
         [ref .constantDeclaration,
          ref .enumDeclaration,
          ref .methodDeclaration,
          ref .classDeclaration,
          ref .interfaceDeclaration,
          ref .recordDeclaration,
          ref .annotationTypeDeclaration,
          tok .semicolon]),
     tok .rightBrace]

/-- Constants of an interface or annotation type. -/
def constantDeclaration : Rule :=
  seq
    [optional (ref .modifiers),
     part .type (ref .unannotatedType),
     ref .declaratorList,
     tok .semicolon]

/-- The variables of one declaration. -/
def declaratorList : Rule :=
  listOf .comma (part .declarator (ref .variableDeclarator))

/-- A variable, possibly with an initial value. -/
def variableDeclarator : Rule :=
  seq [ref .declaratorName, optional (seq [tok .assign, part .value (ref .initializer)])]

/-- The name of a variable; brackets behind it make it an array. -/
def declaratorName : Rule :=
  seq
    [part .name (oneOf [tok .identifier, ref .contextualName, tok .underscore]),
     part .dimensions (optional (ref .dimensions))]

/-- The initial value of a variable. -/
def initializer : Rule :=
  oneOf [ref .expression, ref .arrayInitializer]

/-- The elements of an array; a comma may follow the last. -/
def arrayInitializer : Rule :=
  seq
    [tok .leftBrace,
     optional (listOf .comma (ref .initializer)),
     optional (tok .comma),
     tok .rightBrace]

end Grammar
end Code
end FormulaMap
