import FormulaMap.Code.Grammar.Rule

/-!
# Types and methods

The rules of types, methods and local variables.
-/

namespace FormulaMap
namespace Code
namespace Grammar

/-- A type, possibly annotated. -/
def anyType : Rule :=
  oneOf [ref .unannotatedType, ref .annotatedType]

/-- A type without annotations in front. -/
def unannotatedType : Rule :=
  oneOf [ref .simpleType, ref .arrayType]

/-- A type that is no array. -/
def simpleType : Rule :=
  oneOf
    [tok .voidWord,
     ref .integralType,
     ref .floatingPointType,
     tok .booleanWord,
     renamed .typeIdentifier (tok .identifier),
     ref .scopedTypeIdentifier,
     ref .genericType]

/-- A type with annotations in front. -/
def annotatedType : Rule :=
  seq [many1 (ref .annotationUse), ref .unannotatedType]

/-- The name of a type with qualifiers, each of which may have arguments. -/
def scopedTypeIdentifier : Rule :=
  seq
    [oneOf [renamed .typeIdentifier (tok .identifier), ref .scopedTypeIdentifier, ref .genericType],
     tok .dot,
     many (ref .annotationUse),
     renamed .typeIdentifier (tok .identifier)]

/-- A type with arguments. -/
def genericType : Rule :=
  weighted 10
    (seq
      [oneOf [renamed .typeIdentifier (tok .identifier), ref .scopedTypeIdentifier],
       ref .typeArguments])

/-- An array type. -/
def arrayType : Rule :=
  seq [part .element (ref .unannotatedType), part .dimensions (ref .dimensions)]

/-- A primitive type of whole numbers. -/
def integralType : Rule :=
  oneOf [tok .byteWord, tok .shortWord, tok .intWord, tok .longWord, tok .charWord]

/-- A primitive type of floating-point numbers. -/
def floatingPointType : Rule :=
  oneOf [tok .floatWord, tok .doubleWord]

/-- The part of a method before its body. -/
def methodHeader : Rule :=
  seq
    [optional (seq [part .typeParameters (ref .typeParameters), many (ref .annotationUse)]),
     part .type (ref .unannotatedType),
     ref .methodDeclarator,
     optional (ref .throws)]

/-- The name and the parameters of a method. -/
def methodDeclarator : Rule :=
  seq
    [part .name simpleName,
     part .parameters (ref .formalParameters),
     part .dimensions (optional (ref .dimensions))]

/-- The parameters of a method, in parentheses. -/
def formalParameters : Rule :=
  seq
    [tok .leftParen,
     oneOf
       [ref .receiverParameter,
        seq
          [optional (seq [ref .receiverParameter, tok .comma]),
           optional (listOf .comma (oneOf [ref .formalParameter, ref .spreadParameter]))]],
     tok .rightParen]

/-- A parameter. -/
def formalParameter : Rule :=
  seq [optional (ref .modifiers), part .type (ref .unannotatedType), ref .declaratorName]

/-- The receiver of a method, written out as a parameter. -/
def receiverParameter : Rule :=
  seq
    [many (ref .annotationUse),
     ref .unannotatedType,
     many (seq [tok .identifier, tok .dot]),
     tok .thisWord]

/-- A last parameter that takes any number of arguments. -/
def spreadParameter : Rule :=
  seq
    [optional (ref .modifiers),
     ref .unannotatedType,
     tok .ellipsis,
     many (ref .annotationUse),
     ref .variableDeclarator]

/-- The exceptions a method may throw. -/
def throws : Rule :=
  seq [tok .throwsWord, listOf .comma (ref .anyType)]

/-- Local variables. -/
def localVariableDeclaration : Rule :=
  seq
    [optional (ref .modifiers),
     part .type (ref .unannotatedType),
     ref .declaratorList,
     tok .semicolon]

/-- A method, with or without a body. -/
def methodDeclaration : Rule :=
  seq
    [optional (ref .modifiers), ref .methodHeader, oneOf [part .body (ref .block), tok .semicolon]]

/-- A constructor of a record that names no parameters. -/
def compactConstructorDeclaration : Rule :=
  seq [optional (ref .modifiers), part .name (tok .identifier), part .body (ref .block)]

/-- A word that is a keyword in some places and a name in this one. -/
def contextualName : Rule :=
  oneOf
    [ranked (-3) none
       (renamed (.token .identifier)
         (oneOf [tok .openWord, tok .moduleWord, tok .recordWord, tok .withWord, tok .sealedWord])),
     renamed (.token .identifier) (tok .yieldWord)]

end Grammar
end Code
end FormulaMap
