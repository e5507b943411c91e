import FormulaMap.Code.Grammar.Rule

/-!
# Source texts, annotations and modules

The rules of whole source texts, of annotations, and of the declarations about modules,
packages and imports.
-/

namespace FormulaMap
namespace Code
namespace Grammar

/-- A source text: statements and methods in any number and order. -/
def program : Rule :=
  many (ref .topLevel)

/-- A part of a source text. -/
def topLevel : Rule :=
  oneOf [ref .statement, ref .methodDeclaration]

/-- An annotation with or without arguments. -/
def annotationUse : Rule :=
  oneOf [ref .annotationMarker, ref .annotationWithArguments]

/-- An annotation given by its name alone. -/
def annotationMarker : Rule :=
  seq [tok .atSign, part .name (ref .qualifiedName)]

/-- An annotation with arguments. -/
def annotationWithArguments : Rule :=
  seq [tok .atSign, part .name (ref .qualifiedName), part .arguments (ref .annotationArgumentList)]

/-- The arguments of an annotation: one value, or names with values. -/
def annotationArgumentList : Rule :=
  seq
    [tok .leftParen,
     oneOf [ref .elementValue, optional (listOf .comma (ref .elementValuePair))],
     tok .rightParen]

/-- A named argument of an annotation. -/
def elementValuePair : Rule :=
  seq
    [part .key simpleName,
     tok .assign,
     part .value (ref .elementValue)]

/-- A value in an annotation. -/
def elementValue : Rule :=
  ranked 2 none (oneOf [ref .expression, ref .elementValueArrayInitializer, ref .annotationUse])

/-- Several values in an annotation; a comma may follow the last. -/
def elementValueArrayInitializer : Rule :=
  seq
    [tok .leftBrace,
     optional (listOf .comma (ref .elementValue)),
     optional (tok .comma),
     tok .rightBrace]

/-- A declaration that may stand as a statement. -/
def declaration : Rule :=
  ranked 2 none
    (oneOf
      [ref .moduleDeclaration,
       ref .packageDeclaration,
       ref .importDeclaration,
       ref .classDeclaration,
       ref .recordDeclaration,
       ref .interfaceDeclaration,
       ref .annotationTypeDeclaration,
       ref .enumDeclaration])

/-- A module. -/
def moduleDeclaration : Rule :=
  seq
    [many (ref .annotationUse),
     optional (tok .openWord),
     tok .moduleWord,
     part .name (ref .qualifiedName),
     part .body (ref .moduleBody)]

/-- The directives of a module. -/
def moduleBody : Rule :=
  seq [tok .leftBrace, many (ref .moduleDirective), tok .rightBrace]

/-- A directive of a module. -/
def moduleDirective : Rule :=
  oneOf
    [ref .requiresModuleDirective,
     ref .exportsModuleDirective,
     ref .opensModuleDirective,
     ref .usesModuleDirective,
     ref .providesModuleDirective]

/-- A module that is needed. -/
def requiresModuleDirective : Rule :=
  seq
    [tok .requiresWord,
     many (part .modifiers (ref .requiresModifier)),
     part .moduleName (ref .qualifiedName),
     tok .semicolon]

/-- How a module is needed. -/
def requiresModifier : Rule :=
  oneOf [tok .transitiveWord, tok .staticWord]

/-- A package that is visible to other modules. -/
def exportsModuleDirective : Rule :=
  seq
    [tok .exportsWord,
     part .packageName (ref .qualifiedName),
     optional (seq [tok .toWord, listOf .comma (part .moduleNames (ref .qualifiedName))]),
     tok .semicolon]

/-- A package that is open to other modules. -/
def opensModuleDirective : Rule :=
  seq
    [tok .opensWord,
     part .packageName (ref .qualifiedName),
     optional (seq [tok .toWord, listOf .comma (part .moduleNames (ref .qualifiedName))]),
     tok .semicolon]

/-- A service that is used. -/
def usesModuleDirective : Rule :=
  seq [tok .usesWord, part .type (ref .qualifiedName), tok .semicolon]

/-- A service that is provided. -/
def providesModuleDirective : Rule :=
  seq
    [tok .providesWord,
     part .provided (ref .qualifiedName),
     tok .withWord,
     ref .qualifiedName,
     many (seq [tok .comma, part .provider (ref .qualifiedName)]),
     tok .semicolon]

/-- The package of a source text. -/
def packageDeclaration : Rule :=
  seq [many (ref .annotationUse), tok .packageWord, ref .qualifiedName, tok .semicolon]

/-- An import of a name or of all names of a package. -/
def importDeclaration : Rule :=
  seq
    [tok .importWord,
     optional (tok .staticWord),
     ref .qualifiedName,
     optional (seq [tok .dot, ref .asterisk]),
     tok .semicolon]

/-- The mark for all names of a package. -/
def asterisk : Rule :=
  tok .star

end Grammar
end Code
end FormulaMap
