import Nameplate.Tsx.Grammar.Word

/-!
# Types

Types, and the declarations of types.
-/

namespace Nameplate.Tsx.Grammar

open Phrase Rule

/-- How types and their declarations are written. -/
def typeRules : List (Phrase × Rule) := [
  (.interfaceDeclaration, seq ["interface", identifier, maybe typeParameters,
      maybe extendsTypeClause, objectType]),
  (.extendsTypeClause, seq ["extends",
      commaSeparated (oneOf [identifier, nestedTypeIdentifier, genericType])]),
  (.enumDeclaration, seq [maybe "const", "enum", identifier, enumBody]),
  (.enumBody, seq ["\x7b",
      maybe (seq [commaSeparated (oneOf [propertyName, enumAssignment]), maybe ","]), "\x7d"]),
  (.enumAssignment, seq [propertyName, initializer]),
  (.typeAliasDeclaration, seq ["type", identifier, maybe typeParameters, "=", anyType, semicolon]),
  (.typeSuffix, seq [":", oneOf [anyType, importedMember, importedCall]]),
  (.omittingTypeSuffix, seq ["-?:", anyType]),
  (.addingTypeSuffix, seq ["+?:", anyType]),
  (.optingTypeSuffix, seq ["?:", anyType]),
  (.asserts, seq ["asserts", oneOf [typePredicate, identifier, "this"]]),
  (.assertsSuffix, seq [":", asserts]),
  (.typePredicate, seq [oneOf [identifier, "this", predefinedType], "is", anyType]),
  (.typePredicateSuffix, seq [":", typePredicate]),
  (.anyType, oneOf [primaryType, functionType, readonlyType, constructorType, inferType,
      .strength (.number (-1)) importedMember, .strength (.number (-1)) importedCall]),
  (.primaryType, oneOf [parenthesizedType, predefinedType, identifier, nestedTypeIdentifier,
      genericType, objectType, arrayType, tupleType, flowMaybeType, typeQuery, indexTypeQuery,
      "this", existentialType, literalType, lookupType, conditionalType, templateLiteralType,
      intersectionType, unionType, "const"]),
  (.nestedTypeIdentifier, atLevel .member <|
      seq [oneOf [identifier, nestedIdentifier], ".", identifier]),
  (.genericType, atLevel .call (seq [oneOf [identifier, nestedTypeIdentifier], typeArguments])),
  (.typeArguments, seq ["<", commaSeparated anyType, maybe ",", ">"]),
  (.typeParameters, seq ["<", commaSeparated typeParameter, maybe ",", ">"]),
  (.typeParameter, seq [maybe "const", identifier, maybe constraint, maybe defaultType]),
  (.constraint, seq [oneOf ["extends", ":"], anyType]),
  (.defaultType, seq ["=", anyType]),
  (.functionType, leftward <|
      seq [maybe typeParameters, formalParameters, "=>", oneOf [anyType, asserts, typePredicate]]),
  (.constructorType, leftward <|
      seq [maybe "abstract", "new", maybe typeParameters, formalParameters, "=>", anyType]),
  (.readonlyType, seq ["readonly", anyType]),
  (.inferType, rightward (seq ["infer", identifier, maybe (seq ["extends", anyType])])),
  (.conditionalType, rightward (seq [anyType, "extends", anyType, "?", anyType, ":", anyType])),
  (.unionType, leftward (seq [maybe anyType, "|", anyType])),
  (.intersectionType, leftward (seq [maybe anyType, "&", anyType])),
  (.arrayType, seq [primaryType, "[", "]"]),
  (.lookupType, seq [primaryType, "[", anyType, "]"]),
  (.tupleType, seq ["[", maybe (commaSeparated tupleMember), maybe ",", "]"]),
  (.tupleMember, oneOf [tupleParameter, optionalTupleParameter, optionalType, restType, anyType]),
  (.tupleParameter, seq [oneOf [identifier, restPattern], typeSuffix]),
  (.optionalTupleParameter, seq [identifier, "?", typeSuffix]),
  (.optionalType, seq [anyType, "?"]),
  (.restType, seq ["...", anyType]),
  (.objectType, seq [oneOf ["\x7b", "\x7b|"],
      maybe <|
        seq [maybe (oneOf [",", ";"]),
          separated (oneOf [",", semicolon]) <|
            oneOf [exportStatement, propertySignature, callSignature, constructSignature,
              indexSignature, methodSignature], maybe (oneOf [",", semicolon])],
      oneOf ["\x7d", "|\x7d"]]),
  (.propertySignature, seq [maybe accessibilityModifier, maybe "static", maybe overrideModifier,
      maybe "readonly", propertyName, maybe "?", maybe typeSuffix]),
  (.callSignature, signature),
  (.constructSignature, seq [maybe "abstract", "new", maybe typeParameters, formalParameters,
      maybe typeSuffix]),
  (.indexSignature, seq [maybe (seq [maybe (oneOf ["-", "+"]), "readonly"]), "[",
      oneOf [seq [oneOf [identifier, reservedWord], ":", anyType], mappedTypeClause], "]",
      oneOf [typeSuffix, omittingTypeSuffix, addingTypeSuffix, optingTypeSuffix]]),
  (.mappedTypeClause, seq [identifier, "in", anyType, maybe (seq ["as", anyType])]),
  (.parenthesizedType, seq ["(", anyType, ")"]),
  (.predefinedType, oneOf ["any", "number", "boolean", "string", "symbol",
      seq ["unique", "symbol"], "void", "unknown", "never", "object"]),
  (.literalType, oneOf [signedNumber, number, stringLiteral, "true", "false", "null",
      "undefined"]),
  (.signedNumber, leftward (.strength (.number (1)) (seq [oneOf ["-", "+"], number]))),
  (.existentialType, "*"),
  (.flowMaybeType, rightward (seq ["?", primaryType])),
  (.indexTypeQuery, seq ["keyof", primaryType]),
  (.typeQuery, rightward <|
      seq ["typeof",
        oneOf [queriedElement, queriedMember, queriedCall, queriedInstance, identifier, "this"]]),
  (.queriedMember, seq [oneOf [identifier, "this", queriedElement, queriedMember, queriedCall],
      oneOf [".", "?."], oneOf [privateName, identifier]]),
  (.queriedElement, seq [oneOf [identifier, "this", queriedElement, queriedMember, queriedCall],
      maybe "?.", "[", oneOf [predefinedType, stringLiteral, number], "]"]),
  (.queriedCall, seq [oneOf [importWord, identifier, queriedMember, queriedElement],
      argumentList]),
  (.queriedInstance, seq [oneOf [importWord, identifier, queriedMember, queriedElement],
      typeArguments]),
  (.importedMember, seq [oneOf [importWord, importedMember, importedCall], ".",
      oneOf [privateName, identifier]]),
  (.importedCall, seq [oneOf [importWord, importedMember], argumentList]),
  (.templateType, seq ["$\x7b", oneOf [primaryType, inferType], "\x7d"]),
  (.templateLiteralType, seq ["`", many (oneOf [Mark.templateText, templateType]), "`"])]

end Nameplate.Tsx.Grammar
