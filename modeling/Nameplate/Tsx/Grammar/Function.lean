import Nameplate.Tsx.Grammar.Word

/-!
# Functions, parameters and patterns

Functions of all sorts, their parameters, and the patterns that take a value apart.
-/

namespace Nameplate.Tsx.Grammar

open Phrase Rule

/-- How functions, their parameters and patterns are written. -/
def functionRules : List (Phrase × Rule) := [
  (.functionExpression, atLevel .literal <|
      seq [maybe "async", "function", maybe identifier, signature, statementBlock]),
  (.functionDeclaration, rightward <|
      atLevel .declare <|
        seq [maybe "async", "function", .role .name identifier, signature, statementBlock,
          maybe Mark.semicolon]),
  (.generatorFunction, atLevel .literal <|
      seq [maybe "async", "function", "*", maybe identifier, signature, statementBlock]),
  (.generatorFunctionDeclaration, rightward <|
      atLevel .declare <|
        seq [maybe "async", "function", "*", identifier, signature, statementBlock,
          maybe Mark.semicolon]),
  (.arrowFunction, seq [maybe "async", oneOf [reservedWord, identifier, signature], "=>",
      oneOf [expression, statementBlock]]),
  (.functionSignature, seq [maybe "async", "function", identifier, signature,
      oneOf [semicolon, Mark.signatureEnd]]),
  (.signature, seq [maybe typeParameters, formalParameters,
      maybe (oneOf [typeSuffix, assertsSuffix, typePredicateSuffix])]),
  (.formalParameters, seq ["(", maybe (seq [commaSeparated formalParameter, maybe ","]), ")"]),
  (.formalParameter, oneOf [requiredParameter, optionalParameter]),
  (.requiredParameter, seq [parameterName, maybe typeSuffix, maybe initializer]),
  (.optionalParameter, seq [parameterName, "?", maybe typeSuffix, maybe initializer]),
  (.parameterName, seq [many decorator, maybe accessibilityModifier, maybe overrideModifier,
      maybe "readonly", oneOf [bindingPattern, "this"]]),
  (.bindingPattern, .weight (-1) (oneOf [leftSide, restPattern])),
  (.restPattern, rightward (seq ["...", leftSide])),
  (.destructuringPattern, oneOf [objectPattern, arrayPattern]),
  (.objectPattern, atLevel .objectLiteral <|
      seq ["\x7b",
        elements <|
          oneOf [pairPattern, restPattern, objectAssignmentPattern, identifier, reservedWord],
        "\x7d"]),
  (.pairPattern, seq [propertyName, ":", oneOf [bindingPattern, assignmentPattern]]),
  (.objectAssignmentPattern, seq [oneOf [reservedWord, identifier, destructuringPattern], "=",
      expression]),
  (.arrayPattern, seq ["[", elements (oneOf [bindingPattern, assignmentPattern]), "]"]),
  (.assignmentPattern, seq [bindingPattern, "=", expression])]

end Nameplate.Tsx.Grammar
