import Nameplate.Tsx.Grammar.Word

/-!
# Expressions

Values and the operators on them. The levels of the operators are ordered by `Grammar.ranks`.
-/

namespace Nameplate.Tsx.Grammar

open Phrase Rule

/-- How expressions are written. -/
def expressionRules : List (Phrase × Rule) := [
  (.expression, oneOf [asExpression, satisfiesExpression, instantiationExpression,
      internalModule, primaryExpression, jsxElement, jsxSelfClosingElement, assignmentExpression,
      updateAssignment, awaitExpression, unaryExpression, binaryExpression, ternaryExpression,
      updateExpression, newExpression, yieldExpression]),
  (.primaryExpression, oneOf [subscriptExpression, memberExpression, parenthesizedExpression,
      plainName, .kind .identifier reservedWord, "this", "super", number, stringLiteral,
      templateString, regex, "true", "false", "null", objectLiteral, arrayLiteral,
      functionExpression, arrowFunction, generatorFunction, classExpression, metaProperty,
      callExpression, nonNullExpression]),
  (.parenthesizedExpression, seq ["(",
      oneOf [seq [expression, maybe typeSuffix], sequenceExpression], ")"]),
  (.sequenceExpression, rightward (commaSeparated expression)),
  (.yieldExpression, rightward (seq ["yield", oneOf [seq ["*", expression], maybe expression]])),
  (.awaitExpression, atLevel .unaryVoid (seq ["await", expression])),
  (.objectLiteral, atLevel .objectLiteral <|
      seq ["\x7b",
        elements (oneOf [pair, spreadElement, methodDefinition, identifier, reservedWord]),
        "\x7d"]),
  (.pair, seq [propertyName, ":", expression]),
  (.propertyName, oneOf [identifier, reservedWord, privateName, stringLiteral, number,
      computedPropertyName]),
  (.computedPropertyName, seq ["[", expression, "]"]),
  (.arrayLiteral, seq ["[", elements (oneOf [expression, spreadElement]), "]"]),
  (.spreadElement, seq ["...", expression]),
  (.optionalChain, seq ["?."]),
  (.callExpression, oneOf [
      atLevel .call <|
        seq [.role .function (oneOf [expression, importWord]), maybe typeArguments,
          .role .arguments argumentList],
      atLevel .templateCall <|
        seq [.role .function (oneOf [primaryExpression, newExpression]),
          .role .arguments templateString],
      atLevel .member <|
        seq [.role .function primaryExpression, "?.", maybe typeArguments,
          .role .arguments argumentList]]),
  (.argumentList, seq ["(", elements (oneOf [expression, spreadElement]), ")"]),
  (.newExpression, rightward <|
      atLevel .new (seq ["new", primaryExpression, maybe typeArguments, maybe argumentList])),
  (.memberExpression, atLevel .member <|
      seq [.role .object (oneOf [expression, primaryExpression, importWord]),
        oneOf [".", optionalChain],
        .role .property (oneOf [privateName, .kind .propertyIdentifier identifier])]),
  (.subscriptExpression, rightward <|
      atLevel .member <|
        seq [oneOf [expression, primaryExpression], maybe optionalChain, "[", expressions, "]"]),
  (.nonNullExpression, leftward (atLevel .unary (seq [expression, "!"]))),
  (.assignmentExpression, rightward <|
      atLevel .assign <|
        seq [maybe "using", .role .left (oneOf [parenthesizedExpression, leftSide]), "=",
          .role .right expression]),
  (.updateTarget, oneOf [memberExpression, subscriptExpression, reservedWord, identifier,
      parenthesizedExpression, nonNullExpression]),
  (.updateAssignment, rightward <|
      atLevel .assign <|
        seq [updateTarget,
          oneOf ["+=", "-=", "*=", "/=", "%=", "^=", "&=", "|=", ">>=", ">>>=", "<<=", "**=",
            "&&=", "||=", "??="], expression]),
  (.initializer, seq ["=", .role .value expression]),
  (.ternaryExpression, rightward <|
      atLevel .ternary (seq [expression, Mark.conditional, expression, ":", expression])),
  (.binaryExpression, oneOf [leftward (atLevel .logicalAnd (seq [expression, "&&", expression])),
      leftward (atLevel .logicalOr (seq [expression, "||", expression])),
      leftward (atLevel .shift (seq [expression, ">>", expression])),
      leftward (atLevel .shift (seq [expression, ">>>", expression])),
      leftward (atLevel .shift (seq [expression, "<<", expression])),
      leftward (atLevel .bitwiseAnd (seq [expression, "&", expression])),
      leftward (atLevel .bitwiseXor (seq [expression, "^", expression])),
      leftward (atLevel .bitwiseOr (seq [expression, "|", expression])),
      leftward (atLevel .plus (seq [expression, "+", expression])),
      leftward (atLevel .plus (seq [expression, "-", expression])),
      leftward (atLevel .times (seq [expression, "*", expression])),
      leftward (atLevel .times (seq [expression, "/", expression])),
      leftward (atLevel .times (seq [expression, "%", expression])),
      rightward (atLevel .power (seq [expression, "**", expression])),
      leftward (atLevel .relation (seq [expression, "<", expression])),
      leftward (atLevel .relation (seq [expression, "<=", expression])),
      leftward (atLevel .equality (seq [expression, "==", expression])),
      leftward (atLevel .equality (seq [expression, "===", expression])),
      leftward (atLevel .equality (seq [expression, "!=", expression])),
      leftward (atLevel .equality (seq [expression, "!==", expression])),
      leftward (atLevel .relation (seq [expression, ">=", expression])),
      leftward (atLevel .relation (seq [expression, ">", expression])),
      leftward (atLevel .ternary (seq [expression, "??", expression])),
      leftward (atLevel .relation (seq [expression, "instanceof", expression])),
      leftward (atLevel .relation (seq [oneOf [expression, privateName], "in", expression]))]),
  (.unaryExpression, leftward <|
      atLevel .unaryVoid <|
        seq [oneOf ["!", "~", "-", "+", "typeof", "void", "delete"], expression]),
  (.updateExpression, leftward <|
      oneOf [seq [expression, oneOf ["++", "--"]], seq [oneOf ["++", "--"], expression]]),
  (.asExpression, leftward (atLevel .binary (seq [expression, "as", oneOf ["const", anyType]]))),
  (.satisfiesExpression, leftward (atLevel .binary (seq [expression, "satisfies", anyType]))),
  (.instantiationExpression, atLevel .instantiation (seq [expression, typeArguments])),
  (.stringLiteral, oneOf [seq ["\"", many (oneOf [Lexeme.doubleText, Lexeme.escape]), "\""],
      seq ["'", many (oneOf [Lexeme.singleText, Lexeme.escape]), "'"]]),
  (.templateString, seq ["`",
      many (oneOf [Mark.templateText, Lexeme.escape, templateSubstitution]), "`"]),
  (.templateSubstitution, seq ["$\x7b", expressions, "\x7d"]),
  (.regex, seq ["/", Lexeme.regexPattern, Lexeme.regexEnd, maybe Lexeme.regexFlags]),
  (.metaProperty, oneOf [seq ["new", ".", "target"], seq ["import", ".", "meta"]])]

end Nameplate.Tsx.Grammar
