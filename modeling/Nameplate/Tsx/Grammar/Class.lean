import Nameplate.Tsx.Grammar.Word

/-!
# Classes

Classes, their members and decorators.
-/

namespace Nameplate.Tsx.Grammar

open Phrase Rule

/-- How classes and their members are written. -/
def classRules : List (Phrase × Rule) := [
  (.classExpression, atLevel .literal <|
      seq [many decorator, "class", maybe identifier, maybe typeParameters, maybe classHeritage,
        classBody]),
  (.classDeclaration, leftward <|
      atLevel .declare <|
        seq [many decorator, "class", identifier, maybe typeParameters, maybe classHeritage,
          classBody, maybe Mark.semicolon]),
  (.abstractClassDeclaration, atLevel .declare <|
      seq [many decorator, "abstract", "class", identifier, maybe typeParameters,
        maybe classHeritage, classBody]),
  (.classHeritage, oneOf [seq [extendsClause, maybe implementsClause], implementsClause]),
  (.extendsClause, seq ["extends", commaSeparated extendedClass]),
  (.extendedClass, atLevel .heritage (seq [expression, maybe typeArguments])),
  (.implementsClause, seq ["implements", commaSeparated anyType]),
  (.classBody, seq ["\x7b",
      many <|
        oneOf [seq [many decorator, methodDefinition, maybe semicolon],
          seq [methodSignature, Mark.signatureEnd], classStaticBlock,
          seq [
            oneOf [abstractMethodSignature, indexSignature, methodSignature,
              publicFieldDefinition], oneOf [semicolon, ","]], ";"], "\x7d"]),
  (.classStaticBlock, seq ["static", maybe Mark.semicolon, statementBlock]),
  (.methodDefinition, leftward <|
      seq [maybe accessibilityModifier, maybe "static", maybe overrideModifier, maybe "readonly",
        maybe "async", maybe (oneOf ["get", "set", "*"]), propertyName, maybe "?", signature,
        statementBlock]),
  (.methodSignature, seq [maybe accessibilityModifier, maybe "static", maybe overrideModifier,
      maybe "readonly", maybe "async", maybe (oneOf ["get", "set", "*"]), propertyName, maybe "?",
      signature]),
  (.abstractMethodSignature, seq [maybe accessibilityModifier, "abstract",
      maybe overrideModifier, maybe (oneOf ["get", "set", "*"]), propertyName, maybe "?",
      signature]),
  (.publicFieldDefinition, seq [many decorator,
      maybe <|
        oneOf [seq ["declare", maybe accessibilityModifier],
          seq [accessibilityModifier, maybe "declare"]],
      oneOf [seq [maybe "static", maybe overrideModifier, maybe "readonly"],
        seq ["abstract", maybe "readonly"], seq ["readonly", "abstract"], "accessor"],
      propertyName, maybe (oneOf ["?", "!"]), maybe typeSuffix, maybe initializer]),
  (.accessibilityModifier, oneOf ["public", "private", "protected"]),
  (.overrideModifier, "override"),
  (.decorator, seq ["@",
      oneOf [identifier, decoratorMember, decoratorCall, decoratorParenthesized]]),
  (.decoratorMember, atLevel .member (seq [oneOf [identifier, decoratorMember], ".", identifier])),
  (.decoratorCall, atLevel .call <|
      seq [oneOf [identifier, decoratorMember], maybe typeArguments, argumentList]),
  (.decoratorParenthesized, seq ["(", oneOf [identifier, decoratorMember, decoratorCall], ")"])]

end Nameplate.Tsx.Grammar
