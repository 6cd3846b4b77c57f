import Nameplate.Tsx.Grammar.Class
import Nameplate.Tsx.Grammar.Expression
import Nameplate.Tsx.Grammar.Function
import Nameplate.Tsx.Grammar.Jsx
import Nameplate.Tsx.Grammar.Module
import Nameplate.Tsx.Grammar.Rank
import Nameplate.Tsx.Grammar.Statement
import Nameplate.Tsx.Grammar.Type

/-!
# The grammar of a file

All rules together, and the lists of ranks that say which reading of a text holds together more
strongly.
-/

namespace Nameplate.Tsx.Grammar

/-- How each phrase is written. -/
def rules : List (Phrase × Rule) :=
  statementRules ++ moduleRules ++ expressionRules ++ functionRules ++ classRules ++ typeRules ++
    jsxRules

open Rank in
/-- The ranks, the strongest first in each list. The first list orders the operators. -/
def ranks : List (List Rank) := [
  [level .member, level .templateCall, level .call, phrase .updateExpression, level .unaryVoid,
    level .power, level .times, level .plus, level .shift, level .relation, level .equality,
    level .bitwiseAnd, level .bitwiseXor, level .bitwiseOr, level .logicalAnd, level .logicalOr,
    level .ternary, phrase .sequenceExpression, phrase .arrowFunction],
  [level .member, level .templateCall, level .new, level .call, phrase .expression],
  [level .declare, level .literal],
  [phrase .primaryExpression, phrase .statementBlock, level .objectLiteral],
  [phrase .metaProperty, phrase .importWord],
  [phrase .exportStatement, phrase .primaryExpression],
  [phrase .lexicalDeclaration, phrase .primaryExpression],
  [level .call, level .instantiation, level .unary, level .binary, phrase .awaitExpression,
    phrase .arrowFunction],
  [level .heritage, level .instantiation],
  [phrase .intersectionType, phrase .unionType, phrase .conditionalType, phrase .functionType,
    level .binary, phrase .typePredicate, phrase .readonlyType],
  [phrase .mappedTypeClause, phrase .primaryExpression],
  [phrase .accessibilityModifier, phrase .primaryExpression],
  [level .declare, phrase .expression],
  [phrase .predefinedType, phrase .unaryExpression],
  [phrase .anyType, phrase .flowMaybeType],
  [phrase .readonlyType, phrase .bindingPattern],
  [phrase .readonlyType, phrase .primaryExpression],
  [phrase .typeQuery, phrase .queriedElement],
  [phrase .nestedTypeIdentifier, phrase .genericType, phrase .primaryType, phrase .lookupType,
    phrase .indexTypeQuery, phrase .anyType],
  [phrase .asExpression, phrase .satisfiesExpression, phrase .primaryType],
  [phrase .memberExpression, phrase .importedMember],
  [phrase .queriedMember, phrase .primaryExpression],
  [phrase .queriedCall, phrase .primaryExpression],
  [phrase .queriedInstance, phrase .primaryExpression],
  [phrase .typeQuery, phrase .primaryExpression],
  [phrase .overrideModifier, phrase .primaryExpression],
  [phrase .decoratorCall, phrase .decorator],
  [phrase .literalType, phrase .bindingPattern],
  [phrase .predefinedType, phrase .bindingPattern],
  [phrase .callExpression, phrase .queriedCall],
  [phrase .callExpression, phrase .importedCall],
  [phrase .newExpression, phrase .primaryExpression],
  [phrase .metaProperty, phrase .primaryExpression],
  [phrase .constructSignature, phrase .propertyName]]

end Nameplate.Tsx.Grammar
