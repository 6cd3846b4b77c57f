import Nameplate.Tsx.Grammar.Word

/-!
# Tags

Elements: tags, attributes and what stands between tags. The names of an opening and a closing tag
need not agree.
-/

namespace Nameplate.Tsx.Grammar

open Phrase Rule

/-- An element, with or without a closing tag. -/
def jsxNode : Rule := oneOf [jsxElement, jsxSelfClosingElement]

/-- What may stand between two tags. -/
def jsxChild : Rule := oneOf [Mark.jsxText, Lexeme.characterReference, jsxNode, jsxExpression]

/-- A name in a tag, with or without hyphens. -/
def jsxName : Rule := oneOf [Lexeme.hyphenated, identifier]

/-- A tag up to its closing mark: nothing, or a name with attributes. -/
def jsxTagStart : Rule :=
  seq ["<",
    maybe <|
      seq [
        oneOf [Lexeme.hyphenated, jsxNamespaceName,
          seq [oneOf [identifier, nestedIdentifier], maybe typeArguments]],
        many (oneOf [jsxAttribute, jsxExpression])]]

/-- How elements are written. -/
def jsxRules : List (Phrase × Rule) := [
  (.jsxElement, seq [jsxOpeningElement, many jsxChild, jsxClosingElement]),
  (.jsxExpression, seq ["\x7b", maybe (oneOf [expression, sequenceExpression, spreadElement]),
      "\x7d"]),
  (.jsxOpeningElement, .weight (-1) (seq [jsxTagStart, ">"])),
  (.jsxClosingElement, seq ["</", maybe (oneOf [jsxName, nestedIdentifier, jsxNamespaceName]),
      ">"]),
  (.jsxSelfClosingElement, .weight (-1) (seq [jsxTagStart, "/>"])),
  (.jsxNamespaceName, seq [jsxName, ":", jsxName]),
  (.jsxAttribute, seq [oneOf [jsxName, jsxNamespaceName],
      maybe (seq ["=", oneOf [jsxString, jsxExpression, jsxNode]])]),
  (.jsxString, oneOf [
      seq ["\"", many (oneOf [Lexeme.doubleJsxText, Lexeme.characterReference]), "\""],
      seq ["'", many (oneOf [Lexeme.singleJsxText, Lexeme.characterReference]), "'"]])]

end Nameplate.Tsx.Grammar
