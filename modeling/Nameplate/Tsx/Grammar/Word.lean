import Nameplate.Tsx.Grammar.Rule

/-!
# Parts that many rules share

Names, the words that are names although they have another meaning elsewhere, the end of a
statement, and what may stand on the left of an assignment.
-/

namespace Nameplate.Tsx.Grammar

open Phrase Rule

def identifier : Rule := Lexeme.identifier

def number : Rule := Lexeme.number

def privateName : Rule := Lexeme.privateName

/-- Words that are names where their other meaning is not expected. -/
def reservedWord : Rule :=
  oneOf ["declare", "namespace", "type", "public", "private", "protected", "override",
    "readonly", "module", "any", "number", "boolean", "string", "symbol", "object", "new", "get",
    "set", "async", "static", "export", "let"]

/-- A name as a value. -/
def plainName : Rule := oneOf ["undefined", identifier]

/-- A semicolon, written or inserted. -/
def semicolon : Rule := oneOf [Mark.semicolon, ";"]

/-- One expression, or several with commas between them. -/
def expressions : Rule := oneOf [expression, sequenceExpression]

/-- What a value may be assigned to. -/
def leftSide : Rule :=
  oneOf [memberExpression, subscriptExpression, plainName, reservedWord, destructuringPattern,
    nonNullExpression]

end Nameplate.Tsx.Grammar
