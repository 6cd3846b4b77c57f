import Nameplate.Tsx.Grammar.Word

/-!
# Statements

The program and its statements. A statement ends with a semicolon, written or inserted; a block
may be followed by an inserted one.
-/

namespace Nameplate.Tsx.Grammar

open Phrase Rule

/-- How the program and its statements are written. -/
def statementRules : List (Phrase × Rule) := [
  (.program, seq [maybe Lexeme.hashBangLine, many statement]),
  (.statement, oneOf [exportStatement, importStatement, debuggerStatement, expressionStatement,
      declaration, statementBlock, ifStatement, switchStatement, forStatement, forInStatement,
      whileStatement, doStatement, tryStatement, withStatement, breakStatement, continueStatement,
      returnStatement, throwStatement, emptyStatement, labeledStatement]),
  (.expressionStatement, seq [expressions, semicolon]),
  (.variableDeclaration, seq ["var", commaSeparated variableDeclarator, semicolon]),
  (.lexicalDeclaration, seq [oneOf ["let", "const"], commaSeparated variableDeclarator,
      semicolon]),
  (.variableDeclarator, oneOf [
      seq [.role .name (oneOf [identifier, destructuringPattern]), maybe typeSuffix,
        maybe initializer], atLevel .declare (seq [.role .name identifier, "!", typeSuffix])]),
  (.statementBlock, rightward (seq ["\x7b", many statement, "\x7d", maybe Mark.semicolon])),
  (.elseClause, seq ["else", statement]),
  (.ifStatement, rightward (seq ["if", parenthesizedExpression, statement, maybe elseClause])),
  (.switchStatement, seq ["switch", parenthesizedExpression, switchBody]),
  (.switchBody, seq ["\x7b", many (oneOf [switchCase, switchDefault]), "\x7d"]),
  (.switchCase, seq ["case", expressions, ":", many statement]),
  (.switchDefault, seq ["default", ":", many statement]),
  (.forStatement, seq ["for", "(",
      oneOf [lexicalDeclaration, variableDeclaration, seq [expressions, ";"], emptyStatement],
      oneOf [seq [expressions, ";"], emptyStatement], maybe expressions, ")", statement]),
  (.forInStatement, seq ["for", maybe "await", forHeader, statement]),
  (.forHeader, seq ["(",
      oneOf [leftSide, parenthesizedExpression,
        seq ["var", oneOf [identifier, destructuringPattern], maybe initializer],
        seq [oneOf ["let", "const"], oneOf [identifier, destructuringPattern],
          maybe Mark.semicolon]], oneOf ["in", "of"], expressions, ")"]),
  (.whileStatement, seq ["while", parenthesizedExpression, statement]),
  (.doStatement, rightward <|
      seq ["do", statement, "while", parenthesizedExpression, maybe semicolon]),
  (.tryStatement, seq ["try", statementBlock, maybe catchClause, maybe finallyClause]),
  (.catchClause, seq ["catch",
      maybe (seq ["(", oneOf [identifier, destructuringPattern], maybe typeSuffix, ")"]),
      statementBlock]),
  (.finallyClause, seq ["finally", statementBlock]),
  (.withStatement, seq ["with", parenthesizedExpression, statement]),
  (.breakStatement, seq ["break", maybe identifier, semicolon]),
  (.continueStatement, seq ["continue", maybe identifier, semicolon]),
  (.debuggerStatement, seq ["debugger", semicolon]),
  (.returnStatement, seq ["return", maybe expressions, semicolon]),
  (.throwStatement, seq ["throw", expressions, semicolon]),
  (.emptyStatement, ";"),
  (.labeledStatement, .weight (-1) (seq [oneOf [identifier, reservedWord], ":", statement]))]

end Nameplate.Tsx.Grammar
