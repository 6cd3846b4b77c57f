import Nameplate.Tsx.Grammar.Word

/-!
# Imports, exports and namespaces

What a file takes from other files and gives to them, and namespaces.
-/

namespace Nameplate.Tsx.Grammar

open Phrase Rule

/-- How imports, exports, declarations for other files and namespaces are written. -/
def moduleRules : List (Phrase × Rule) := [
  (.exportStatement, oneOf [
      seq ["export",
        oneOf [seq ["*", fromClause], seq [namespaceExport, fromClause],
          seq [exportClause, fromClause], exportClause], semicolon],
      seq [many decorator, "export",
        oneOf [.role .declaration declaration,
          seq ["default", oneOf [.role .declaration declaration, seq [expression, semicolon]]]]],
      seq ["export", "type", exportClause, maybe fromClause, semicolon],
      seq ["export", "import", importAlias], seq ["export", "=", expression, semicolon],
      seq ["export", "as", "namespace", identifier, semicolon]]),
  (.namespaceExport, seq ["*", "as", moduleExportName]),
  (.exportClause, seq ["\x7b", maybe (commaSeparated exportSpecifier), maybe ",", "\x7d"]),
  (.exportSpecifier, seq [maybe (oneOf ["type", "typeof"]), moduleExportName,
      maybe (seq ["as", moduleExportName])]),
  (.moduleExportName, oneOf [identifier, stringLiteral]),
  (.declaration, oneOf [functionDeclaration, generatorFunctionDeclaration, classDeclaration,
      lexicalDeclaration, variableDeclaration, functionSignature, abstractClassDeclaration,
      moduleDeclaration, atLevel .declare internalModule, typeAliasDeclaration, enumDeclaration,
      interfaceDeclaration, importAlias, ambientDeclaration]),
  (.importWord, "import"),
  (.importStatement, seq ["import", maybe (oneOf ["type", "typeof"]),
      oneOf [seq [importClause, fromClause], importRequireClause, stringLiteral],
      maybe importAttribute, semicolon]),
  (.importClause, oneOf [namespaceImport, namedImports,
      seq [importIdentifier, maybe (seq [",", oneOf [namespaceImport, namedImports]])]]),
  (.importIdentifier, oneOf [identifier, "type"]),
  (.fromClause, seq ["from", stringLiteral]),
  (.namespaceImport, seq ["*", "as", identifier]),
  (.namedImports, seq ["\x7b", maybe (commaSeparated importSpecifier), maybe ",", "\x7d"]),
  (.importSpecifier, seq [maybe (oneOf ["type", "typeof"]),
      oneOf [importIdentifier, seq [oneOf [moduleExportName, "type"], "as", importIdentifier]]]),
  (.importAttribute, seq [oneOf ["with", "assert"], objectLiteral]),
  (.importRequireClause, seq [identifier, "=", "require", "(", stringLiteral, ")"]),
  (.importAlias, seq ["import", identifier, "=", oneOf [identifier, nestedIdentifier], semicolon]),
  (.ambientDeclaration, seq ["declare",
      oneOf [declaration, seq ["global", statementBlock],
        seq ["module", ".", identifier, ":", anyType, semicolon]]]),
  (.moduleDeclaration, seq ["module", moduleParts]),
  (.internalModule, seq ["namespace", moduleParts]),
  (.moduleParts, rightward <|
      seq [oneOf [stringLiteral, identifier, nestedIdentifier], maybe statementBlock]),
  (.nestedIdentifier, atLevel .member <|
      seq [oneOf [identifier, nestedIdentifier], ".", identifier])]

end Nameplate.Tsx.Grammar
