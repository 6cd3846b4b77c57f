import Nameplate.Uri.Basic

/-!
# Documents with components

A document is searched for components if its language says so or its URI ends like that of a TSX
file.
-/

namespace Nameplate

/-- The identifier of the language in which components are written. -/
def tsxLanguage : String := "typescriptreact"

/-- Whether the path of a URI ends like that of a TSX file, in letters of any case. A path has only
ASCII characters. -/
def isTsxUri (u : Uri) : Bool :=
  (u.path.toList.map Char.toLower).reverse.take 4 == ['x', 's', 't', '.']

/-- Whether a document is searched for components. -/
def isTsxDocument (u : Uri) (language : String) : Bool :=
  language == tsxLanguage || isTsxUri u

end Nameplate
