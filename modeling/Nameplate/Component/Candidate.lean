import Nameplate.Text.Range

/-!
# Components and their display names

A `Candidate` is a component that was found in a file: how it is declared, where a display name
can be added, which one it has, and what else is assigned to its properties.
-/

namespace Nameplate

open Text (Range)

/-- The property that names a component. -/
def displayNameProperty : String := "displayName"

/-- How a helper that wraps a component is called. -/
inductive WrapperCall where
  /-- `React.forwardRef((props, ref) => …)`. -/
  | namespaced
  /-- `forwardRef((props, ref) => …)`. -/
  | bare
  /-- `forwardRef(function (props, ref) { … })`. -/
  | bareWithFunction
deriving DecidableEq, Repr

/-- How a component is declared. -/
inductive DeclarationForm where
  /-- `const Name = (props) => …` or `const Name = function (props) { … }`. -/
  | arrowConst
  /-- `function Name(props) { … }`. -/
  | functionDeclaration
  /-- `const Name = helper(…)`. -/
  | wrapped (call : WrapperCall)
deriving DecidableEq, Repr

/-- The form in words. -/
def DeclarationForm.describe : DeclarationForm → String
  | arrowConst => "arrow component"
  | functionDeclaration => "function component"
  | wrapped _ => "forwardRef component"

/-- The right side of an assignment to a display name. -/
inductive NameValue where
  /-- A string: the text between the quotes as it is written, its range with the quotes, and the
  quote. -/
  | literal (raw : String) (range : Range) (quote : Char)
  /-- Any other expression. -/
  | computed
deriving DecidableEq, Repr

/-- A statement `Name.displayName = …`. -/
structure ExistingName where
  range : Range
  value : NameValue
deriving DecidableEq, Repr

/-- The text between the quotes, if the name is a string. -/
def ExistingName.literal? (e : ExistingName) : Option String :=
  match e.value with
  | .literal raw _ _ => some raw
  | .computed => none

/-- A statement `Name.property = …` about another property. -/
structure Sibling where
  property : String
  range : Range
deriving DecidableEq, Repr

/-- A component found in a file. -/
structure Candidate where
  name : String
  form : DeclarationForm
  /-- The statement that declares the name, `export` included. -/
  range : Range
  /-- The offset behind the declaration and the comments on its last line. -/
  insertionPoint : Nat
  existing : Option ExistingName
  siblings : List Sibling
deriving DecidableEq, Repr

end Nameplate
