import Nameplate.Json.Value
import Nameplate.Text.Quoted
import Nameplate.Uri.Basic

/-!
# Values that are not what was expected

`Mismatch` says why a value cannot be read as something, and `Mismatch.message` says it in words.
-/

namespace Nameplate.Json

/-- Why a value cannot be read as something. -/
inductive Mismatch where
  | kind (found : Value) (expected : String)
  | outOfRange (n : Int) (expected : String)
  | missingField (name : String)
  | unknownField (name : String) (expected : List String)
  | unknownVariant (name : String) (expected : List String)
  /-- An array too short for a record of some fields. -/
  | tooShort (found : Nat) (record : String) (fields : Nat)
  /-- An array too long for a record of some fields. -/
  | tooLong (found fields : Nat)
  /-- The same inside of a part that is shared by several records. -/
  | surplus (found fields : Nat)
  /-- A word that is given as an object of none or of several members. -/
  | notSingle
  | uri (error : Uri.Error) (text : String)
  | noVariant (name : String)
deriving Repr

/-- A value in words. -/
def describe : Value → String
  | .null => "null"
  | .bool b => "boolean `" ++ (if b then "true" else "false") ++ "`"
  | .integer n => "integer `" ++ toString n ++ "`"
  | .fractional negative b => "floating point `" ++ (if negative then "-" else "") ++ b.text ++ "`"
  | .string s => "string " ++ Text.quoted s
  | .array _ => "sequence"
  | .object _ | .void => "map"

/-- Names in backquotes: one, two with a word between them, or more behind `one of`. -/
def namesText (names : List String) : String :=
  let shown := names.map fun n => "`" ++ n ++ "`"
  match shown with
  | [a, b] => a ++ " or " ++ b
  | [a] => a
  | _ => "one of " ++ ", ".intercalate shown

/-- A number of elements in words. -/
def elementsText (n : Nat) : String :=
  toString n ++ (if n = 1 then " element" else " elements")

/-- The mismatch in words. -/
def Mismatch.message : Mismatch → String
  | kind found expected => "invalid type: " ++ describe found ++ ", expected " ++ expected
  | outOfRange n expected => "invalid value: integer `" ++ toString n ++ "`, expected " ++ expected
  | missingField name => "missing field `" ++ name ++ "`"
  | unknownField name expected => "unknown field `" ++ name ++ "`, expected " ++ namesText expected
  | unknownVariant name expected =>
    "unknown variant `" ++ name ++ "`, expected " ++ namesText expected
  | tooShort found record fields =>
    "invalid length " ++ toString found ++ ", expected struct " ++ record ++ " with " ++
      elementsText fields
  | tooLong found _ => "invalid length " ++ toString found ++ ", expected fewer elements in array"
  | surplus found fields =>
    "invalid length " ++ toString found ++ ", expected " ++ elementsText fields ++ " in sequence"
  | notSingle => "invalid value: map, expected map with a single key"
  | uri error text => error.message ++ ": " ++ Text.quoted text
  | noVariant name => "data did not match any variant of untagged enum " ++ name

end Nameplate.Json
