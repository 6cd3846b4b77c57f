/-!
# String literals

`escape` writes a text between quotes of one of the three kinds: a backslash, a line feed and the
quote itself are escaped, and in a template also a dollar sign before a brace.
-/

namespace Nameplate.Naming

/-- A text as it stands between two quotes. -/
def escape (quote : Char) : List Char → List Char
  | [] => []
  | c :: text =>
    if c = '\\' then '\\' :: '\\' :: escape quote text
    else if c = '\n' then '\\' :: 'n' :: escape quote text
    else if c = '$' ∧ quote = '`' ∧ text.head? = some '\x7b' then
      '\\' :: '$' :: escape quote text
    else if c = quote then '\\' :: c :: escape quote text
    else c :: escape quote text

/-- A text between two quotes, as a string. -/
def escapeString (quote : Char) (text : String) : String :=
  String.ofList (escape quote text.toList)

end Nameplate.Naming
