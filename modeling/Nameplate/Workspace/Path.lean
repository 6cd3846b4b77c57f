import Nameplate.Text.Split

/-!
# Paths

A path is a text whose components stand between slashes. Empty components and single dots do not
count.
-/

namespace Nameplate.Workspace

open Text (splitOn)

/-- The components of a path. -/
def componentsOf (path : List Char) : List (List Char) :=
  (splitOn '/' path).filter fun c => c != [] && c != ['.']

/-- The name of the file or directory a path leads to; there is none behind two dots. -/
def fileName? (path : List Char) : Option (List Char) :=
  match (componentsOf path).getLast? with
  | some name => if name == ['.', '.'] then none else some name
  | none => none

/-- What stands behind the last dot of a name, if something stands before it. -/
def extension? (name : List Char) : Option (List Char) :=
  let back := name.reverse
  match back.dropWhile (· != '.') with
  | _ :: _ :: _ => some (back.takeWhile (· != '.')).reverse
  | _ => none

/-- Whether a path leads to a TSX file, by its extension in letters of any case. -/
def isTsxPath (path : String) : Bool :=
  match (fileName? path.toList).bind extension? with
  | some e => e.map Char.toLower == ['t', 's', 'x']
  | none => false

end Nameplate.Workspace
