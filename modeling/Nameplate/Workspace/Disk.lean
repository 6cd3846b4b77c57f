import Nameplate.Text.Bytes
import Nameplate.Uri.Basic

/-!
# Files and directories

A disk is a directory with files and directories in it, each under a name. Paths are lists of
names. There are no links to other entries, and names are texts: an entry whose name is not UTF-8 is
left out.

* `Entry.lookup`: what a path leads to;
* `Entry.write`: a file with the directories it needs;
* `pathOf?`: the path a URI stands for.
-/

namespace Nameplate.Workspace

/-- A file with its bytes, or a directory. -/
inductive Entry where
  | file (content : List UInt8)
  | directory (entries : List (String × Entry))
deriving Repr, Inhabited

namespace Entry

/-- The entries of a directory; a file has none. -/
def entries : Entry → List (String × Entry)
  | directory es => es
  | file _ => []

/-- The entry with a name. -/
def child? (e : Entry) (name : String) : Option Entry :=
  (e.entries.find? fun c => c.1 == name).map Prod.snd

/-- The entry a path leads to. -/
def lookup (e : Entry) : List String → Option Entry
  | [] => some e
  | name :: path => (e.child? name).bind fun c => c.lookup path

/-- The bytes of the file a path leads to. -/
def read? (e : Entry) (path : List String) : Option (List UInt8) :=
  match e.lookup path with
  | some (file content) => some content
  | _ => none

/-- A directory with an entry under a name, in the place of one that was there. -/
def put (e : Entry) (name : String) (c : Entry) : Entry :=
  directory ((name, c) :: e.entries.filter fun d => d.1 != name)

/-- A directory with an entry at the end of a path, in directories that are made if they are
missing. -/
def write (e : Entry) : List String → Entry → Entry
  | [], c => c
  | name :: path, c =>
    e.put name (write ((e.child? name).getD (directory [])) path c)

/-- The entry with a directory at the end of a path, which may be there already. -/
def makeDirectory (e : Entry) (path : List String) : Entry :=
  e.write path (directory ((e.lookup path).map entries |>.getD []))

end Entry

/-- The path of the local file a URI stands for; empty names do not count, and a name that is no
text leads nowhere. -/
def pathOf? (u : Uri) : Option (List String) :=
  u.fileComponents?.map fun components =>
    (components.filter (· != [])).map fun bytes => (Text.ofBytes? bytes).getD ""

end Nameplate.Workspace
