import Nameplate.Uri.Percent

/-!
# Paths of URIs

The path of a URI is written segment by segment. Segments that stand for the current directory or
for the one above are resolved on the way, and drives of a file system are never left.

* `Scheme`: how the rest of a URI depends on its scheme;
* `Path.extend`: writes the segments of a text behind a path.
-/

namespace Nameplate.Uri

/-- How a scheme is parsed. -/
inductive Scheme where
  | file
  /-- A scheme of the web, with the port it uses by default. -/
  | web (port : Nat)
  | other
deriving DecidableEq, Repr

def schemeOf : String → Scheme
  | "file" => .file
  | "http" => .web 80
  | "https" => .web 443
  | "ws" => .web 80
  | "wss" => .web 443
  | "ftp" => .web 21
  | _ => .other

namespace Scheme

/-- In the schemes of files and the web a backslash is a slash. -/
def isSlash (k : Scheme) (c : Char) : Bool :=
  c == '/' || (c == '\\' && k != .other)

/-- The characters that end a host. -/
def endsHost (k : Scheme) (c : Char) : Bool := k.isSlash c || c == '?' || c == '#'

end Scheme

/-! ## Segments -/

/-- Segments that stand for the current directory. -/
def isDot (segment : List Char) : Bool :=
  [".", "%2e"].contains (String.ofList (segment.map Char.toLower))

/-- Segments that stand for the directory above. -/
def isDoubleDot (segment : List Char) : Bool :=
  ["..", ".%2e", "%2e.", "%2e%2e"].contains (String.ofList (segment.map Char.toLower))

/-- A letter and a colon name a drive; a vertical bar may stand for the colon. -/
def isDrive (segment : List Char) : Bool :=
  match segment with
  | [a, b] => a.isAlpha && (b == ':' || b == '|')
  | _ => false

/-- A path starts with the name of a drive, which is its first segment. -/
def startsWithDrive (path : List Char) : Bool :=
  match path with
  | '/' :: a :: b :: rest =>
    isDrive [a, b] && rest.head?.all fun c => c == '/' || c == '\\' || c == '?' || c == '#'
  | _ => false

/-! ## Writing -/

/-- A path that is being written. -/
structure Path where
  text : List Char
  /-- The path starts with a drive, so it belongs to this machine. -/
  hasDrive : Bool := false

namespace Path

/-- The part of a text from its last slash on. -/
def lastSegment (text : List Char) : List Char :=
  let name := (text.reverse.takeWhile (· != '/')).reverse
  if name.length < text.length then '/' :: name else []

/-- A path without its last segment; the slash before it stays, and so does the name of a drive. -/
def withoutLast (k : Scheme) (text : List Char) : List Char :=
  match lastSegment text with
  | [] => text
  | _ :: name =>
    if k == .file && isDrive name && name.getLast? == some ':' then text
    else text.take (text.length - name.length)

/-- The directory above one that ends with a slash. -/
def parent (k : Scheme) (text : List Char) : List Char :=
  let inner := text.dropLast
  let above := lastSegment inner
  let shut := above.isEmpty || startsWithDrive (above ++ ['/'])
  withoutLast k (if text.getLast? == some '/' && !shut then inner else text)

/-- A text that ends with a slash. -/
def closed (text : List Char) : List Char :=
  if text.getLast? == some '/' then text else text ++ ['/']

/-- Writes a segment behind a path; `slash` tells whether a slash follows. The name of a drive that
comes first in the path of a file is written with a colon. -/
def push (k : Scheme) (p : Path) (segment : List Char) (slash : Bool) : Path :=
  let written := encode inPath segment
  let tail := if slash then ['/'] else []
  if isDoubleDot written then
    let above := parent k p.text
    { p with text := if slash then closed above else above }
  else if isDot written then { p with text := closed p.text }
  else if k == .file && p.text.length == 1 && isDrive written then
    { text := p.text ++ written.take 1 ++ [':'] ++ tail, hasDrive := true }
  else { p with text := p.text ++ written ++ tail }

/-- Writes the segments of a text behind a path; `segment` is the one that is being read, its last
character first. Gives what follows the path: a query or a fragment. -/
def extend (k : Scheme) (p : Path) (segment : List Char) : List Char → Path × List Char
  | [] => (p.push k segment.reverse false, [])
  | c :: rest =>
    if k.isSlash c then extend k (p.push k segment.reverse true) [] rest
    else if c == '?' || c == '#' then (p.push k segment.reverse false, c :: rest)
    else extend k p (c :: segment) rest

/-- The path that is written by a text behind the start of a path. Before the path of a file there
is one slash only. -/
def ofText (k : Scheme) (start text : List Char) : Path × List Char :=
  let (p, rest) := extend k { text := start } [] text
  if k == .file then ({ p with text := '/' :: p.text.dropWhile (· == '/') }, rest) else (p, rest)

end Path

end Nameplate.Uri
