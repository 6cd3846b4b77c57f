import Nameplate.Uri.Host
import Nameplate.Uri.Path

/-!
# URIs

A `Uri` is kept in its normal form: scheme in lower case, dots in the path resolved, characters
that may not stand in a part encoded. `parse` reads a text, `Uri.text` writes it.

* `parse`: the normal form of a text, or why it has none;
* `ofComponents`, `fileComponents?`: between the paths of files and their URIs.
-/

namespace Nameplate

/-- A URI in normal form. -/
structure Uri where
  scheme : String
  /-- User, host and port, if the URI has a place for them. -/
  authority : Option String
  path : String
  query : Option String := none
  fragment : Option String := none
deriving DecidableEq, Repr, Inhabited, Hashable

namespace Uri

/-- The URI as a text. A path that would look like an authority has a dot before it. -/
def text (u : Uri) : String :=
  let dotted := u.authority.isNone && "//".isPrefixOf u.path
  u.scheme ++ ":" ++ (u.authority.map ("//" ++ ·)).getD "" ++ (if dotted then "/." else "") ++
    u.path ++ (u.query.map ("?" ++ ·)).getD "" ++ (u.fragment.map ("#" ++ ·)).getD ""

/-! ## Parts -/

/-- Splits a text at the first character of a class; the character stays with the rest. -/
def breakAt (p : Char → Bool) (text : List Char) : List Char × List Char :=
  (text.takeWhile (!p ·), text.dropWhile (!p ·))

/-- Query and fragment of the rest of a URI. -/
def withTail (k : Scheme) (u : Uri) (rest : List Char) : Uri :=
  let (before, hash) := breakAt (· == '#') rest
  let fragment := match hash with
    | _ :: f => some (String.ofList (encode inFragment f))
    | [] => none
  let query := match before with
    | '?' :: q => some (String.ofList (encode (if k == .other then inQuery else inWebQuery) q))
    | _ => none
  { u with query, fragment }

/-- User name and password as they are written. -/
def userText (user : List Char) : List Char :=
  let (name, rest) := breakAt (· == ':') user
  let password := rest.drop 1
  if name.isEmpty && password.isEmpty then []
  else encode inUserInfo name ++
    (if password.isEmpty then [] else ':' :: encode inUserInfo password) ++ ['@']

/-- The user before the last `@` of an authority, as it is written, and what follows it. Behind an
`@` that no user stands before, the authority goes on. -/
def parseUser (k : Scheme) (text : List Char) : Except Error (List Char × List Char) :=
  let authority := (breakAt k.endsHost text).1
  if authority.contains '@' then
    let host := (authority.reverse.takeWhile (· != '@')).reverse
    let user := authority.take (authority.length - host.length - 1)
    let rest := text.drop (user.length + 1)
    if user.isEmpty && rest.head?.any k.endsHost then .error .emptyHost
    else .ok (userText user, rest)
  else .ok ([], text)

/-- Splits a host from what follows it; a colon in brackets belongs to the host. -/
def splitHost (k : Scheme) (inBrackets : Bool) : List Char → List Char × List Char
  | [] => ([], [])
  | c :: rest =>
    if k.endsHost c || (c == ':' && !inBrackets) then ([], c :: rest)
    else
      let inside := if c == '[' then true else if c == ']' then false else inBrackets
      let (host, rest) := splitHost k inside rest
      (c :: host, rest)

/-- A host as it is written; only a scheme that is not of the web may have none. -/
def parseHost (k : Scheme) (host : List Char) : Except Error (List Char) :=
  if k == .other then opaqueHost host
  else if host.isEmpty then .error .emptyHost
  else webHost host

/-- The port behind a colon, if there is one, and what follows it. The default port is left out. -/
def parsePort (k : Scheme) : List Char → Except Error (Option Nat × List Char)
  | ':' :: rest =>
    let (digits, rest) := breakAt (fun c => !c.isDigit) rest
    let n := (numberIn 10 digits).getD 0
    if 65535 < n || !(rest.head?.all (Scheme.endsHost .file)) then .error .port
    else .ok (if digits.isEmpty || Scheme.web n == k then none else some n, rest)
  | rest => .ok (none, rest)

/-- The path behind an authority, and what follows it. In the schemes of the web there always is
one. -/
def pathBehind (k : Scheme) (rest : List Char) : Path × List Char :=
  let rooted := rest.head?.any k.isSlash
  if k != .other then Path.ofText k ['/'] (if rooted then rest.drop 1 else rest)
  else if rest.isEmpty || rooted || rest.head?.any k.endsHost then Path.ofText k [] rest
  else Path.ofText k ['/'] rest

/-! ## Parsing -/

/-- A URI behind the two slashes that start its authority. -/
def parseAuthority (k : Scheme) (scheme : String) (text : List Char) : Except Error Uri := do
  let (user, rest) ← parseUser k text
  let (host, rest) := splitHost k false rest
  let host ← parseHost k host
  if host.isEmpty && (!user.isEmpty || rest.head? == some ':') then throw .emptyHost
  let (port, rest) ← parsePort k rest
  let (path, rest) := pathBehind k rest
  let port := (port.map fun n => ':' :: (toString n).toList).getD []
  let authority := String.ofList (user ++ host ++ port)
  pure (withTail k { scheme, authority := some authority, path := String.ofList path.text } rest)

/-- The host of a file URI; `localhost` is left out. -/
def fileHost (host : List Char) : Except Error (List Char) :=
  if host.isEmpty then .ok []
  else do
    let host ← webHost host
    pure (if host == "localhost".toList then [] else host)

/-- A file URI with a host and a path; a path with a drive has no host. -/
def fileUri (host : List Char) (path : Path) (rest : List Char) : Uri :=
  withTail .file
    { scheme := "file"
      authority := some (if path.hasDrive then "" else String.ofList host)
      path := String.ofList path.text } rest

/-- A file URI behind its scheme. The name of a drive is no host. -/
def parseFile (rest : List Char) : Except Error Uri := do
  let slash := Scheme.isSlash .file
  let here (start text : List Char) : Uri :=
    let (path, rest) := Path.ofText .file start text
    fileUri [] path rest
  match rest with
  | a :: b :: more =>
    if slash a && slash b then
      let (host, behind) := breakAt (Scheme.endsHost .file) more
      if isDrive host then pure (here ['/'] more)
      else
        let host ← fileHost host
        let (path, rest) :=
          if host.isEmpty then Path.ofText .file [] behind else pathBehind .file behind
        pure (fileUri host path rest)
    else pure (here (if slash a then [] else ['/']) rest)
  | _ => pure (here (if rest.head?.any slash then [] else ['/']) rest)

/-- Any other URI behind its scheme: with an authority, with a path from the root, or with a text
that is no path. -/
def parseOther (scheme : String) (rest : List Char) : Except Error Uri :=
  match rest with
  | '/' :: '/' :: more => parseAuthority .other scheme more
  | '/' :: more =>
    let (path, rest) := Path.ofText .other ['/'] more
    .ok (withTail .other { scheme, authority := none, path := String.ofList path.text } rest)
  | _ =>
    let (path, tail) := breakAt (fun c => c == '?' || c == '#') rest
    let path := String.ofList (encode inControls path)
    .ok (withTail .other { scheme, authority := none, path } tail)

/-- Characters of a scheme behind its first letter. -/
def isSchemeChar (c : Char) : Bool := c.isAlphanum || c == '+' || c == '-' || c == '.'

/-- The URI a text writes. Control characters and spaces around it and tabs and line ends in it do
not count. -/
def parse (text : String) : Except Error Uri :=
  let outer (c : Char) : Bool := c ≤ ' '
  let trimmed := ((text.toList.dropWhile outer).reverse.dropWhile outer).reverse
  let cleaned := trimmed.filter fun c => c != '\t' && c != '\n' && c != '\r'
  let (scheme, rest) := breakAt (!isSchemeChar ·) cleaned
  match scheme, rest with
  | first :: _, ':' :: rest =>
    if first.isAlpha then
      let scheme := String.ofList (scheme.map Char.toLower)
      match schemeOf scheme with
      | .file => parseFile rest
      | .web port =>
        parseAuthority (.web port) scheme (rest.dropWhile (Scheme.isSlash (.web port)))
      | .other => parseOther scheme rest
    else .error .relative
  | _, _ => .error .relative

/-! ## Files -/

/-- The URI of the file with some path components. -/
def ofComponents (components : List String) : Uri where
  scheme := "file"
  authority := some ""
  path :=
    if components.isEmpty then "/"
    else String.ofList (components.flatMap fun c => '/' :: encode inSegment c.toList)

/-- The host of an authority, without user and port. -/
def hostOf (authority : String) : List Char :=
  let host := (authority.toList.reverse.takeWhile (· != '@')).reverse
  (splitHost .other false host).1

/-- Whether a URI leads to this machine. -/
def isLocal (u : Uri) : Bool :=
  match u.authority with
  | none => true
  | some a => hostOf a == [] || hostOf a == "localhost".toList

/-- The path components of the local file a URI stands for, as bytes. An encoded slash divides
components like a plain one. -/
def fileComponents? (u : Uri) : Option (List (List UInt8)) :=
  if u.isLocal && u.path.toList.head? == some '/' then
    some (splitBytes (decode (u.path.toList.drop 1)))
  else none
where
  /-- Splits bytes at the slashes. -/
  splitBytes (bytes : List UInt8) : List (List UInt8) :=
    bytes.foldr
      (fun b parts =>
        if b == 0x2F then [] :: parts
        else match parts with
          | part :: rest => (b :: part) :: rest
          | [] => [[b]])
      [[]]

end Uri

end Nameplate
