import Nameplate.Glob.Parse
import Nameplate.Text.Bytes

/-!
# Matching paths

`matchesPath` tells whether a pattern matches the whole of a path. A token is understood by what it
may leave of a path, `Token.rests`; a list of tokens by what is left after all of them, `restsOf`.
Alternatives that can only match the empty text are left out of a group, unless all are. A path
that ends with two dots has no name, so patterns for names and extensions (`asksForName`) do not
match it.
-/

namespace Nameplate.Glob

open Text (bytesOf)

/-- The byte between the components of a path. -/
def slash : UInt8 := 0x2F

/-- The ends of a list, the longest one first. -/
def suffixes {α : Type} : List α → List (List α)
  | [] => [[]]
  | a :: l => (a :: l) :: suffixes l

/-- What is left behind some bytes at the start. -/
def strip : List UInt8 → List UInt8 → Option (List UInt8)
  | [], path => some path
  | b :: bytes, c :: path => if b == c then strip bytes path else none
  | _ :: _, [] => none

/-- What is left behind each slash. -/
def behindSlashes (path : List UInt8) : List (List UInt8) :=
  (suffixes path).filterMap (strip [slash])

/-- The bytes of a range of characters: the bytes of its ends, and those between the last byte of
the first end and the first byte of the other. -/
def inRange (b : UInt8) (range : Char × Char) : Bool :=
  let lo := String.utf8EncodeChar range.1
  let hi := String.utf8EncodeChar range.2
  lo.contains b || hi.contains b ||
    (range.1 != range.2 && lo.getLast?.any (· ≤ b) && hi.head?.any (b ≤ ·))

mutual

/-- Whether a token can only stand for the empty text. -/
def Token.isBlank : Token → Bool
  | .choice alternatives => allBlank alternatives
  | _ => false

/-- Whether all tokens of a list are blank. -/
def isBlankList : List Token → Bool
  | [] => true
  | t :: ts => t.isBlank && isBlankList ts

/-- Whether all patterns of a list are blank. -/
def allBlank : List (List Token) → Bool
  | [] => true
  | p :: ps => isBlankList p && allBlank ps

end

mutual

/-- What a token may leave of a path. -/
def Token.rests : Token → List UInt8 → List (List UInt8)
  | .literal c, path => (strip (String.utf8EncodeChar c) path).toList
  | .any, path => match path with
    | [] => []
    | _ :: rest => [rest]
  | .many, path => suffixes path
  | .leading, path => path :: behindSlashes path
  | .trailing, path => match strip [slash] path with
    | some rest => suffixes rest
    | none => []
  | .between, path => match strip [slash] path with
    | some rest => rest :: behindSlashes rest
    | none => []
  | .oneOf negated ranges, path => match path with
    | [] => []
    | b :: rest => if ranges.any (inRange b) != negated then [rest] else []
  | .choice alternatives, path =>
    if allBlank alternatives then [path] else restsOfAny alternatives path

/-- What a list of tokens may leave of some paths. -/
def restsOf : List Token → List (List UInt8) → List (List UInt8)
  | [], paths => paths
  | t :: ts, paths => restsOf ts (paths.flatMap fun path => t.rests path).eraseDups

/-- What one of several patterns that are not blank may leave of a path. -/
def restsOfAny : List (List Token) → List UInt8 → List (List UInt8)
  | [], _ => []
  | p :: ps, path => (if isBlankList p then [] else restsOf p [path]) ++ restsOfAny ps path

end

/-! ## Names -/

/-- The character of a token that is a literal. -/
def Token.literal? : Token → Option Char
  | .literal c => some c
  | _ => none

/-- The tokens end with a dot and literals behind it, none of them a slash. -/
def endsWithExtension (tokens : List Token) : Bool :=
  let ending := tokens.reverse.dropWhile fun t =>
    t.literal?.any fun c => c != '.' && c != '/'
  (ending.head?.bind Token.literal?) == some '.'

/-- The tokens are literals, perhaps with a star before them that matches anything: an end of a path
is enough for them. -/
def isEnding (tokens : List Token) : Bool :=
  match tokens with
  | .many :: rest => rest.all fun t => t.literal?.isSome
  | _ => tokens.all fun t => t.literal?.isSome

/-- The tokens are a star and an extension, in which no second dot is. -/
def isExtension : List Token → Bool
  | .many :: .literal '.' :: rest => rest.all fun t => t.literal?.any fun c => c != '.' && c != '/'
  | _ => false

/-- The pattern asks for the name of a file or for its extension: a name or an extension in any
directory, or an extension at the end of a longer pattern. -/
def asksForName (tokens : List Token) : Bool :=
  match tokens with
  | .leading :: rest =>
    rest.all (fun t => t.literal?.any (· != '/')) || isExtension rest ||
      (!isEnding rest && endsWithExtension rest)
  | _ => isExtension tokens || (!isEnding tokens && endsWithExtension tokens)

/-- The path ends with two dots, which lead to a directory whose name is not known. -/
def isNameless (path : List UInt8) : Bool :=
  (path.reverse.takeWhile (· != slash)) == [0x2E, 0x2E]

/-! ## Patterns -/

/-- A pattern with the text it was read from. -/
structure Pattern where
  text : String
  tokens : List Token
deriving Repr

/-- The pattern of a text. -/
def Pattern.ofText (text : String) : Except Error Pattern := do
  pure ⟨text, ← parse text⟩

/-- Whether a pattern matches a whole path. Two stars alone match every path. -/
def Pattern.matchesPath (p : Pattern) (path : String) : Bool :=
  match p.tokens with
  | [.leading] => true
  | tokens =>
    let path := bytesOf path.toList
    !(asksForName tokens && isNameless path) && (restsOf tokens [path]).any List.isEmpty

end Nameplate.Glob
