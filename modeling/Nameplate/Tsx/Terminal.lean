/-!
# Terminals

The grammar of a file speaks of three sorts of terminals: texts that stand for themselves
(`Terminal.literal`), tokens with an inner structure (`Lexeme`), and tokens that depend on what
stands around them (`Mark`).
-/

namespace Nameplate.Tsx

/-- The tokens with an inner structure. -/
inductive Lexeme where
  | identifier
  /-- The first line of a script, as in `#!/usr/bin/env node`. -/
  | hashBangLine
  /-- A character by its name or number, as in `&nbsp;` or `&#39;`. -/
  | characterReference
  /-- A name with a hyphen in it, as in `data-id`. -/
  | hyphenated
  /-- Text between the double quotes of an attribute. -/
  | doubleJsxText
  /-- Text between the single quotes of an attribute. -/
  | singleJsxText
  /-- Text between double quotes. -/
  | doubleText
  /-- Text between single quotes. -/
  | singleText
  /-- An escape sequence of a string or a template. -/
  | escape
  | comment
  | regexPattern
  /-- The slash behind the pattern of a regular expression. -/
  | regexEnd
  | regexFlags
  | number
  /-- A name with a hash, as in `#count`. -/
  | privateName
deriving DecidableEq, Repr, Hashable

/-- The name of a token with an inner structure. -/
def Lexeme.name : Lexeme → String
  | identifier | hyphenated => "identifier"
  | hashBangLine => "hash_bang_line"
  | characterReference => "html_character_reference"
  | doubleJsxText | singleJsxText | doubleText | singleText => "string_fragment"
  | escape => "escape_sequence"
  | comment => "comment"
  | regexPattern => "regex_pattern"
  | regexEnd => "/"
  | regexFlags => "regex_flags"
  | number => "number"
  | privateName => "private_property_identifier"

/-- The tokens that are recognised by what stands around them. -/
inductive Mark where
  /-- A semicolon that is not written. -/
  | semicolon
  /-- The end of a signature. It is never met: where it is expected, a block that starts on the
  next line is a body, and no semicolon is inserted before it. -/
  | signatureEnd
  /-- The question mark of a conditional expression. -/
  | conditional
  /-- Text of a template. -/
  | templateText
  /-- Text between two tags. -/
  | jsxText
  /-- A comment in the manner of HTML. -/
  | htmlComment
deriving DecidableEq, Repr, Hashable

/-- What a source is made of. -/
inductive Terminal where
  /-- A text that stands for itself: a word or a mark of punctuation. -/
  | literal (text : String)
  | lexeme (l : Lexeme)
  | mark (m : Mark)
  /-- The end of the source. -/
  | endOfText
deriving DecidableEq, Repr, Hashable

/-- Literals that are phrases of their own. -/
def namedLiterals : List String := ["this", "super", "true", "false", "null", "undefined"]

/-- The words that are no names where they are expected, yet may touch what follows them. -/
def looseWords : List String := ["as", "in", "instanceof", "satisfies", "implements", "of"]

namespace Terminal

/-- A keyword is read as a whole word: it is recognised by comparing the word with it. -/
def isKeyword : Terminal → Bool
  | literal text =>
    !looseWords.contains text && text.toList.all fun c => 'a' ≤ c && c ≤ 'z'
  | _ => false

/-- A token that may stand between any two others. -/
def isExtra : Terminal → Bool
  | lexeme .comment => true
  | mark .htmlComment => true
  | _ => false

end Terminal

end Nameplate.Tsx
