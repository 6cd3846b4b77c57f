import Nameplate.Tsx.Terminal
import Nameplate.Tsx.Token.Pattern

/-!
# The patterns of the tokens

What each token looks like, which of two tokens wins that end at the same place (`rank`, then
`exactness`), and which tokens have to stand directly behind what is before them (`isAdjacent`).
-/

namespace Nameplate.Tsx

namespace Pattern

def digit : Pattern := between '0' '9'

def hexDigit : Pattern := one (.within [('0', '9'), ('a', 'f'), ('A', 'F')])

/-- Digits of a sort, between which single underscores may stand. -/
def grouped (d : Pattern) : Pattern := both d (many (both (maybe (text "_")) d))

/-- The characters that no name holds as they are, digits apart: controls, white space and
punctuation other than the dollar sign and the underscore. -/
def unnameable : List (Char × Char) :=
  [('\x01', ' '), ('\u00a0', '\u00a0'), ('\u1680', '\u1680'), ('\u2000', '\u200b'),
    ('\u2028', '\u2029'), ('\u202f', '\u202f'), ('\u205f', '\u2060'), ('\u3000', '\u3000'),
    ('\ufeff', '\ufeff')] ++
    CharSet.rangesOf ":;`\"'@#.,|^&<=>+-*/\\%?!~()[]\x7b\x7d"

/-- A character by its number, as in `\u0041` or with the number in braces. -/
def numberedChar : Pattern :=
  oneOf [both (text "\\u") (times hexDigit 4 0),
    seq [text "\\u\x7b", series hexDigit, text "\x7d"]]

/-- A name: it does not start with a digit. -/
def name : Pattern :=
  both (either (one (.outside (('0', '9') :: unnameable))) numberedChar)
    (many (either (one (.outside unnameable)) numberedChar))

/-- A number with a letter for its base. -/
def based (markers : String) (d : Pattern) : Pattern :=
  seq [text "0", anyOf markers, grouped d]

/-- The numbers that are written with a letter for their base. -/
def basedNumber : Pattern :=
  oneOf [based "xX" hexDigit, based "bB" (between '0' '1'), based "oO" (between '0' '7')]

/-- The part of a number before the point. -/
def wholePart : Pattern :=
  either (text "0") <|
    seq [maybe (text "0"), between '1' '9', maybe (both (maybe (text "_")) (grouped digit))]

def exponent : Pattern := seq [anyOf "eE", maybe (anyOf "-+"), grouped digit]

def number : Pattern :=
  oneOf [basedNumber,
    seq [wholePart, text ".", maybe (grouped digit), maybe exponent],
    seq [text ".", grouped digit, maybe exponent],
    both wholePart exponent,
    grouped digit,
    both (either basedNumber (grouped digit)) (text "n")]

/-- A comment to the end of the line, or between a slash with a star and a star with a slash. -/
def comment : Pattern :=
  let stars := series (text "*")
  either (both (text "//") (many (noneOf "\r\n\u2028\u2029"))) <|
    seq [text "/*", many (noneOf "*"), stars,
      many (seq [noneOf "/*", many (noneOf "*"), stars]), text "/"]

/-- An escape sequence of a string. -/
def escape : Pattern :=
  both (text "\\") <|
    oneOf [one (.outside [('x', 'x'), ('u', 'u'), ('0', '7')]), times (between '0' '7') 1 2,
      both (text "x") (times hexDigit 2 0), both (text "u") (times hexDigit 4 0),
      seq [text "u\x7b", series hexDigit, text "\x7d"],
      both (anyOf "\r?") (anyOf "\n\u2028\u2029")]

/-- A backslash and what it makes plain. -/
def escaped : Pattern := both (text "\\") (noneOf "\n")

/-- The inside of a regular expression. -/
def regex : Pattern :=
  series <|
    oneOf [seq [text "[", many (either escaped (noneOf "]\n\\")), text "]"], escaped,
      noneOf "/\\[\n"]

/-- Text in the quotes of an attribute: an ampersand does not start a reference. -/
def attributeText (quote : Char) : Pattern :=
  series <|
    either (one (.outside [(quote, quote), ('&', '&')]))
      (both (text "&") (one (.outside [('#', '#'), ('A', 'Z'), ('a', 'z')])))

/-- A character by its name or number. -/
def characterReference : Pattern :=
  let letter := one (.within [('A', 'Z'), ('a', 'z')])
  seq [text "&",
    either
      (both (text "#") (either (both (anyOf "xX") (times hexDigit 1 5)) (times digit 1 4)))
      (times letter 1 29),
    text ";"]

/-- A name with a hyphen in it. -/
def hyphenated : Pattern :=
  let start : List (Char × Char) := [('a', 'z'), ('A', 'Z'), ('_', '_'), ('$', '$')]
  let inner := ('0', '9') :: start
  seq [one (.within start), many (one (.within inner)), text "-",
    many (one (.within (('-', '-') :: inner)))]

end Pattern

namespace Lexeme

def pattern : Lexeme → Pattern
  | identifier => .name
  | hashBangLine => .both (.text "#!") (.many (.noneOf "\n"))
  | characterReference => .characterReference
  | hyphenated => .hyphenated
  | doubleJsxText => .attributeText '"'
  | singleJsxText => .attributeText '\''
  | doubleText => .series (.noneOf "\"\\\r\n")
  | singleText => .series (.noneOf "'\\\r\n")
  | escape => .escape
  | comment => .comment
  | regexPattern => .regex
  | regexEnd => .text "/"
  | regexFlags => .series (.between 'a' 'z')
  | number => .number
  | privateName => .both (.text "#") .name

/-- The token stands directly behind what is before it: no white space may come between. -/
def isAdjacent : Lexeme → Bool
  | doubleJsxText | singleJsxText | doubleText | singleText | escape | regexPattern | regexEnd
  | regexFlags => true
  | _ => false

/-- A token of a higher rank wins over one of a lower rank, even if that one goes on. -/
def rank : Lexeme → Int
  | doubleJsxText | singleJsxText | doubleText | singleText | regexEnd => 1
  | regexPattern => -1
  | _ => 0

/-- Of two tokens of one rank that end at the same place the more exact one wins. -/
def exactness : Lexeme → Nat
  | regexEnd => 3
  | doubleJsxText | singleJsxText | doubleText | singleText | escape | regexPattern
  | regexFlags => 1
  | _ => 0

end Lexeme

namespace Terminal

/-- What the token looks like; tokens that depend on their surroundings have no pattern. -/
def pattern? : Terminal → Option Pattern
  | literal text => some (.text text)
  | lexeme l => some l.pattern
  | mark _ | endOfText => none

def isAdjacent : Terminal → Bool
  | lexeme l => l.isAdjacent
  | _ => false

def rank : Terminal → Int
  | lexeme l => l.rank
  | _ => 0

def exactness : Terminal → Nat
  | literal _ => 2
  | lexeme l => l.exactness
  | _ => 0

end Terminal

end Nameplate.Tsx
