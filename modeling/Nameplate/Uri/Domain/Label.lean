import Nameplate.Uri.Domain.Class
import Nameplate.Uri.Domain.Composition

/-!
# Rules for labels

A label does not start with a mark. The two characters that join letters or keep them apart stand
only where they change how a word is written. If a domain holds characters that are written from
right to left, each of its labels keeps to one direction.

* `joinersFit`: the joining characters stand where they matter;
* `keepsDirection`: the label keeps to one direction;
* `isWellFormed`: the rules for one label.
-/

namespace Nameplate.Uri.Domain

/-! ## Joining characters -/

/-- Keeps two letters apart. -/
def nonJoiner : Char := '\u200c'

/-- Joins two letters. -/
def joiner : Char := '\u200d'

/-- The class of the marks that take away the vowel of a letter. -/
def viramaClass : Nat := 9

/-- The letter before the non-joiner would join the one behind it; `before` has the nearest
character first. -/
def wouldJoin (before after : List Char) : Bool :=
  (before.dropWhile isNonspacing).head?.any joinsLeft &&
    (after.dropWhile isNonspacing).head?.any joinsRight

/-- The joining characters of a label stand behind a mark that takes away a vowel, or between
letters that would join. -/
def joinersFit (before : List Char) : List Char → Bool
  | [] => true
  | c :: rest =>
    let behindVirama := before.head?.any fun b => combiningClass b == viramaClass
    let fits :=
      if c == nonJoiner then behindVirama || wouldJoin before rest
      else if c == joiner then behindVirama
      else true
    fits && joinersFit (c :: before) rest

/-! ## Directions -/

/-- The character is written from right to left, or is a digit of such a script. -/
def isRightward (c : Char) : Bool :=
  [Direction.right, .arabic, .arabicDigit].contains (directionOf c)

/-- The label keeps to one direction: it starts with a letter, the characters of the other direction
are missing, and it ends with a letter or a digit, marks apart. -/
def keepsDirection (label : List Char) : Bool :=
  let directions := label.map directionOf
  let last := (directions.reverse.dropWhile (· == .mark)).head?
  let neutral : List Direction := [.digit, .sign, .separator, .currency, .neutral, .mark]
  match directions.head? with
  | none => true
  | some .left =>
    directions.all (fun d => d == .left || neutral.contains d) &&
      last.any fun d => d == .left || d == .digit
  | some first =>
    (first == .right || first == .arabic) &&
      directions.all (fun d => [.right, .arabic, .arabicDigit].contains d || neutral.contains d) &&
      last.any (fun d => [.right, .arabic, .arabicDigit, .digit].contains d) &&
      !(directions.contains .digit && directions.contains .arabicDigit)

/-! ## Labels -/

/-- The rules for one label. -/
def isWellFormed (label : List Char) : Bool :=
  !(label.head?.any isMark) && joinersFit [] label

end Nameplate.Uri.Domain
