import Nameplate.Uri.Domain.Label
import Nameplate.Uri.Domain.Mapping
import Nameplate.Uri.Domain.Punycode

/-!
# Domains

A domain may be written with letters of any script. In its normal form it has small letters only,
and labels that are not in ASCII are written with ASCII characters behind `xn--`. A label that is
written in this way has to be the form of a label that is normal already.

* `normal?`: small letters, composed;
* `labelOf?`: the letters of a label that may be written in ASCII;
* `toAscii?`: the normal form of a domain.
-/

namespace Nameplate.Uri.Domain

/-- What starts a label that is written with ASCII characters. -/
def asciiMark : List Char := "xn--".toList

def isAscii (label : List Char) : Bool := label.all fun c => c.toNat < firstOther

/-- A text with its characters replaced and composed; `none` if one is refused. -/
def normal? (text : List Char) : Option (List Char) := do
  pure (composed (← text.mapM mapChar?).flatten)

/-- The letters of a label. What an ASCII form stands for is not in ASCII, and is normal. -/
def labelOf? (label : List Char) : Option (List Char) :=
  if asciiMark.isPrefixOf label then do
    guard (isAscii label)
    let letters ← ofPunycode? (label.drop asciiMark.length)
    guard (!isAscii letters && normal? letters == some letters)
    pure letters
  else some label

/-- A label in ASCII. -/
def asciiOf (label : List Char) : List Char :=
  if isAscii label then label else asciiMark ++ punycode label

/-- The normal form of a domain; `none` if it breaks a rule. -/
def toAscii? (domain : List Char) : Option (List Char) := do
  let labels ← (pieces '.' (← normal? domain)).mapM labelOf?
  guard (labels.all isWellFormed)
  guard (!labels.any (fun l => l.any isRightward) || labels.all keepsDirection)
  pure (['.'].intercalate (labels.map asciiOf))

end Nameplate.Uri.Domain
