import Nameplate.Text.Range

/-!
# Edits

An edit replaces a range of a text. `applyAll` carries out edits that all refer to the same text:
the last place first, and insertions at one place so that they end up in the order of the list.
-/

namespace Nameplate.Text

/-- A range and the text that replaces it. -/
structure Edit where
  range : Range
  newText : String
deriving DecidableEq, Repr

namespace Edit

/-- A text with one edit carried out; `none` if the range is no range of the text. -/
def apply (e : Edit) (text : List Char) : Option (List Char) :=
  if e.range.start ≤ e.range.stop then do
    let front ← takeBytes e.range.start text
    let rest ← dropBytes e.range.stop text
    pure (front ++ e.newText.toList ++ rest)
  else none

/-- The order in which edits of one text are carried out. -/
def ordered (edits : List Edit) : List Edit :=
  (edits.mergeSort fun a b => a.range.start ≤ b.range.start).reverse

/-- A text with all edits carried out. -/
def applyAll (edits : List Edit) (text : List Char) : Option (List Char) :=
  (ordered edits).foldlM (fun t e => e.apply t) text

end Edit

end Nameplate.Text
