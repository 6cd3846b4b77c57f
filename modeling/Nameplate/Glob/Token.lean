/-!
# Glob patterns

A pattern is a list of tokens. Paths are matched as bytes: `Token.any` and `Token.oneOf` stand for
one byte each, and a literal character for the bytes of its UTF-8 form.

* `Token`: the parts of a pattern;
* `Error`: why a text is no pattern, with its wording.
-/

namespace Nameplate.Glob

/-- A part of a pattern. -/
inductive Token where
  | literal (c : Char)
  /-- `?`: any byte. -/
  | any
  /-- `*`: any number of bytes, slashes included. -/
  | many
  /-- `**/` at the start: nothing, or anything up to a slash. -/
  | leading
  /-- `/**` at the end: a slash and anything behind it. -/
  | trailing
  /-- `/**/`: a slash, or anything between two slashes. -/
  | between
  /-- `[...]`: a byte of one of the ranges, or of none of them. -/
  | oneOf (negated : Bool) (ranges : List (Char × Char))
  /-- `{...}`: one of several patterns. -/
  | choice (alternatives : List (List Token))
deriving Repr

/-- Why a text is no pattern. -/
inductive Error where
  | unclosedClass
  | invalidRange (first last : Char)
  | unclosedGroup
  | unopenedGroup
  | danglingEscape
deriving DecidableEq, Repr

/-- The error in words. -/
def Error.message : Error → String
  | unclosedClass => "unclosed character class; missing ']'"
  | invalidRange first last =>
    "invalid range; '" ++ first.toString ++ "' > '" ++ last.toString ++ "'"
  | unclosedGroup =>
    "unclosed alternate group; missing '\x7d' (maybe escape '\x7b' with '[\x7b]'?)"
  | unopenedGroup =>
    "unopened alternate group; missing '\x7b' (maybe escape '\x7d' with '[\x7d]'?)"
  | danglingEscape => "dangling '\\'"

end Nameplate.Glob
