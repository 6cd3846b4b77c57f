import Nameplate.Glob.Match
import Nameplate.Workspace.Path

/-!
# Which files of a workspace count

A `Filter` has patterns for the files that are wanted and for those that are not. The files that
are not wanted win, and directories are only held against them.
-/

namespace Nameplate.Workspace

open Glob (Pattern)

/-- A text that is no pattern, and why. -/
structure PatternError where
  pattern : String
  error : Glob.Error
deriving DecidableEq, Repr

/-- The error in words. -/
def PatternError.message (e : PatternError) : String :=
  "Invalid glob pattern '" ++ e.pattern ++ "': error parsing glob '" ++ e.pattern ++ "': " ++
    e.error.message

/-- Which files count. -/
structure Filter where
  /-- The patterns of the files that count, if not all do. -/
  wanted : Option (List Pattern)
  unwanted : List Pattern
deriving Repr

/-- The patterns of some texts, or the first text that is none. -/
def patternsOf (texts : List String) : Except PatternError (List Pattern) :=
  texts.mapM fun text =>
    match Pattern.ofText text with
    | .ok p => .ok p
    | .error e => .error ⟨text, e⟩

/-- A path is matched by a set of patterns if one of them matches it. -/
def anyMatches (patterns : List Pattern) (path : String) : Bool :=
  patterns.any fun p => p.matchesPath path

namespace Filter

/-- The filter of some patterns; without patterns for wanted files all TSX files are wanted. -/
def ofPatterns (wanted unwanted : List String) : Except PatternError Filter := do
  let wanted ← if wanted.isEmpty then pure none else some <$> patternsOf wanted
  pure ⟨wanted, ← patternsOf unwanted⟩

/-- Whether a file counts, by its path from the root of the workspace. -/
def takesFile (f : Filter) (path : String) : Bool :=
  isTsxPath path && !anyMatches f.unwanted path && f.wanted.all (anyMatches · path)

/-- Whether a directory is searched, by its path from the root of the workspace. -/
def entersDirectory (f : Filter) (path : String) : Bool :=
  !anyMatches f.unwanted path

end Filter

end Nameplate.Workspace
