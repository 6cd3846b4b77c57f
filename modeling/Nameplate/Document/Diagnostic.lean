import Nameplate.Document.Store
import Nameplate.Settings.Configuration

/-!
# Diagnostics

A document that cannot be analysed has one diagnostic at its first fault.
-/

namespace Nameplate

open Text (Span LineIndex)

/-- How severe a diagnostic is. -/
inductive Severity where
  | error
  | warning
  | information
  | hint
deriving DecidableEq, Repr

/-- The number of a severity. -/
def Severity.number : Severity → Nat
  | error => 1
  | warning => 2
  | information => 3
  | hint => 4

/-- The severity a word stands for, in letters of any case; other words stand for a warning. -/
def Severity.ofText (text : String) : Severity :=
  match String.ofList (text.toList.map Char.toLower) with
  | "error" => error
  | "hint" => hint
  | "information" => information
  | "info" => information
  | _ => warning

/-- A message at a place of a document. -/
structure Diagnostic where
  span : Span
  severity : Severity
  message : String
deriving DecidableEq, Repr

/-- The place of an error. -/
def AnalysisError.span (index : LineIndex) : AnalysisError → Span
  | parse _ range => spanIn index range
  | grammar _ => default

/-- The diagnostic of an error. -/
def Diagnostic.ofError (severity : Severity) (index : LineIndex) (e : AnalysisError) :
    Diagnostic :=
  { span := e.span index
    severity
    message := e.message ++ "; displayName actions are unavailable until it parses" }

/-- The diagnostics of a document; there are none if they are switched off. -/
def diagnose (s : Store) (d : Settings.Diagnostics) (u : Uri) : List Diagnostic × Store :=
  if d.enabled then
    match s.analyze u with
    | (none, s) => ([], s)
    | (some made, s) =>
      let a := made.analysis
      (a.outcome.error?.toList.map (Diagnostic.ofError (.ofText d.severity) a.index), s)
  else ([], s)

end Nameplate
