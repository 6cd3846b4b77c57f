import Nameplate.Document.Analysis

/-!
# Why a request fails

Each cause has a code and a wording.
-/

namespace Nameplate

/-- Why a request fails. -/
inductive RequestError where
  | invalidArguments (reason : String)
  | documentNotOpen (uri : Uri)
  /-- The client saw another version than the current one. -/
  | staleRequest (expected actual : Int)
  | unknownComponent (name : String)
  | parseFailure (error : AnalysisError)
  /-- The client did not apply an edit. -/
  | editConflict (reason : String)
  /-- The client did not answer a request. -/
  | client (reason : String)
  /-- Work beside the server was given up. -/
  | task (reason : String)
deriving DecidableEq, Repr

namespace RequestError

/-- The code of an error. -/
def code : RequestError → Int
  | staleRequest _ _ => -32801
  | invalidArguments _ => -32602
  | documentNotOpen _ => -32600
  | unknownComponent _ => -32600
  | parseFailure _ => -32000
  | editConflict _ => -32000
  | client _ => -32603
  | task _ => -32603

/-- The error in words. -/
def message : RequestError → String
  | invalidArguments reason => "Invalid command arguments: " ++ reason
  | documentNotOpen uri => "Document is not open: " ++ uri.text
  | staleRequest expected actual =>
    "document changed: client saw version " ++ toString expected ++ ", current version is " ++
      toString actual
  | unknownComponent name => "No component named '" ++ name ++ "' in the current document"
  | parseFailure error => "Document cannot be parsed: " ++ error.message
  | editConflict reason => "Edit was not applied: " ++ reason
  | client reason => "Client request failed: " ++ reason
  | task reason => "Analysis task failed: " ++ reason

end RequestError

end Nameplate
