import Nameplate.Document.RequestError
import Nameplate.Document.Store
import Nameplate.Json.Record

/-!
# Commands that name components

A command is about a version of a document that its client has seen. If the document has another
version by now, or none, nothing is done.

* `ApplyRequest`, `ApplyAllRequest`: what the commands are told, as values;
* `applyOne`: the edit that names one component;
* `applyAll`: the edits that name all components of a document;
* `confirm`: an answer that was worked out, checked again before it is used.
-/

namespace Nameplate

open Json (Value Field Mismatch)
open Naming (PositionedEdit planFor editsFor)

/-! ## Names and arguments -/

/-- The command that names one component. -/
def applyCommand : String := "remod.applyIdentification"

/-- The command that names all components of a document. -/
def applyAllCommand : String := "remod.applyAllIdentifications"

/-- The command that names all components of a workspace. -/
def applyWorkspaceCommand : String := "remod.applyWorkspaceIdentifications"

/-- The names of all commands. -/
def commandNames : List String := [applyCommand, applyAllCommand, applyWorkspaceCommand]

/-- A component of a version of a document. -/
structure ApplyRequest where
  uri : Uri
  name : String
  version : Int
deriving DecidableEq, Repr

/-- A version of a document. -/
structure ApplyAllRequest where
  uri : Uri
  version : Int
deriving DecidableEq, Repr

def ApplyRequest.toValue (r : ApplyRequest) : Value :=
  .object [("uri", .string r.uri.text), ("bindingName", .string r.name),
    ("version", .integer r.version)]

def ApplyAllRequest.toValue (r : ApplyAllRequest) : Value :=
  .object [("uri", .string r.uri.text), ("version", .integer r.version)]

def ApplyRequest.read (v : Value) : Except Mismatch ApplyRequest := do
  let ms ← Json.members "ApplyIdentificationArgs"
    [.of "uri" Json.uri, .of "bindingName" Json.text, .of "version" Json.int32] .ignored v
  pure
    { uri := ← Json.uri (Json.valueOf ms "uri")
      name := ← Json.text (Json.valueOf ms "bindingName")
      version := ← Json.int32 (Json.valueOf ms "version") }

def ApplyAllRequest.read (v : Value) : Except Mismatch ApplyAllRequest := do
  let ms ← Json.members "ApplyAllArgs"
    [.of "uri" Json.uri, .of "version" Json.int32] .ignored v
  pure
    { uri := ← Json.uri (Json.valueOf ms "uri")
      version := ← Json.int32 (Json.valueOf ms "version") }

/-- Reads the first argument of a command. -/
def readArguments {α : Type} (read : Json.Reader α) : List Value → Except RequestError α
  | [] => .error (.invalidArguments "missing argument object")
  | v :: _ =>
    match read v with
    | .ok a => .ok a
    | .error e => .error (.invalidArguments e.message)

/-! ## Edits -/

/-- The edits of one document; those of a document that is not open have no version. -/
structure DocumentEdit where
  uri : Uri
  version : Option Int
  edits : List PositionedEdit
deriving DecidableEq, Repr

/-- The edits of several documents. -/
abbrev WorkspaceEdit := List DocumentEdit

/-! ## Commands -/

/-- Whether a document still has the version a client has seen. -/
def ensureCurrent (s : Store) (u : Uri) (version : Int) : Except RequestError Unit :=
  match s.version? u with
  | none => .error (.documentNotOpen u)
  | some current =>
    if current = version then .ok () else .error (.staleRequest version current)

/-- The analysis of the version a client has seen, and the store that keeps it. -/
def currentAnalysis (s : Store) (u : Uri) (version : Int) : Except RequestError Analysis × Store :=
  match ensureCurrent s u version with
  | .error e => (.error e, s)
  | .ok () =>
    match s.analyze u with
    | (none, s) => (.error (.documentNotOpen u), s)
    | (some made, s) =>
      let a := made.analysis
      if a.version ≠ version then (.error (.staleRequest version a.version), s)
      else match a.outcome.error? with
        | some e => (.error (.parseFailure e), s)
        | none => (.ok a, s)

/-- The edit that names a component of an analysis, if it needs one. -/
def editForOne (label : String) (r : ApplyRequest) (a : Analysis) :
    Except RequestError (Option WorkspaceEdit) :=
  match a.candidate? r.name with
  | none => .error (.unknownComponent r.name)
  | some c =>
    .ok ((planFor label a.lineEnding c).edit?.map fun e =>
      [⟨r.uri, some a.version, [positionedIn a.index e]⟩])

/-- The edits that name all components of an analysis, if some are needed. -/
def editForAll (label : String) (u : Uri) (a : Analysis) : Option WorkspaceEdit :=
  let edits := editsFor a.candidates label a.lineEnding
  if edits.isEmpty then none
  else some [⟨u, some a.version, edits.map (positionedIn a.index)⟩]

/-- The edit that names one component; none if its name is right. -/
def applyOne (s : Store) (label : String) (r : ApplyRequest) :
    Except RequestError (Option WorkspaceEdit) × Store :=
  match currentAnalysis s r.uri r.version with
  | (.error e, s) => (.error e, s)
  | (.ok a, s) => (editForOne label r a, s)

/-- The edits that name all components of a document; none if all names are right. -/
def applyAll (s : Store) (label : String) (r : ApplyAllRequest) :
    Except RequestError (Option WorkspaceEdit) × Store :=
  match currentAnalysis s r.uri r.version with
  | (.error e, s) => (.error e, s)
  | (.ok a, s) => (.ok (editForAll label r.uri a), s)

/-- An answer about a version of a document, unless the document has another one by the time the
answer is known. -/
def confirm (s : Store) (u : Uri) (version : Int)
    (answer : Except RequestError (Option WorkspaceEdit)) :
    Except RequestError (Option WorkspaceEdit) := do
  let edit ← answer
  ensureCurrent s u version
  pure edit

end Nameplate
