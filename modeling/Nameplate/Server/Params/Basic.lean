import Nameplate.Json.Record

/-!
# Parts of parameters

What the parameters of several messages have in common.

* `document`, `position`, `range`, `location`: places in documents;
* `Part.progress`, `Part.partialResult`, `Part.position`: parts of the parameters of requests;
* `command`, `textEdit`, `markup`: what documents are given.
-/

namespace Nameplate.Server

open Json (Field Reader)

/-! ## Places -/

/-- A document by its URI. -/
def document : Reader Uri := fun v => do
  let ms ← Json.members "TextDocumentIdentifier" [.of "uri" Json.uri] .ignored v
  Json.uri (Json.valueOf ms "uri")

def position : Reader Unit :=
  Json.record "Position" [.of "line" Json.nat32, .of "character" Json.nat32]

def range : Reader Unit :=
  Json.record "Range" [.of "start" position, .of "end" position]

def location : Reader Unit :=
  Json.record "Location" [.of "uri" Json.uri, .of "range" range]

/-! ## Parts of requests -/

/-- A name that is a number or a text. -/
def token : Reader Unit :=
  Json.oneOf "NumberOrString" [Json.checked Json.int32, Json.checked Json.text]

/-- The name under which progress is shown. -/
def Part.progress : List Field := [.optional "workDoneToken" token]

/-- The name under which results are given one by one. -/
def Part.partialResult : List Field := [.optional "partialResultToken" token]

/-- A position in a document. -/
def Part.position : List Field :=
  [.of "textDocument" document, .of "position" Server.position]

/-! ## Texts -/

def command : Reader Unit :=
  Json.record "Command"
    [.of "title" Json.text, .of "command" Json.text,
     .optional "arguments" (Json.items Json.anything)]

def textEdit : Reader Unit :=
  Json.record "TextEdit" [.of "range" range, .of "newText" Json.text]

/-- How a text is marked up. -/
def markupKind : Reader String := Json.word ["plaintext", "markdown"]

/-- A text, plain or marked up; several kinds of things have one, under a name of their own. -/
def markup (name : String) : Reader Unit :=
  Json.oneOf name
    [Json.checked Json.text,
     Json.record "MarkupContent" [.of "kind" markupKind, .of "value" Json.text]]

end Nameplate.Server
