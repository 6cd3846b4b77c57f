import Nameplate.Document.Diagnostic
import Nameplate.Document.Lens

/-!
# Messages between a client and the server

* `Message`: what a client sends;
* `Response`: what the server answers;
* `Outgoing`: what the server sends by itself;
* `Reply`: what a client answers to a request of the server.
-/

namespace Nameplate.Server

open Json (Value)

/-- A message of a client: a request if it has an identifier, else a notification. -/
structure Message where
  method : String
  hasId : Bool
  params : Option Value
deriving Repr

/-- An error as an answer. -/
structure ResponseError where
  code : Int
  message : String
  data : Option String := none
deriving DecidableEq, Repr

/-- The answer to a message. -/
inductive Response where
  /-- Nothing is answered. -/
  | silent
  | result (v : Value)
  | error (e : ResponseError)
  /-- The server is gone. -/
  | exited
deriving Repr

/-- How important a log message is. -/
inductive LogLevel where
  | warning
  | info
deriving DecidableEq, Repr

/-- The number of a log level. -/
def LogLevel.number : LogLevel → Nat
  | warning => 2
  | info => 3

/-- A part of the progress of some work. -/
inductive Progress where
  | started (title message : String)
  | report (done total : Nat)
  | ended (message : String)
deriving DecidableEq, Repr

/-- A message of the server. -/
inductive Outgoing where
  | log (level : LogLevel) (message : String)
  | publish (uri : Uri) (diagnostics : List Diagnostic) (version : Option Int)
  /-- A request to show progress. -/
  | createProgress
  | progress (p : Progress)
  /-- A request to apply an edit. -/
  | applyEdit (edit : WorkspaceEdit)
deriving DecidableEq, Repr

/-- The answer of a client to a request. -/
inductive Reply where
  | result (v : Value)
  | error (code : Int) (message : String)
deriving Repr

/-! ## Errors of the protocol -/

/-- The name of an error code. -/
def describeCode (code : Int) : String :=
  if code = -32700 then "Parse error"
  else if code = -32600 then "Invalid request"
  else if code = -32601 then "Method not found"
  else if code = -32602 then "Invalid params"
  else if code = -32603 then "Internal error"
  else if code = -32800 then "Canceled"
  else if code = -32801 then "Content modified"
  else "Server error"

def invalidRequest : ResponseError := ⟨-32600, "Invalid request", none⟩

def notInitialized : ResponseError := ⟨-32002, "Server not initialized", none⟩

def invalidParams (message : String) : ResponseError := ⟨-32602, message, none⟩

def methodNotFound (data : Option String) : ResponseError := ⟨-32601, "Method not found", data⟩

/-- The answer for a request that fails. -/
def ResponseError.ofRequest (e : RequestError) : ResponseError := ⟨e.code, e.message, none⟩

end Nameplate.Server
