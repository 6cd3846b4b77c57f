import Nameplate.Json.Reader
import Nameplate.Text.Bytes
import Nameplate.Workspace.Filter

/-!
# The configuration file

A workspace can have a file that says how components are labelled, which files count and how faults
are shown. A file that cannot be read counts as if it were not there.

* `Configuration.ofText?`: the configuration a text writes;
* `Configuration.ofFile`: the configuration of a file that may be missing;
* `Configuration.excludes`: the patterns of unwanted files, those of every workspace first.
-/

namespace Nameplate.Settings

open Json (Value)

/-- The name of the configuration file. -/
def configurationFile : String := ".remodrc"

/-- The label of display names if nothing else is said. -/
def defaultLabel : String := "REMOD_"

/-- Whether and how faults are shown. -/
structure Diagnostics where
  enabled : Bool := true
  severity : String := "warning"
deriving DecidableEq, Repr, Inhabited

/-- What a configuration file says. -/
structure Configuration where
  label : Option String := none
  /-- The patterns of wanted files. -/
  wanted : List String := []
  /-- The patterns of unwanted files, besides those of every workspace. -/
  unwanted : List String := []
  diagnostics : Diagnostics := {}
deriving DecidableEq, Repr, Inhabited

/-! ## Reading -/

/-- A text or nothing. -/
def textOrNull : Value → Option (Option String)
  | .null => some none
  | .string s => some (some s)
  | _ => none

def text? : Value → Option String
  | .string s => some s
  | _ => none

def bool? : Value → Option Bool
  | .bool b => some b
  | _ => none

/-- One pattern, or an array of patterns. -/
def oneOrMany : Value → Option (List String)
  | .string s => some [s]
  | .array vs => vs.mapM text?
  | _ => none

/-- The values of the members with one of some names. -/
def valuesOf (members : List (String × Value)) (names : List String) : List Value :=
  (members.filter fun m => names.contains m.1).map Prod.snd

/-- A field that may be missing, but not be there twice. -/
def field {α : Type} (read : Value → Option α) (default : α) : List Value → Option α
  | [] => some default
  | [v] => read v
  | _ => none

/-- A record whose fields are found by their names in an object, or by their places in an array.
A field can have a second name. -/
def fieldsOf (names : List (List String)) : Value → Option (List (List Value))
  | .object members => some (names.map (valuesOf members))
  | .array vs =>
    if vs.length ≤ names.length then
      some (vs.map (fun v => [v]) ++ List.replicate (names.length - vs.length) [])
    else none
  | _ => none

/-- How faults are shown, as a value. -/
def Diagnostics.ofValue? (v : Value) : Option Diagnostics := do
  match ← fieldsOf [["enabled"], ["severity"]] v with
  | [enabled, severity] =>
    pure ⟨← field bool? true enabled, ← field text? "warning" severity⟩
  | _ => none

/-- The configuration a value stands for. -/
def Configuration.ofValue? (v : Value) : Option Configuration := do
  let names :=
    [["display_name_prefix"], ["include", "glob"], ["exclude", "ignore"], ["diagnostics"]]
  match ← fieldsOf names v with
  | [label, wanted, unwanted, diagnostics] =>
    pure
      { label := ← field textOrNull none label
        wanted := ← field oneOrMany [] wanted
        unwanted := ← field oneOrMany [] unwanted
        diagnostics := ← field Diagnostics.ofValue? {} diagnostics }
  | _ => none

/-- The configuration a text writes. -/
def Configuration.ofText? (text : String) : Option Configuration :=
  (Json.read text).bind Configuration.ofValue?

/-- The configuration of a file with some bytes, if there is one. -/
def Configuration.ofFile (content : Option (List UInt8)) : Configuration :=
  ((content.bind Text.ofBytes?).bind Configuration.ofText?).getD {}

/-! ## Meaning -/

/-- The label of display names. -/
def Configuration.labelOrDefault (c : Configuration) : String := c.label.getD defaultLabel

/-- The patterns of files that are unwanted in every workspace. -/
def defaultExcludes : List String :=
  ["**/node_modules", "**/node_modules/**", "**/dist", "**/dist/**", "**/build", "**/build/**",
   "**/.*", "**/.*/**"]

/-- The patterns of all unwanted files. -/
def Configuration.excludes (c : Configuration) : List String := defaultExcludes ++ c.unwanted

/-- The filter of a configuration. -/
def Configuration.filter (c : Configuration) : Except Workspace.PatternError Workspace.Filter :=
  Workspace.Filter.ofPatterns c.wanted c.excludes

end Nameplate.Settings
