import Nameplate.Json.Record

/-!
# Options a client starts with

The options have a version, of which only one is known, and a label for display names that goes
before the configured one.
-/

namespace Nameplate.Settings

open Json (Value Field Mismatch)

/-- The version of the options that is known. -/
def schemaVersion : Nat := 1

/-- The options of a client. -/
structure Options where
  schemaVersion : Nat
  label : Option String
deriving DecidableEq, Repr

/-- Why options are refused. -/
inductive OptionsError where
  | invalid (reason : Mismatch)
  | unsupported (found expected : Nat)
deriving Repr

/-- The error in words. -/
def OptionsError.message : OptionsError → String
  | invalid reason => "Invalid initialization options: " ++ reason.message
  | unsupported found expected =>
    "Unsupported capability schema version " ++ toString found ++ " (expected " ++
      toString expected ++ ")"

/-- The options a value stands for, of any version. -/
def Options.read (v : Value) : Except Mismatch Options := do
  let ms ← Json.members "InitializationOptions"
    [.of "schemaVersion" Json.nat32,
     .of "identificationPrefix" (Json.optional Json.text) .defaulted] .refused v
  pure
    { schemaVersion := ← Json.nat32 (Json.valueOf ms "schemaVersion")
      label := ← Json.optional Json.text (Json.valueOf ms "identificationPrefix") }

/-- The options a client gives, if any. -/
def Options.ofValue : Option Value → Except OptionsError (Option Options)
  | none => .ok none
  | some .null => .ok none
  | some v =>
    match Options.read v with
    | .error reason => .error (.invalid reason)
    | .ok o =>
      if o.schemaVersion = Settings.schemaVersion then .ok (some o)
      else .error (.unsupported o.schemaVersion Settings.schemaVersion)

end Nameplate.Settings
