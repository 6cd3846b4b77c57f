import Nameplate.Json.Typed

/-!
# Records

A record is an object, or an array of its fields in their order. The members of an object are
looked at in the order of their names, and the first one that cannot be read is reported; fields
that are missing are reported behind all that are there.

A record may share parts with others. It is an object then, and its parts are read behind its own
fields, each as if it stood alone.

* `Field`, `Presence`: the fields of a record;
* `members`, `record`: a record without parts, read and checked;
* `keyedMembers`, `keyedRecord`: a record with parts, read and checked.
-/

namespace Nameplate.Json

/-- When a field may be left out: never, in an object, or in an array too. -/
inductive Presence where
  | required
  | optional
  | defaulted
deriving DecidableEq, Repr

/-- A field of a record. -/
structure Field where
  name : String
  check : Value → Except Mismatch Unit
  presence : Presence := .required

/-- A field that is read in some way. -/
def Field.of {α : Type} (name : String) (read : Reader α) (presence : Presence := .required) :
    Field :=
  ⟨name, checked read, presence⟩

/-- A field that may be null, and may be left out of an object. -/
def Field.optional {α : Type} (name : String) (read : Reader α) : Field :=
  .of name (Json.optional read) .optional

/-- What a record does with members that are not among its fields. -/
inductive Unknown where
  | ignored
  | refused
deriving DecidableEq, Repr

/-- The members of a record in an array, behind `n` others; `length` is that of the whole array. -/
def fromArray (record : String) (count length : Nat) :
    Nat → List Field → List Value → Except Mismatch (List (String × Value))
  | _, [], [] => .ok []
  | _, [], _ :: _ => .error (.tooLong length count)
  | n, f :: fields, [] =>
    if f.presence = .defaulted then fromArray record count length n fields []
    else .error (.tooShort n record count)
  | n, f :: fields, v :: vs => do
    f.check v
    pure ((f.name, v) :: (← fromArray record count length (n + 1) fields vs))

/-- Checks the members of an object in their order. -/
def checkMembers (fields : List Field) (unknown : Unknown) :
    List (String × Value) → Except Mismatch Unit
  | [] => .ok ()
  | (name, v) :: rest => do
    match fields.find? fun f => f.name == name with
    | some f => f.check v
    | none =>
      if unknown = .refused then throw (.unknownField name (fields.map Field.name))
    checkMembers fields unknown rest

/-- Reports the first field that is required and missing. -/
def checkMissing (members : List (String × Value)) : List Field → Except Mismatch Unit
  | [] => .ok ()
  | f :: fields =>
    if f.presence = .required && !members.any (fun m => m.1 == f.name) then
      .error (.missingField f.name)
    else checkMissing members fields

/-- The members of a record that is an object. -/
def fromObject (fields : List Field) (unknown : Unknown) (members : List (String × Value)) :
    Except Mismatch (List (String × Value)) := do
  let members := Value.sortedMembers members
  checkMembers fields unknown members
  checkMissing members fields
  pure members

/-- The members of a record. -/
def members (record : String) (fields : List Field) (unknown : Unknown := .ignored) :
    Reader (List (String × Value))
  | .object ms => fromObject fields unknown ms
  | .array vs => fromArray record fields.length vs.length 0 fields vs
  | v => .error (.kind v ("struct " ++ record))

/-- A record without parts. -/
def record (name : String) (fields : List Field) : Reader Unit :=
  checked (members name fields .ignored)

/-- A mismatch inside of a part. -/
def Mismatch.ofPart : Mismatch → Mismatch
  | tooLong found fields => surplus found fields
  | m => m

/-- The members of a record with parts. -/
def keyedMembers (record : String) (fields : List Field) (parts : List (List Field)) :
    Reader (List (String × Value))
  | .object ms => do
    let ms ← fromObject fields .ignored ms
    parts.forM fun part => ((fromObject part .ignored ms).map fun _ => ()).mapError .ofPart
    pure ms
  | v => .error (.kind v ("struct " ++ record))

/-- A record with parts. -/
def keyedRecord (name : String) (fields : List Field) (parts : List (List Field)) : Reader Unit :=
  checked (keyedMembers name fields parts)

/-- The value of a member, null if there is none. -/
def valueOf (members : List (String × Value)) (name : String) : Value :=
  ((members.find? fun m => m.1 == name).map Prod.snd).getD .null

end Nameplate.Json
