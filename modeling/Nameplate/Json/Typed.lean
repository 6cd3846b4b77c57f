import Nameplate.Json.Mismatch

/-!
# Reading typed values

A reader turns a value into something of a type or says why it cannot.

* `text`, `boolean`, `int32`, `nat32`, `real`, `uri`: readers of single values;
* `word`: one of some words;
* `optional`, `items`, `table`: values that hold others;
* `oneOf`: a value that may be of several kinds.
-/

namespace Nameplate.Json

/-- A way to read a value. -/
abbrev Reader (α : Type) := Value → Except Mismatch α

/-! ## Single values -/

def text : Reader String
  | .string s => .ok s
  | v => .error (.kind v "a string")

def boolean : Reader Bool
  | .bool b => .ok b
  | v => .error (.kind v "a boolean")

/-- An integer of 32 bits with a sign. -/
def int32 : Reader Int
  | .integer n =>
    if -0x80000000 ≤ n && n < 0x80000000 then .ok n else .error (.outOfRange n "i32")
  | v => .error (.kind v "i32")

/-- An integer of 32 bits without a sign. -/
def nat32 : Reader Nat
  | .integer n =>
    if 0 ≤ n && n < 0x100000000 then .ok n.toNat else .error (.outOfRange n "u32")
  | v => .error (.kind v "u32")

/-- Any number. -/
def real : Reader Unit
  | .integer _ => .ok ()
  | .fractional _ _ => .ok ()
  | v => .error (.kind v "f32")

def uri : Reader Uri
  | .string s => match Uri.parse s with
    | .ok u => .ok u
    | .error e => .error (.uri e s)
  | v => .error (.kind v "a string representing an URL")

/-- Any value. -/
def anything : Reader Value := .ok

/-- Null. -/
def nothing : Reader Unit
  | .null => .ok ()
  | v => .error (.kind v "unit")

/-- One of some words, as a text or as the name of a single member that is null. -/
def word (words : List String) : Reader String
  | .string s => known s
  | .object ms => match Value.sortedMembers ms with
    | [(name, v)] => do
      let w ← known name
      nothing v
      pure w
    | _ => .error .notSingle
  | v => .error (.kind v "string or map")
where
  known (s : String) : Except Mismatch String :=
    if words.contains s then .ok s else .error (.unknownVariant s words)

/-! ## Values that hold others -/

/-- A value that may be null. -/
def optional {α : Type} (read : Reader α) : Reader (Option α)
  | .null => .ok none
  | v => (read v).map some

/-- An array of values. -/
def items {α : Type} (read : Reader α) : Reader (List α)
  | .array vs => vs.mapM read
  | v => .error (.kind v "a sequence")

/-- An object of any names, with values of one kind. -/
def table {α : Type} (read : Reader α) : Reader (List (String × α))
  | .object ms => (Value.sortedMembers ms).mapM fun m => return (m.1, ← read m.2)
  | v => .error (.kind v "a map")

/-- What is read is not looked at. -/
def checked {α : Type} (read : Reader α) : Reader Unit := fun v => (read v).map fun _ => ()

/-- A value of one of several kinds, which together have a name. -/
def oneOf (name : String) (readers : List (Reader Unit)) : Reader Unit := fun v =>
  if readers.any fun read => (read v).isOk then .ok () else .error (.noVariant name)

end Nameplate.Json
