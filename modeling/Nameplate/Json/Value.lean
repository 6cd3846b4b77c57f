import Nameplate.Json.Decimal

/-!
# JSON values

Objects keep their members in the order they are written, repeated names included. Numbers that
are written as integers and fit into 64 bits are kept apart from all others.
-/

namespace Nameplate.Json

/-- A JSON value. -/
inductive Value where
  | null
  | bool (b : Bool)
  | integer (n : Int)
  /-- Any other number, by its sign and its size. -/
  | fractional (negative : Bool) (size : Binary)
  | string (s : String)
  | array (items : List Value)
  | object (members : List (String × Value))
  /-- What is written by the rules and stands for nothing: a number that is too large, a string with
  half of a character in it, or an object with such a name. -/
  | void
deriving Repr, Inhabited

namespace Value

/-- The value of the last member with a name. -/
def get? (v : Value) (name : String) : Option Value :=
  match v with
  | object members => (members.reverse.find? fun m => m.1 == name).map Prod.snd
  | _ => none

/-- The members of an object, one for each name, in the order of the names' bytes; of members with
one name the last counts. -/
def sortedMembers (members : List (String × Value)) : List (String × Value) :=
  let last := members.foldr
    (fun m found => if found.any (fun f => f.1 == m.1) then found else m :: found) []
  last.mergeSort fun a b => a.1 ≤ b.1

def ofNat (n : Nat) : Value := integer n

end Value

end Nameplate.Json
