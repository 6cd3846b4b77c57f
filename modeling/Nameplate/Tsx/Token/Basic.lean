/-!
# Tokens

A token is a terminal with the place where it stands, in reading positions.
-/

namespace Nameplate.Tsx

/-- A token of a source. -/
structure Token where
  /-- The number of its terminal. -/
  terminal : Nat
  start : Nat
  stop : Nat
  /-- The token is a keyword, and may be a name where the keyword is not expected. -/
  isWord : Bool := false
deriving Repr, Inhabited

end Nameplate.Tsx
