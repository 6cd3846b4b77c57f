import Nameplate.Json.Binary

/-!
# Numbers in decimal notation

A number that is not written as an integer of 64 bits counts as a binary number of 53 digits. It is
found in a few rounded steps: as many of its digits as fit into 64 bits are taken as an integer,
which is multiplied with a power of ten or divided by one. So it need not be the nearest one.

It is shown by the fewest decimal digits that stand for it: with a point as long as the point is not
far from the digits, and with an exponent otherwise.

* `gather`: the digits that are taken;
* `Binary.ofDecimal?`: the number for some digits and a power of ten;
* `Binary.text`: a number as it is shown.
-/

namespace Nameplate.Json

/-! ## Reading -/

/-- The first number that does not fit into 64 bits. -/
def wordLimit : Nat := 0x10000000000000000

/-- Appends digits to a number as long as it fits into 64 bits, and counts them. -/
def gather (n : Nat) : List Char → Nat × Nat
  | [] => (n, 0)
  | c :: cs =>
    let next := n * 10 + (c.toNat - '0'.toNat)
    if next < wordLimit then
      let (found, count) := gather next cs
      (found, count + 1)
    else (n, 0)

/-- The largest power of ten that divides or multiplies in one step. -/
def largestPower : Nat := 308

namespace Binary

/-- The number nearest to a power of ten. -/
def powerOfTen (e : Nat) : Binary := ofNat (Nat.pow 10 e)

/-- A number divided by a power of ten, in steps. -/
def shrink (b : Binary) (e : Nat) : Binary :=
  if e ≤ largestPower then b.divide (powerOfTen e)
  else if b.digits = 0 then b
  else shrink (b.divide (powerOfTen largestPower)) (e - largestPower)
termination_by e
decreasing_by simp [largestPower] at *; omega

/-- The number for an integer times a power of ten, unless it is too large. -/
def ofDecimal? (n : Nat) (e : Int) : Option Binary :=
  let b := ofNat n
  if e < 0 then some (b.shrink (-e).toNat)
  else if e.toNat ≤ largestPower then
    let product := b.times (powerOfTen e.toNat)
    if product.isInfinite then none else some product
  else if b.digits = 0 then some b
  else none

/-! ## Showing -/

/-- Digits with a point in front of the last `places` of them. -/
def pointed (digits : List Char) (places : Nat) : String :=
  let padded := List.replicate (places + 1 - digits.length) '0' ++ digits
  String.ofList (padded.take (padded.length - places)) ++ "." ++
    String.ofList (padded.drop (padded.length - places))

/-- Digits with an exponent, behind the first of them. -/
def scientific (digits : List Char) (e : Int) : String :=
  let mantissa := match digits with
    | [] => ""
    | [d] => String.ofList [d]
    | d :: rest => String.ofList (d :: '.' :: rest)
  mantissa ++ "e" ++ (if e < 0 then "-" else "+") ++ toString e.natAbs

/-- The places of the point, counted from the first digit, at which a number is shown without an
exponent. -/
def isPositional (point : Int) : Bool := -5 < point && point ≤ 16

/-- A number as it is shown. -/
def text (b : Binary) : String :=
  if b.digits = 0 then "0.0"
  else
    let (n, p) := b.shortest
    let digits := Nat.toDigits 10 n
    let point : Int := digits.length + p
    if !isPositional point then scientific digits (point - 1)
    else if 0 ≤ p then String.ofList (digits ++ List.replicate p.toNat '0') ++ ".0"
    else pointed digits (-p).toNat

end Binary

end Nameplate.Json
