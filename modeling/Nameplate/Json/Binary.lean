/-!
# Binary numbers of 53 digits

The numbers `digits * 2 ^ exponent` with at most 53 binary digits, down to `2 ^ -1074`. Results of
arithmetic are rounded to the nearest such number, a tie going to the even one.

* `Binary.nearest`: the number nearest to a quotient;
* `Binary.times`, `Binary.divide`: product and quotient;
* `Binary.shortest`: the fewest decimal digits that are nearer to a number than to any other.
-/

namespace Nameplate.Json

/-- The number `digits * 2 ^ exponent`. -/
structure Binary where
  digits : Nat
  exponent : Int
deriving DecidableEq, Repr, Inhabited

/-- A quotient rounded to the nearest integer, a tie to the even one. -/
def roundDiv (num den : Nat) : Nat :=
  let q := num / den
  let r := num % den
  if 2 * r < den then q
  else if den < 2 * r then q + 1
  else if q % 2 = 0 then q else q + 1

/-- A quotient times a power of a base. -/
def scale (base : Nat) (e : Int) (num den : Nat) : Nat × Nat :=
  if 0 ≤ e then (num * Nat.pow base e.toNat, den) else (num, den * Nat.pow base (-e).toNat)

namespace Binary

/-- The exponent of the smallest number. -/
def leastExponent : Int := -1074

/-- The exponent of the largest numbers. -/
def greatestExponent : Int := 971

/-- The exponent of the lowest digit that is kept: 53 digits, unless the number is very small. -/
def lowest (num den : Nat) : Int :=
  let guess : Int := (Nat.log2 num : Int) - Nat.log2 den - 52
  let (n, d) := scale 2 (-guess) num den
  let exact := if n < d * Nat.pow 2 52 then guess - 1 else guess
  if exact < leastExponent then leastExponent else exact

/-- The number nearest to a quotient. -/
def nearest (num den : Nat) : Binary :=
  let q := lowest num den
  let (n, d) := scale 2 (-q) num den
  let m := roundDiv n d
  if m = Nat.pow 2 53 then ⟨Nat.pow 2 52, q + 1⟩ else ⟨m, q⟩

/-- The number nearest to an integer. -/
def ofNat (n : Nat) : Binary := nearest n 1

/-- The number is larger than every number there is. -/
def isInfinite (b : Binary) : Bool := greatestExponent < b.exponent

/-- A number as a quotient. -/
def quotient (b : Binary) : Nat × Nat := scale 2 b.exponent b.digits 1

/-- The product of two numbers, rounded. -/
def times (b c : Binary) : Binary :=
  let (n, d) := b.quotient
  let (m, e) := c.quotient
  nearest (n * m) (d * e)

/-- The quotient of two numbers, rounded. -/
def divide (b c : Binary) : Binary :=
  let (n, d) := b.quotient
  let (m, e) := c.quotient
  nearest (n * e) (d * m)

/-! ## Decimal digits -/

/-- Whether a quotient lies in the interval of those to which a number is the nearest. Its ends are
half a step away, on the lower side a quarter where the steps get smaller; they belong to it if
the digits are even. -/
def rounds (b : Binary) (num den : Nat) : Bool :=
  let (n, d) := scale 2 (-b.exponent) num den
  let lo :=
    if b.digits = Nat.pow 2 52 && b.exponent > leastExponent then 4 * b.digits - 1
    else 4 * b.digits - 2
  let hi := 4 * b.digits + 2
  if b.digits % 2 = 0 then lo * d ≤ 4 * n && 4 * n ≤ hi * d
  else lo * d < 4 * n && 4 * n < hi * d

/-- The multiple of `10 ^ p` by which a number can be shown, the nearer one of two. -/
def onGrid (b : Binary) (p : Int) : Option Nat :=
  let (n, d) := b.quotient
  let (n, d) := scale 10 (-p) n d
  let below := n / d
  let fits (k : Nat) : Bool :=
    let (kn, kd) := scale 10 p k 1
    b.rounds kn kd
  match fits below, fits (below + 1) with
  | true, true => some (if 2 * (n % d) ≤ d then below else below + 1)
  | true, false => some below
  | false, true => some (below + 1)
  | false, false => none

/-- The first grid from `10 ^ p` down, among `fuel` of them, that shows a number. -/
def search (b : Binary) : Nat → Int → Nat × Int
  | 0, p => (0, p)
  | fuel + 1, p =>
    match b.onGrid p with
    | some k => if k = 0 then search b fuel (p - 1) else (k, p)
    | none => search b fuel (p - 1)

/-- The fewest decimal digits that show a number, with the power of ten of the last one. -/
def shortest (b : Binary) : Nat × Int :=
  let (n, d) := b.quotient
  search b 700 ((Nat.log2 (n / d + 1) : Int) / 3 + 2)

end Binary

end Nameplate.Json
