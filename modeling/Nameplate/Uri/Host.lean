import Nameplate.Text.Bytes
import Nameplate.Text.Split
import Nameplate.Uri.Domain.Basic
import Nameplate.Uri.Percent

/-!
# Hosts

The host of a URI: a domain, an IPv4 or an IPv6 address. Domains are written in their normal form,
IPv4 addresses with four decimal numbers, IPv6 addresses with the longest run of zeros left out.
-/

namespace Nameplate.Uri

open Text (splitOn ofBytes?)

/-- Why a text is no URI. -/
inductive Error where
  | relative
  | emptyHost
  | port
  | ipv4
  | ipv6
  | domain
  | domainCharacter
deriving DecidableEq, Repr

/-- The error in words. -/
def Error.message : Error → String
  | relative => "relative URL without a base"
  | emptyHost => "empty host"
  | port => "invalid port number"
  | ipv4 => "invalid IPv4 address"
  | ipv6 => "invalid IPv6 address"
  | domain => "invalid international domain name"
  | domainCharacter => "invalid domain character"

/-! ## IPv4 -/

/-- The digits of a base make up a number. -/
def numberIn (base : Nat) (digits : List Char) : Option Nat :=
  digits.foldlM (fun n c => do
    let d ← hexValue c
    if d < base then some (n * base + d) else none) 0

/-- A number of an IPv4 address: decimal, octal behind `0`, hexadecimal behind `0x`. -/
def ipv4Number (part : List Char) : Option Nat :=
  match part with
  | [] => none
  | '0' :: 'x' :: digits => numberIn 16 digits
  | '0' :: 'X' :: digits => numberIn 16 digits
  | ['0'] => some 0
  | '0' :: digits => numberIn 8 digits
  | digits => numberIn 10 digits

/-- The labels of a domain, without the empty one behind a final dot. -/
def labels (domain : List Char) : List (List Char) :=
  let parts := splitOn '.' domain
  if parts.length > 1 && parts.getLast? == some [] then parts.dropLast else parts

/-- A domain whose last label is a number is an IPv4 address. -/
def endsInNumber (domain : List Char) : Bool :=
  match (labels domain).getLast? with
  | some last =>
    !last.isEmpty && (last.all (fun c => '0' ≤ c && c ≤ '9') ||
      (last.take 2 == ['0', 'x'] || last.take 2 == ['0', 'X']) && (ipv4Number last).isSome)
  | none => false

/-- The value of an IPv4 address. -/
def ipv4Value (domain : List Char) : Option Nat := do
  let parts := labels domain
  guard (parts.length ≤ 4)
  let numbers ← parts.mapM ipv4Number
  let last ← numbers.getLast?
  let front := numbers.dropLast
  guard (front.all (· < 256))
  guard (last < Nat.pow 256 (5 - numbers.length))
  pure (front.zipIdx.foldl (fun value (n, i) => value + n * Nat.pow 256 (3 - i)) last)

/-- An IPv4 address in four decimal numbers. -/
def ipv4Text (n : Nat) : List Char :=
  let bytes := [n / 0x1000000, n / 0x10000 % 256, n / 256 % 256, n % 256]
  (".".intercalate (bytes.map toString)).toList

/-! ## IPv6 -/

/-- The groups of one side of an IPv6 address; the last one may be an IPv4 address. -/
def ipv6Groups (final : Bool) : List (List Char) → Option (List Nat)
  | [] => some []
  | [part] =>
    if final && part.contains '.' then do
      let parts := splitOn '.' part
      guard (parts.length == 4)
      let ns ← parts.mapM fun p => do
        guard (!p.isEmpty && (p.length == 1 || p.head? != some '0'))
        let n ← numberIn 10 p
        guard (n < 256)
        pure n
      match ns with
      | [a, b, c, d] => some [a * 256 + b, c * 256 + d]
      | _ => none
    else do
      guard (!part.isEmpty && part.length ≤ 4)
      pure [← numberIn 16 part]
  | part :: rest => do
    guard (!part.isEmpty && part.length ≤ 4)
    pure ((← numberIn 16 part) :: (← ipv6Groups final rest))

/-- The two sides of `::`, or one side alone. -/
def splitDouble : List Char → List Char → List Char × Option (List Char)
  | seen, [] => (seen.reverse, none)
  | seen, ':' :: ':' :: rest => (seen.reverse, some rest)
  | seen, c :: rest => splitDouble (c :: seen) rest

/-- The groups of a side that may be empty. -/
def sideGroups (final : Bool) (side : List Char) : Option (List Nat) :=
  if side.isEmpty then some [] else ipv6Groups final (splitOn ':' side)

/-- The eight groups of an IPv6 address. -/
def ipv6Value (text : List Char) : Option (List Nat) := do
  match splitDouble [] text with
  | (left, none) =>
    let groups ← ipv6Groups true (splitOn ':' left)
    guard (groups.length == 8)
    pure groups
  | (left, some right) =>
    guard ((splitDouble [] right).2.isNone && right.head? != some ':')
    let a ← sideGroups false left
    let b ← sideGroups true right
    guard (a.length + b.length < 8)
    pure (a ++ List.replicate (8 - a.length - b.length) 0 ++ b)

/-- The length of the run of zeros at the start of a list. -/
def zeroRun (groups : List Nat) : Nat := (groups.takeWhile (· == 0)).length

/-- The first of the longest runs of at least two zeros: where it starts and how long it is. -/
def longestZeroRun (groups : List Nat) : Option (Nat × Nat) :=
  let runs := (List.range groups.length).map fun i => (i, zeroRun (groups.drop i))
  let best := runs.foldl (fun (b : Nat × Nat) r => if b.2 < r.2 then r else b) (0, 0)
  if best.2 < 2 then none else some best

/-- Groups in hexadecimal with colons between them. -/
def groupsText (groups : List Nat) : String :=
  ":".intercalate (groups.map fun n => String.ofList (Nat.toDigits 16 n))

/-- An IPv6 address in brackets. -/
def ipv6Text (groups : List Nat) : List Char :=
  let inner := match longestZeroRun groups with
    | none => groupsText groups
    | some (i, n) => groupsText (groups.take i) ++ "::" ++ groupsText (groups.drop (i + n))
  ("[" ++ inner ++ "]").toList

/-! ## Hosts -/

/-- Characters no host may contain. -/
def isForbidden (c : Char) : Bool :=
  c == '\x00' || c == '\t' || c == '\n' || c == '\r' || " #/:<>?@[\\]^|".toList.contains c

/-- Characters no domain may contain. -/
def isForbiddenInDomain (c : Char) : Bool :=
  isForbidden c || isControl c || c == '%'

/-- An address in brackets. -/
def bracketed (text : List Char) : Except Error (List Char) :=
  if text.getLast? == some ']' then
    match ipv6Value (text.drop 1).dropLast with
    | some groups => .ok (ipv6Text groups)
    | none => .error .ipv6
  else .error .ipv6

/-- The host of a scheme that belongs to the web. -/
def webHost (text : List Char) : Except Error (List Char) :=
  if text.head? == some '[' then bracketed text
  else match (ofBytes? (decode text)).bind fun s => Domain.toAscii? s.toList with
    | none => .error .domain
    | some domain =>
      if domain.any isForbiddenInDomain then .error .domain
      else if domain.isEmpty then .error .emptyHost
      else if endsInNumber domain then
        match ipv4Value domain with
        | some n => .ok (ipv4Text n)
        | none => .error .ipv4
      else .ok domain

/-- The host of any other scheme. -/
def opaqueHost (text : List Char) : Except Error (List Char) :=
  if text.head? == some '[' then bracketed text
  else if text.any isForbidden then .error .domainCharacter
  else .ok (encode inControls text)

end Nameplate.Uri
