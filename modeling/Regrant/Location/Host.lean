import Regrant.Number.Decimal
import Regrant.Document
import Regrant.Location.Percent

/-!
# Hosts of locations

Which texts may stand for the host of a location.  Locations of the web and of files resolve their
host, so it may be a domain or an address of either version; any other host is opaque.
-/

namespace Regrant.Location

/-! ### Addresses -/

/-- Parts between the characters `c`. -/
def splitAt (c : Char) : List Char → List (List Char)
  | [] => [[]]
  | d :: ds =>
    if d = c then [] :: splitAt c ds
    else match splitAt c ds with
      | part :: parts => (d :: part) :: parts
      | [] => [[d]]

/-- A part of an address of version 4: decimal, octal after `0`, hexadecimal after `0x`. -/
def ipv4Part? (cs : List Char) : Option Nat :=
  match cs with
  | [] => none
  | '0' :: x :: ds =>
    if x = 'x' ∨ x = 'X' then (if ds.isEmpty then some 0 else Plain.natOfBase? 16 ds)
    else Plain.natOfBase? 8 (x :: ds)
  | ds => natOfDigits? ds

/-- The parts of an address, without the empty one behind a final dot. -/
def ipv4Parts (cs : List Char) : List (List Char) :=
  let parts := splitAt '.' cs
  if 1 < parts.length ∧ parts.getLast? = some [] then parts.dropLast else parts

/-- A domain that ends like this has to be an address of version 4. -/
def endsInNumber (cs : List Char) : Bool :=
  match (ipv4Parts cs).getLast? with
  | some last => !last.isEmpty && (last.all Char.isDigit || (ipv4Part? last).isSome)
  | none => false

def isIpv4 (cs : List Char) : Bool :=
  match (ipv4Parts cs).mapM ipv4Part? with
  | some ns =>
    match ns.reverse with
    | last :: before =>
      ns.length ≤ 4 && before.all (· < 256) && last < 1 <<< (8 * (5 - ns.length))
    | [] => false
  | none => false

/-- Four decimal numbers below 256, as they may end an address of version 6. -/
def isDotted (cs : List Char) : Bool :=
  let parts := splitAt '.' cs
  parts.length == 4 && parts.all fun p =>
    (p.length == 1 || p.head? != some '0') &&
      (match natOfDigits? p with
        | some n => n < 256
        | none => false)

/-- How many 16-bit groups stand between colons, if all are well formed. -/
def ipv6Groups? : List (List Char) → Option Nat
  | [] => some 0
  | [last] =>
    if isDotted last then some 2
    else if last.length ≤ 4 && (Plain.natOfBase? 16 last).isSome then some 1 else none
  | p :: rest =>
    if p.length ≤ 4 && (Plain.natOfBase? 16 p).isSome then (ipv6Groups? rest).map (· + 1) else none

/-- What stands before and after the first `::`. -/
def splitGap : List Char → Option (List Char × List Char)
  | ':' :: ':' :: rest => some ([], rest)
  | c :: rest => (splitGap rest).map (fun (a, b) => (c :: a, b))
  | [] => none

def groups? (cs : List Char) : Option Nat :=
  if cs.isEmpty then some 0 else ipv6Groups? (splitAt ':' cs)

/-- Eight groups, or fewer around one gap. -/
def isIpv6 (cs : List Char) : Bool :=
  match splitGap cs with
  | some (before, after) =>
    !(before.contains '.') && match groups? before, groups? after with
    | some m, some n => m + n < 8
    | _, _ => false
  | none => groups? cs == some 8

/-! ### Hosts -/

def isControl (c : Char) : Bool := c.toNat < 0x20 || c.toNat = 0x7f

/-- Characters that no host may hold. -/
def isForbidden (c : Char) : Bool :=
  c.toNat = 0 || ['\t', '\n', '\r', ' ', '#', '/', ':', '<', '>', '?', '@', '[', '\\', ']', '^',
    '|'].contains c

/-- Characters that no domain may hold. -/
def isForbiddenInDomain (c : Char) : Bool := isForbidden c || isControl c || c = '%'

/-- A host in brackets is an address of version 6. -/
def bracketed? : List Char → Option Bool
  | '[' :: cs => some (cs.getLast? == some ']' && isIpv6 cs.dropLast)
  | _ => none

def isOpaqueHost (cs : List Char) : Bool :=
  (bracketed? cs).getD (!cs.any isForbidden)

/-- A host that is resolved. -/
def isDomain (cs : List Char) : Bool :=
  (bracketed? cs).getD <|
    match decodeText? (percentDecode cs) with
    | none => false
    | some s => !s.isEmpty && !s.toList.any isForbiddenInDomain &&
      (!endsInNumber s.toList || isIpv4 s.toList)

end Regrant.Location
