import Discovery.Text.Cut
import Discovery.Text.Numeral
import Discovery.Text.Quoted

/-!
# Socket addresses

An address to listen at is an IP address and a port. The text of one of version 4 is four decimal
numbers with points between them, a colon and the port; of version 6, the address between brackets,
which a scope may follow, a colon and the port.

`read?` reads every spelling of an address: the groups of version 6 with up to four digits, two colons
for a run of zeros, and the last two groups as an address of version 4. `text` writes the shortest:
the longest run of zeros, the first of equals, is left out if it has two groups or more.
-/

namespace Discovery

/-- An address of version 4. -/
structure IPv4 where
  a : UInt8
  b : UInt8
  c : UInt8
  d : UInt8
deriving Repr, DecidableEq

/-- An IP address with a port. -/
inductive SocketAddress where
  | v4 (address : IPv4) (port : UInt16)
  /-- Eight groups of sixteen bits, with a scope or zero. -/
  | v6 (groups : List UInt16) (scope : UInt32) (port : UInt16)
deriving Repr, DecidableEq

namespace SocketAddress

/-! ## Reading -/

/-- Reads all digits that follow as a number below the bound. There have to be some, no more than
`most` of them, and a zero before others only if that is allowed. -/
def readNumber? (radix bound : Nat) (most : Option Nat) (zeroFirst : Bool) (cs : List Char) :
    Option (Nat × List Char) :=
  let digits := cs.takeWhile fun c => (Text.digit? radix c).isSome
  let short := match most with
    | none => true
    | some most => digits.length ≤ most
  let led := !zeroFirst && digits.head? = some '0' && 1 < digits.length
  if digits = [] || !short || led then none
  else
    match Text.readDigits radix bound 0 digits with
    | .ok n => some (n, cs.drop digits.length)
    | .error _ => none

def readOctet? (cs : List Char) : Option (UInt8 × List Char) :=
  (readNumber? 10 256 (some 3) false cs).map fun (n, rest) => (UInt8.ofNat n, rest)

def readIPv4? (cs : List Char) : Option (IPv4 × List Char) := do
  let (a, cs) ← readOctet? cs
  let (b, cs) ← readOctet? (← Text.readMark? '.' cs)
  let (c, cs) ← readOctet? (← Text.readMark? '.' cs)
  let (d, cs) ← readOctet? (← Text.readMark? '.' cs)
  return (⟨a, b, c, d⟩, cs)

/-- Reads a colon and a port at the end of a text. -/
def readPort? (cs : List Char) : Option UInt16 := do
  let cs ← Text.readMark? ':' cs
  let (port, cs) ← readNumber? 10 UInt16.size none true cs
  if cs = [] then some (UInt16.ofNat port) else none

/-- An address of version 4 as two groups. -/
def groupsOfIPv4 (address : IPv4) : List UInt16 :=
  [UInt16.ofNat (address.a.toNat * 256 + address.b.toNat),
    UInt16.ofNat (address.c.toNat * 256 + address.d.toNat)]

/-- Groups that were read, whether an address of version 4 ends them, and what follows. -/
structure Groups where
  groups : List UInt16
  endsInIPv4 : Bool
  rest : List Char

/-- Reads groups with colons between them, as many as there are and no more than `left`; the last two
may be an address of version 4. -/
def readGroups : (left : Nat) → (isFirst : Bool) → List Char → Groups
  | 0, _, cs => ⟨[], false, cs⟩
  | left + 1, isFirst, cs =>
    match if isFirst then some cs else Text.readMark? ':' cs with
    | none => ⟨[], false, cs⟩
    | some start =>
      match if left = 0 then none else readIPv4? start with
      | some (address, rest) => ⟨groupsOfIPv4 address, true, rest⟩
      | none =>
        match readNumber? 16 UInt16.size (some 4) true start with
        | none => ⟨[], false, cs⟩
        | some (group, rest) =>
          let later := readGroups left false rest
          { later with groups := UInt16.ofNat group :: later.groups }

/-- Reads an address of version 6: eight groups, or fewer around two colons. -/
def readIPv6? (cs : List Char) : Option (List UInt16 × List Char) :=
  let front := readGroups 8 true cs
  if front.groups.length = 8 then some (front.groups, front.rest)
  -- an address of version 4 can stand at the very end only
  else if front.endsInIPv4 then none
  else do
    let cs ← Text.readMark? ':' front.rest
    let cs ← Text.readMark? ':' cs
    let back := readGroups (7 - front.groups.length) true cs
    let zeros := 8 - front.groups.length - back.groups.length
    return (front.groups ++ List.replicate zeros 0 ++ back.groups, back.rest)

/-- Reads a scope, or zero if there is none. -/
def readScope (cs : List Char) : Nat × List Char :=
  match (Text.readMark? '%' cs).bind (readNumber? 10 UInt32.size none true) with
  | some scope => scope
  | none => (0, cs)

/-- Reads an address of version 4 with its port. -/
def readV4? (cs : List Char) : Option SocketAddress := do
  let (address, cs) ← readIPv4? cs
  let port ← readPort? cs
  return .v4 address port

/-- Reads an address of version 6 with its scope and port. -/
def readV6? (cs : List Char) : Option SocketAddress := do
  let cs ← Text.readMark? '[' cs
  let (groups, cs) ← readIPv6? cs
  let (scope, cs) := readScope cs
  let cs ← Text.readMark? ']' cs
  let port ← readPort? cs
  return .v6 groups (UInt32.ofNat scope) port

def read? (s : String) : Option SocketAddress :=
  (readV4? s.toList).or (readV6? s.toList)

/-! ## Writing -/

def textOfIPv4 (address : IPv4) : String :=
  ".".intercalate ([address.a, address.b, address.c, address.d].map fun n => toString n.toNat)

/-- The length of the run of zeros that groups begin with. -/
def leadingZeros (groups : List UInt16) : Nat :=
  (groups.takeWhile (· = 0)).length

/-- Where the longest run of zeros begins and how long it is, the first of equals; `place` is where
the groups stand. -/
def longestZeros (place : Nat) : List UInt16 → Nat × Nat
  | [] => (place, 0)
  | group :: rest =>
    let here := leadingZeros (group :: rest)
    let later := longestZeros (place + 1) rest
    if later.2 ≤ here then (place, here) else later

/-- Groups in hexadecimal with colons between them. -/
def textOfGroups (groups : List UInt16) : String :=
  ":".intercalate (groups.map fun group => String.ofList (Text.hexDigits group.toNat))

def textOfIPv6 (groups : List UInt16) : String :=
  match groups with
  | [0, 0, 0, 0, 0, 0xffff, high, low] =>
    "::ffff:" ++ textOfIPv4
      ⟨(high / 256).toUInt8, high.toUInt8, (low / 256).toUInt8, low.toUInt8⟩
  | groups =>
    let (place, length) := longestZeros 0 groups
    if 1 < length then
      textOfGroups (groups.take place) ++ "::" ++ textOfGroups (groups.drop (place + length))
    else textOfGroups groups

def text : SocketAddress → String
  | .v4 address port => textOfIPv4 address ++ ":" ++ toString port.toNat
  | .v6 groups scope port =>
    let zone := if scope = 0 then "" else "%" ++ toString scope.toNat
    "[" ++ textOfIPv6 groups ++ zone ++ "]:" ++ toString port.toNat

end SocketAddress

end Discovery
