import Discovery.Number.Binary64
import Discovery.Text.Numeral
import Discovery.Text.WhiteSpace

/-!
# Decimal numbers as text

`Decimal.read?` reads a decimal number: a sign or none, digits with a point among them or none (one
digit at least), and an exponent or none. `finite?` is the binary64 number that a text denotes, white
space around it dropped, if it denotes one and that one is finite.
-/

namespace Discovery

/-- A decimal number: a sign, and digits times a power of ten. -/
structure Decimal where
  negative : Bool
  digits : Nat
  exponent : Int
deriving Repr, DecidableEq

namespace Decimal

/-- Splits a sign from what follows it: is it a minus? -/
def readSign : List Char → Bool × List Char
  | '+' :: rest => (false, rest)
  | '-' :: rest => (true, rest)
  | rest => (false, rest)

/-- Reads an exponent, or nothing, at the end of a number. -/
def readExponent? : List Char → Option Int
  | [] => some 0
  | mark :: rest =>
    if mark = 'e' ∨ mark = 'E' then
      let (negative, digits) := readSign rest
      if digits ≠ [] ∧ digits.all Char.isDigit then
        some (if negative then -(Text.digitsValue digits : Int) else Text.digitsValue digits)
      else none
    else none

/-- Splits a point and the digits after it from what follows; no point means no digits. -/
def readPlaces : List Char → List Char × List Char
  | '.' :: rest => (rest.takeWhile Char.isDigit, rest.dropWhile Char.isDigit)
  | rest => ([], rest)

def read? (cs : List Char) : Option Decimal :=
  let (negative, rest) := readSign cs
  let whole := rest.takeWhile Char.isDigit
  let (places, rest) := readPlaces (rest.dropWhile Char.isDigit)
  -- a point alone is no number
  if whole ++ places = [] then none
  else
    (readExponent? rest).map fun exponent =>
      ⟨negative, Text.digitsValue (whole ++ places), exponent - places.length⟩

/-- The power of ten that lies just above the number. -/
def magnitude (d : Decimal) : Int :=
  (Nat.toDigits 10 d.digits).length + d.exponent

/-- The size of the nearest binary64 number in units, if that is finite. What has a magnitude above
309 is too large, and what has one below -323 rounds to zero, so that no larger powers are formed. -/
def size? (d : Decimal) : Option Nat :=
  if d.digits = 0 then some 0
  else if 309 < d.magnitude then none
  else if d.magnitude < -323 then some 0
  else
    match d.exponent with
    -- the two bounds above keep the powers of ten small
    | .ofNat e => Binary64.ofFraction? (d.digits * Nat.pow 10 e) 1
    | .negSucc e => Binary64.ofFraction? d.digits (Nat.pow 10 (e + 1))

/-- The nearest binary64 number as a signed count of units, if that is finite. -/
def round? (d : Decimal) : Option Int :=
  d.size?.map fun size => if d.negative then -(size : Int) else size

end Decimal

/-- The finite binary64 number that a text denotes, as a signed count of units. -/
def finite? (s : String) : Option Int :=
  (Decimal.read? (Text.trimChars s.toList)).bind Decimal.round?

end Discovery
