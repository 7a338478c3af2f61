/-!
# Sets of characters as ranges

A Unicode property is a set of code points, written as the list of its ranges in ascending order.
`CharRanges.holds` looks a character up and stops at the first range that begins above it, so a
character of a low code point costs a few steps whatever the length of the list.
-/

namespace Discovery.Text

/-- A set of characters, as ranges of code points (both ends included) in ascending order. -/
abbrev CharRanges := List (Nat × Nat)

def CharRanges.holdsCode : CharRanges → Nat → Bool
  | [], _ => false
  | (low, high) :: more, code =>
    if code < low then false else code ≤ high || CharRanges.holdsCode more code

def CharRanges.holds (ranges : CharRanges) (c : Char) : Bool :=
  ranges.holdsCode c.toNat

end Discovery.Text
