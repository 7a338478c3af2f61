/-!
# Whole numbers as text

Indexes, ports, slots and character references are written as whole numbers. `readNumeral` reads
one in a given radix that has to stay below a given bound: digits, which a plus sign may precede.

The first character that decides against a text decides why: the digits are read from the left, and
one that is no digit is reported unless the number was already too large before it.
-/

namespace Discovery.Text

/-- Why a text is no whole number. -/
inductive NumeralError where
  /-- There is nothing to read. -/
  | empty
  /-- A character is no digit, or there are none after the sign. -/
  | invalidDigit
  /-- The number reaches the bound. -/
  | tooLarge
deriving Repr, DecidableEq

def NumeralError.message : NumeralError → String
  | .empty => "cannot parse integer from empty string"
  | .invalidDigit => "invalid digit found in string"
  | .tooLarge => "number too large to fit in target type"

/-- The number that decimal digits write. -/
def digitsValue (digits : List Char) : Nat :=
  digits.foldl (fun n c => n * 10 + (c.toNat - '0'.toNat)) 0

/-- The value of an ASCII digit or letter as a digit of the radix. -/
def digit? (radix : Nat) (c : Char) : Option Nat :=
  let value? :=
    if '0' ≤ c ∧ c ≤ '9' then some (c.toNat - '0'.toNat)
    else if 'a' ≤ c ∧ c ≤ 'z' then some (c.toNat - 'a'.toNat + 10)
    else if 'A' ≤ c ∧ c ≤ 'Z' then some (c.toNat - 'A'.toNat + 10)
    else none
  value?.filter (· < radix)

/-- Reads digits onto the number read so far. -/
def readDigits (radix bound : Nat) : Nat → List Char → Except NumeralError Nat
  | read, [] => .ok read
  | read, c :: rest =>
    match digit? radix c with
    | none => .error .invalidDigit
    | some d =>
      if read * radix + d < bound then readDigits radix bound (read * radix + d) rest
      else .error .tooLarge

/-- Reads a whole number below the bound: at least one digit, after a plus sign or none. -/
def readNumeral (radix bound : Nat) : List Char → Except NumeralError Nat
  | [] => .error .empty
  | ['+'] => .error .invalidDigit
  | '+' :: digits => readDigits radix bound 0 digits
  | digits => readDigits radix bound 0 digits

/-- Reads a decimal number below the bound from a text. -/
def readDecimal (bound : Nat) (s : String) : Except NumeralError Nat :=
  readNumeral 10 bound s.toList

def readUInt16 (s : String) : Except NumeralError UInt16 :=
  (readDecimal UInt16.size s).map UInt16.ofNat

def readUInt32 (s : String) : Except NumeralError UInt32 :=
  (readDecimal UInt32.size s).map UInt32.ofNat

def readUInt64 (s : String) : Except NumeralError UInt64 :=
  (readDecimal UInt64.size s).map UInt64.ofNat

end Discovery.Text
