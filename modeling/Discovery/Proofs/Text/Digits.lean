import Discovery.Text.Numeral
import Mathlib.Data.List.Forall2
import Mathlib.Data.Nat.Digits.Defs

/-!
# What is read as a number

A number is written by the digits of a radix, one at least, the highest first; zeros may lead. The reader
takes these texts, as long as their number lies below its bound, and takes a plus sign in front of them.

* `readDigits_eq_ok_iff`: which digits are read onto a number, and as what;
* `readNumeral_eq_ok_iff`: which texts are read as a number.
-/

namespace Discovery.Text

/-- The character is the digit of a value below the radix: ten digits, and from ten on the letters. -/
def IsDigit (radix : Nat) (c : Char) (value : Nat) : Prop :=
  value < radix ∧
    ((value < 10 ∧ c.toNat = '0'.toNat + value) ∨
      (10 ≤ value ∧ value < 36 ∧ (c.toNat + 10 = 'a'.toNat + value ∨ c.toNat + 10 = 'A'.toNat + value)))

/-- The characters are the digits of a number, one at least. -/
def IsNumeral (radix : Nat) (cs : List Char) (n : Nat) : Prop :=
  cs ≠ [] ∧ ∃ values, List.Forall₂ (IsDigit radix) cs values ∧ Nat.ofDigits radix values.reverse = n

variable {radix bound start n value : Nat} {c : Char} {cs : List Char}

theorem digit?_eq_some_iff : digit? radix c = some value ↔ IsDigit radix c value := by
  have zero : '0'.toNat = 48 := rfl
  have nine : '9'.toNat = 57 := rfl
  have lower : 'a'.toNat = 97 ∧ 'z'.toNat = 122 := ⟨rfl, rfl⟩
  have upper : 'A'.toNat = 65 ∧ 'Z'.toNat = 90 := ⟨rfl, rfl⟩
  -- the ranges of digits and letters become ranges of numbers
  have le_iff : ∀ a b : Char, a ≤ b ↔ a.toNat ≤ b.toNat := fun _ _ => UInt32.le_iff_toNat_le
  simp only [digit?, IsDigit, Option.filter_eq_some_iff, decide_eq_true_eq, le_iff, zero, nine, lower, upper]
  constructor
  · rintro ⟨found, below⟩
    refine ⟨below, ?_⟩
    split at found
    · cases found
      omega
    · split at found
      · cases found
        omega
      · split at found
        · cases found
          omega
        · cases found
  · rintro ⟨below, digit⟩
    refine ⟨?_, below⟩
    rcases digit with ⟨small, code⟩ | ⟨large, last, code | code⟩
    · rw [if_pos (by omega)]
      exact congrArg some (by omega)
    · rw [if_neg (by omega), if_pos (by omega)]
      exact congrArg some (by omega)
    · rw [if_neg (by omega), if_neg (by omega), if_pos (by omega)]
      exact congrArg some (by omega)

/-- A sign is no digit. -/
theorem not_isDigit_plus : ¬ IsDigit radix '+' value := by
  rintro ⟨-, ⟨-, code⟩ | ⟨above, -, code | code⟩⟩
  · have : '+'.toNat = 43 := rfl
    have : '0'.toNat = 48 := rfl
    omega
  · have : '+'.toNat = 43 := rfl
    have : 'a'.toNat = 97 := rfl
    omega
  · have : '+'.toNat = 43 := rfl
    have : 'A'.toNat = 65 := rfl
    omega

/-- Digits are read onto a number if what they make of it lies below the bound. -/
theorem readDigits_eq_ok_iff (below : start < bound) :
    readDigits radix bound start cs = .ok n ↔
      ∃ values, List.Forall₂ (IsDigit radix) cs values ∧
        start * radix ^ cs.length + Nat.ofDigits radix values.reverse = n ∧ n < bound := by
  induction cs generalizing start with
  | nil =>
    constructor
    · rintro ⟨⟩
      exact ⟨[], .nil, by simp, below⟩
    · rintro ⟨values, digits, number, -⟩
      cases digits
      simpa [readDigits] using number
  | cons c rest ih =>
    have onto : ∀ value values, (start * radix + value) * radix ^ rest.length +
          Nat.ofDigits radix (List.reverse values) =
        start * radix ^ (c :: rest).length + (value * radix ^ rest.length +
          Nat.ofDigits radix (List.reverse values)) := by
      intro value values
      rw [List.length_cons, Nat.pow_succ, Nat.add_mul, Nat.add_assoc, Nat.mul_assoc, Nat.mul_comm radix]
    have highest : ∀ {value values}, List.Forall₂ (IsDigit radix) rest values →
        Nat.ofDigits radix (List.reverse (value :: values)) =
          value * radix ^ rest.length + Nat.ofDigits radix (List.reverse values) := by
      intro value values digits
      rw [List.reverse_cons, Nat.ofDigits_append, List.length_reverse, ← digits.length_eq,
        Nat.ofDigits_singleton, Nat.add_comm, Nat.mul_comm]
    rw [readDigits]
    constructor
    · intro read
      split at read
      · cases read
      · next value found =>
        split at read
        · next smaller =>
          obtain ⟨values, digits, number, below⟩ := (ih smaller).mp read
          refine ⟨value :: values, .cons (digit?_eq_some_iff.mp found) digits, ?_, below⟩
          rw [highest digits, ← onto, number]
        · cases read
    · rintro ⟨values, digits, number, below⟩
      cases digits with
      | @cons _ value _ values digit digits =>
        rw [highest digits, ← onto] at number
        -- what has been read so far is no larger than the number in the end
        have smaller : start * radix + value < bound := by
          rcases Nat.eq_zero_or_pos radix with none | some
          · have := digit.1
            omega
          · have scaled : start * radix + value ≤ (start * radix + value) * radix ^ rest.length :=
              Nat.le_mul_of_pos_right _ (Nat.pow_pos some)
            omega
        rw [digit?_eq_some_iff.mpr digit]
        simp only [if_pos smaller]
        exact (ih smaller).mpr ⟨values, digits, number, below⟩

theorem readDigits_zero_eq_ok_iff (below : 0 < bound) (some : cs ≠ []) :
    readDigits radix bound 0 cs = .ok n ↔ IsNumeral radix cs n ∧ n < bound := by
  rw [readDigits_eq_ok_iff below]
  constructor
  · rintro ⟨values, digits, number, below⟩
    rw [Nat.zero_mul, Nat.zero_add] at number
    exact ⟨⟨some, values, digits, number⟩, below⟩
  · rintro ⟨⟨-, values, digits, number⟩, below⟩
    refine ⟨values, digits, ?_, below⟩
    rw [Nat.zero_mul, Nat.zero_add, number]

theorem IsNumeral.head_isDigit (numeral : IsNumeral radix (c :: cs) n) : ∃ value, IsDigit radix c value := by
  obtain ⟨-, values, digits, -⟩ := numeral
  cases digits with
  | cons digit digits => exact ⟨_, digit⟩

theorem IsNumeral.no_sign (numeral : IsNumeral radix cs n) : cs.head? ≠ some '+' := by
  cases cs with
  | nil => exact absurd rfl numeral.1
  | cons first rest =>
    rintro ⟨⟩
    obtain ⟨value, digit⟩ := numeral.head_isDigit
    exact not_isDigit_plus digit

theorem readNumeral_of_no_sign (some : cs ≠ []) (noSign : cs.head? ≠ .some '+') :
    readNumeral radix bound cs = readDigits radix bound 0 cs := by
  unfold readNumeral
  split
  all_goals simp_all

/-- A number is read off its digits, which a plus sign may precede. -/
theorem readNumeral_eq_ok_iff (below : 0 < bound) :
    readNumeral radix bound cs = .ok n ↔
      ∃ sign digits, (sign = [] ∨ sign = ['+']) ∧ cs = sign ++ digits ∧ IsNumeral radix digits n ∧ n < bound := by
  constructor
  · intro read
    unfold readNumeral at read
    split at read
    · cases read
    · cases read
    · next digits noSign =>
      -- a plus sign, with digits behind it
      have some : digits ≠ [] := fun none => noSign none
      exact ⟨['+'], digits, .inr rfl, rfl, (readDigits_zero_eq_ok_iff below some).mp read⟩
    · next some _ _ =>
      -- no sign
      exact ⟨[], cs, .inl rfl, rfl, (readDigits_zero_eq_ok_iff below some).mp read⟩
  · rintro ⟨sign, digits, rfl | rfl, rfl, numeral, small⟩
    · have read := (readDigits_zero_eq_ok_iff below numeral.1).mpr ⟨numeral, small⟩
      rw [readNumeral_of_no_sign numeral.1 numeral.no_sign]
      exact read
    · have read := (readDigits_zero_eq_ok_iff below numeral.1).mpr ⟨numeral, small⟩
      rw [List.singleton_append, readNumeral]
      · exact read
      · exact numeral.1

end Discovery.Text
