import Discovery.Proofs.Text.Trimmed
import Discovery.Text.Numeral

/-!
# Numbers read back

A number that is written in decimal digits is read back as itself, as long as it lies below the bound of
the reader. Its digits are no white space, so that trimming does not change them.

* `readDigits_of_isDigit`: digits are read as the number that they stand for;
* `readUInt16_toString`, `readUInt32_toString`: the numbers of the fixed sizes;
* `trim_toString`: what is trimmed of a number is nothing.
-/

namespace Discovery.Text

variable {bound : Nat}

/-! ## Digits -/

theorem range_of_isDigit {c : Char} (digit : c.isDigit = true) : '0' ≤ c ∧ c ≤ '9' := by
  rcases Char.isDigit_iff_toNat.mp digit with ⟨above, below⟩
  exact ⟨UInt32.le_iff_toNat_le.mpr above, UInt32.le_iff_toNat_le.mpr below⟩

theorem digit?_of_isDigit {c : Char} (digit : c.isDigit = true) : digit? 10 c = some (c.toNat - '0'.toNat) := by
  have small : c.toNat - '0'.toNat < 10 := by
    have codes : 48 ≤ c.toNat ∧ c.toNat ≤ 57 := Char.isDigit_iff_toNat.mp digit
    have zero : '0'.toNat = 48 := rfl
    omega
  simp only [digit?, if_pos (range_of_isDigit digit)]
  simpa using small

/-- Reading on does not make a number smaller. -/
theorem le_ofDigitChars (cs : List Char) (start : Nat) : start ≤ Nat.ofDigitChars 10 cs start := by
  rw [Nat.ofDigitChars_eq_ofDigitChars_zero]
  have scaled : start ≤ 10 ^ cs.length * start := Nat.le_mul_of_pos_left start (Nat.pow_pos (by decide))
  omega

theorem digitsValue_eq (digits : List Char) : digitsValue digits = Nat.ofDigitChars 10 digits 0 := by
  have step : (fun (n : Nat) (c : Char) => n * 10 + (c.toNat - '0'.toNat)) =
      fun n c => 10 * n + (c.toNat - '0'.toNat) := by
    funext n c
    rw [Nat.mul_comm]
  rw [digitsValue, step, Nat.ofDigitChars]

/-- Digits are read as the number that they stand for. -/
theorem readDigits_of_isDigit {cs : List Char} (digits : ∀ c ∈ cs, c.isDigit = true) {start : Nat}
    (below : Nat.ofDigitChars 10 cs start < bound) :
    readDigits 10 bound start cs = .ok (Nat.ofDigitChars 10 cs start) := by
  induction cs generalizing start with
  | nil => rfl
  | cons c rest ih =>
    rcases List.forall_mem_cons.mp digits with ⟨here, later⟩
    rw [Nat.ofDigitChars_cons, Nat.mul_comm] at below ⊢
    have belowHere : start * 10 + (c.toNat - '0'.toNat) < bound :=
      Nat.lt_of_le_of_lt (le_ofDigitChars rest _) below
    rw [readDigits, digit?_of_isDigit here]
    simp only [if_pos belowHere]
    exact ih later below

theorem readNumeral_of_isDigit {cs : List Char} (some : cs ≠ []) (digits : ∀ c ∈ cs, c.isDigit = true) :
    readNumeral 10 bound cs = readDigits 10 bound 0 cs := by
  cases cs with
  | nil => exact absurd rfl some
  | cons first rest =>
    have noSign : first ≠ '+' := by
      rintro rfl
      exact absurd (digits _ (List.mem_cons_self ..)) (by decide)
    unfold readNumeral
    split
    all_goals simp_all

/-! ## Numbers -/

theorem isDigit_of_mem_toString {n : Nat} {c : Char} (mem : c ∈ (toString n).toList) : c.isDigit = true := by
  rw [Nat.toString_eq_ofList_toDigits, String.toList_ofList] at mem
  exact Nat.isDigit_of_mem_toDigits (by decide) (by decide) mem

/-- A number is read back if it lies below the bound. -/
theorem readDecimal_toString {n : Nat} (below : n < bound) : readDecimal bound (toString n) = .ok n := by
  have number : Nat.ofDigitChars 10 (toString n).toList 0 = n := by
    rw [Nat.toString_eq_ofList_toDigits, String.toList_ofList]
    exact Nat.ofDigitChars_toDigits (by decide) (by decide)
  have some : (toString n).toList ≠ [] := by
    rw [Nat.toString_eq_ofList_toDigits, String.toList_ofList]
    exact Nat.toDigits_ne_nil
  have digits : ∀ c ∈ (toString n).toList, c.isDigit = true := fun _ => isDigit_of_mem_toString
  rw [readDecimal, readNumeral_of_isDigit some digits, readDigits_of_isDigit digits (number.symm ▸ below),
    number]

theorem readUInt16_toString (n : UInt16) : readUInt16 (toString n.toNat) = .ok n := by
  rw [readUInt16, readDecimal_toString n.toNat_lt]
  exact congrArg Except.ok UInt16.ofNat_toNat

theorem readUInt32_toString (n : UInt32) : readUInt32 (toString n.toNat) = .ok n := by
  rw [readUInt32, readDecimal_toString n.toNat_lt]
  exact congrArg Except.ok UInt32.ofNat_toNat

def digitRange : CharRanges := [(0x0030, 0x0039)]

theorem isWhiteSpace_of_isDigit {c : Char} (digit : c.isDigit = true) : isWhiteSpace c = false := by
  have holds : digitRange.holds c = true := by
    have codes : 48 ≤ c.toNat ∧ c.toNat ≤ 57 := Char.isDigit_iff_toNat.mp digit
    simp only [digitRange, CharRanges.holds, CharRanges.holdsCode, Bool.or_false]
    rw [if_neg (Nat.not_lt.mpr codes.1), decide_eq_true codes.2]
  exact CharRanges.not_holds_of_apart (by decide) holds

/-- Nothing is trimmed of a number. -/
theorem trim_toString (n : Nat) : trim (toString n) = toString n := by
  apply trim_eq_self_iff.mpr
  constructor
  · intro c mem
    exact isWhiteSpace_of_isDigit (isDigit_of_mem_toString (List.mem_of_head? mem))
  · intro c mem
    exact isWhiteSpace_of_isDigit (isDigit_of_mem_toString (List.mem_of_getLast? mem))

/-- A word is written with ten digits at most. -/
theorem length_toString_le (n : UInt32) : (toString n.toNat).toList.length ≤ 10 := by
  rw [Nat.toString_eq_ofList_toDigits, String.toList_ofList, Nat.length_toDigits_le_iff (by decide) (by decide)]
  exact Nat.lt_of_lt_of_le n.toNat_lt (by decide)

/-- A number is written with one digit at least. -/
theorem toString_ne_empty (n : Nat) : toString n ≠ "" := by
  intro empty
  have none := congrArg String.toList empty
  rw [Nat.toString_eq_ofList_toDigits, String.toList_ofList] at none
  exact Nat.toDigits_ne_nil none

end Discovery.Text
