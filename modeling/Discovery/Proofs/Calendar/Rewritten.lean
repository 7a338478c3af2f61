import Discovery.Proofs.Calendar.Written

/-!
# Instants written again

Messages may spell an instant in many ways: in any zone, with any of three separators, with a fraction of any length.
What is read is the instant in UTC, and it is written again in UTC. A zone moves an instant by whole minutes, so that
a leap second is read back as well; but it may move it out of the years that are read.

* `ofMessage?_fraction`: the nanoseconds of what is read;
* `HasPlainYear.isSendable`: it can be said again if its year has four digits;
* `ofMessage?_toMessage_of_not_plain`: it is not read again if its year has a sign.
-/

namespace Discovery.Instant

variable {t : Instant} {cs rest : List Char} {nanos : Nat} {offset : Int} {p : Parts} {s : String}

/-! ## The parts that are read -/

/-- Digits write a number below the power of ten of their count. -/
theorem ofDigitChars_lt (isDigit : ∀ c ∈ cs, c.isDigit = true) (start : Nat) :
    Nat.ofDigitChars 10 cs start < (start + 1) * 10 ^ cs.length := by
  induction cs generalizing start with
  | nil => simp
  | cons c cs ih =>
    obtain ⟨digit, digits⟩ := List.forall_mem_cons.mp isDigit
    obtain ⟨-, below⟩ := Text.range_of_isDigit digit
    have value : c.toNat - '0'.toNat ≤ 9 := Nat.sub_le_sub_right below 48
    rw [Nat.ofDigitChars_cons, List.length_cons, Nat.pow_succ]
    calc Nat.ofDigitChars 10 cs (10 * start + (c.toNat - '0'.toNat))
        < (10 * start + (c.toNat - '0'.toNat) + 1) * 10 ^ cs.length := ih digits _
      _ ≤ ((start + 1) * 10) * 10 ^ cs.length := Nat.mul_le_mul_right _ (by omega)
      _ = (start + 1) * (10 ^ cs.length * 10) := by rw [Nat.mul_assoc, Nat.mul_comm 10]

/-- However long a fraction is, what is read of it is less than a second. -/
theorem readFraction?_lt (read : readFraction? cs = some (nanos, rest)) : nanos < nanosPerSecond := by
  unfold readFraction? at read
  split at read
  · next behind =>
    simp only at read
    split at read
    · cases read
    · cases read
      -- nine digits count at the most, and they are filled up to nine with zeros
      have counted : ((behind.takeWhile Char.isDigit).take 9).length ≤ 9 := List.length_take_le ..
      have isDigit : ∀ c ∈ (behind.takeWhile Char.isDigit).take 9, c.isDigit = true := by
        intro c mem
        exact List.mem_takeWhile_imp (List.mem_of_mem_take mem)
      generalize (behind.takeWhile Char.isDigit).take 9 = digits at counted isDigit ⊢
      have below := ofDigitChars_lt isDigit 0
      rw [← Text.digitsValue_eq, Nat.zero_add, Nat.one_mul] at below
      calc Text.digitsValue digits * 10 ^ (9 - digits.length)
          < 10 ^ digits.length * 10 ^ (9 - digits.length) :=
            Nat.mul_lt_mul_of_pos_right below (Nat.pow_pos (by decide))
        _ = nanosPerSecond := by rw [← Nat.pow_add, Nat.add_sub_cancel' counted, nanosPerSecond]
  · cases read
    decide

/-- Zones are apart from UTC by whole minutes. -/
theorem readZone?_minutes {readColon? : List Char → Option (List Char)}
    (read : readZone? readColon? cs = some (offset, rest)) : offset % 60 = 0 := by
  unfold readZone? at read
  split at read
  · cases read
    rfl
  · cases read
    rfl
  · simp only [Option.bind_eq_bind, Option.bind_eq_some_iff] at read
    obtain ⟨⟨west, _⟩, -, ⟨hours, _⟩, -, _, -, ⟨minutes, _⟩, -, read⟩ := read
    split at read
    · cases read
    · cases read
      cases west <;> simp <;> omega

/-- The nanoseconds go beyond a second in the last second of a minute only, which is a leap second then. -/
theorem instant?_fraction (short : p.nanos < nanosPerSecond) (minutes : p.offset % 60 = 0)
    (read : p.instant? = some t) :
    t.nanos < nanosPerSecond ∨ t.seconds % 60 = 59 ∧ t.nanos < 2 * nanosPerSecond := by
  unfold Parts.instant? at read
  split at read
  · simp only at read
    split at read
    · cases read
      -- the second 60 becomes the second 59 with a second more of nanoseconds
      by_cases leap : p.second = 60
      · refine .inr ⟨?_, ?_⟩
        · simp only [leap, secondsPerDay]
          omega
        · simp only [leap, if_true]
          omega
      · left
        simpa [leap] using short
    · cases read
  · cases read

theorem ofMessage?_fraction (read : ofMessage? s = some t) :
    t.nanos < nanosPerSecond ∨ t.seconds % 60 = 59 ∧ t.nanos < 2 * nanosPerSecond := by
  simp only [ofMessage?, Option.bind_eq_bind, Option.bind_eq_some_iff] at read
  obtain ⟨_, -, _, -, _, -, _, -, _, -, _, -, _, -, _, -, _, -, _, -, _, -, ⟨nanos, _⟩, fraction, ⟨offset, _⟩, zone,
    read⟩ := read
  split at read
  · exact instant?_fraction (readFraction?_lt fraction) (readZone?_minutes zone) read
  · cases read

/-! ## The year -/

/-- The year in UTC is written with four digits and no sign. -/
structure HasPlainYear (t : Instant) : Prop where
  fromYearZero : Date.toDays ⟨0, 1, 1⟩ * secondsPerDay ≤ t.seconds
  beforeTenThousand : t.seconds < Date.toDays ⟨10000, 1, 1⟩ * secondsPerDay

theorem hasPlainYear_iff : t.HasPlainYear ↔
    0 ≤ (Date.ofDays (t.seconds / secondsPerDay)).year ∧ (Date.ofDays (t.seconds / secondsPerDay)).year ≤ 9999 := by
  have day : (0 : Int) < secondsPerDay := by decide
  have begun : ∀ year, year ≤ (Date.ofDays (t.seconds / secondsPerDay)).year ↔
      Date.toDays ⟨year, 1, 1⟩ * secondsPerDay ≤ t.seconds := by
    intro year
    rw [Date.le_year_ofDays_iff, Int.le_ediv_iff_mul_le day]
  have zero := begun 0
  have tenThousand := begun 10000
  constructor
  · rintro ⟨late, early⟩
    omega
  · intro digits
    exact ⟨by omega, by omega⟩

/-- What is written for a year with a sign is not read. -/
theorem ofMessage?_toMessage_of_not_plain (signed : ¬ t.HasPlainYear) : ofMessage? t.toMessage = none := by
  rw [hasPlainYear_iff] at signed
  have noNumber : ∀ sign rest, sign = '-' ∨ sign = '+' → readNumber? 4 4 (sign :: rest) = none := by
    rintro sign rest (rfl | rfl) <;> rfl
  simp only [toMessage, dateTimeDigits, yearDigits, if_neg signed]
  unfold ofMessage?
  simp only [String.toList_ofList, List.cons_append, Option.bind_eq_bind]
  rw [noNumber _ _ (by split <;> simp), Option.bind_none]

/-- What is read from a message can be said again if its year in UTC has four digits. -/
theorem HasPlainYear.isSendable (plain : t.HasPlainYear) (read : ofMessage? s = some t) : t.IsSendable :=
  ⟨plain.fromYearZero, plain.beforeTenThousand, ofMessage?_fraction read⟩

end Discovery.Instant
