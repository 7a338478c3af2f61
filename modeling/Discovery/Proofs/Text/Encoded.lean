import Discovery.Text.Utf8
import Mathlib.Tactic.SplitIfs

/-!
# Texts as bytes

What is written of a text in UTF-8 is read as the same text. A character takes one to four bytes: the
first of them announces how many follow and where the next one lies, and each of the others carries six
bits.

* `readUtf8From_lead`: reading goes on behind a sequence that is complete;
* `readUtf8From_written`: one character, by the number of its bytes;
* `readUtf8_toUTF8`: whole texts.
-/

namespace Discovery.Text

/-! ## The bytes of a text -/

theorem toList_loop (bytes : ByteArray) (i : Nat) (seen : List UInt8) :
    ByteArray.toList.loop bytes i seen = seen.reverse ++ bytes.data.toList.drop i := by
  fun_induction ByteArray.toList.loop bytes i seen with
  | case1 i seen inside ih =>
    have next : bytes.data.toList.drop i = bytes.get! i :: bytes.data.toList.drop (i + 1) := by
      have inList : i < bytes.data.toList.length := inside
      rw [List.drop_eq_getElem_cons inList]
      simp [ByteArray.get!, getElem!_pos bytes.data i inside]
    rw [ih, next, List.reverse_cons, List.append_assoc]
    rfl
  | case2 i seen outside =>
    have nothing : bytes.data.toList.drop i = [] :=
      List.drop_eq_nil_of_le (Nat.le_of_not_lt outside)
    rw [nothing, List.append_nil]

theorem toList_eq_data (bytes : ByteArray) : bytes.toList = bytes.data.toList := by
  rw [ByteArray.toList, toList_loop]
  rfl

/-- The bytes of a text are those of its characters. -/
theorem toList_toUTF8 (text : String) :
    text.toUTF8.toList = text.toList.flatMap String.utf8EncodeChar := by
  have bytes : (String.ofList text.toList).toUTF8 =
      (text.toList.flatMap String.utf8EncodeChar).toByteArray := String.toByteArray_ofList
  rw [String.ofList_toList] at bytes
  rw [bytes, toList_eq_data, List.toList_data_toByteArray]

theorem length_toUTF8 (text : String) : text.toUTF8.toList.length = text.utf8ByteSize := by
  rw [toList_eq_data]
  rfl

/-- Every character takes a byte at least. -/
theorem length_le_utf8ByteSize (text : String) : text.toList.length ≤ text.utf8ByteSize := by
  have bytes : ∀ cs : List Char, cs.length ≤ (cs.flatMap String.utf8EncodeChar).length := by
    intro cs
    induction cs with
    | nil => exact Nat.le_refl 0
    | cons c rest ih =>
      have here : 0 < (String.utf8EncodeChar c).length := by
        rw [String.length_utf8EncodeChar]
        exact c.utf8Size_pos
      rw [List.length_cons, List.flatMap_cons, List.length_append]
      omega
  rw [← length_toUTF8, toList_toUTF8]
  exact bytes text.toList

/-- What is written character by character is as many times as long as a character is written at most. -/
theorem length_flatMap_le {β : Type} {f : Char → List β} {k : Nat} (each : ∀ c, (f c).length ≤ k) (cs : List Char) :
    (cs.flatMap f).length ≤ cs.length * k := by
  induction cs with
  | nil => exact Nat.zero_le _
  | cons c rest ih =>
    rw [List.flatMap_cons, List.length_append, List.length_cons, Nat.succ_mul, Nat.add_comm]
    exact Nat.add_le_add ih (each c)

/-- No character takes more than four bytes. -/
theorem utf8ByteSize_le (text : String) : text.utf8ByteSize ≤ text.toList.length * 4 := by
  rw [← length_toUTF8, toList_toUTF8]
  apply length_flatMap_le
  intro c
  rw [String.length_utf8EncodeChar]
  exact c.utf8Size_le_four

/-! ## One character -/

/-- Reading goes on behind a sequence that is complete. -/
theorem readUtf8From_lead {index code : Nat} {b : UInt8} {more rest : List UInt8} {lead : LeadByte}
    (announced : leadByte? b.toNat = some lead)
    (complete : readContinuation lead.following lead.low lead.high 1 lead.bits more =
      .complete code rest) :
    readUtf8From index (b :: more) =
      (readUtf8From (index + 1 + lead.following) rest).map (Char.ofNat code :: ·) := by
  -- of the ways to go on the hypotheses leave one
  rw [readUtf8From]
  split
  · next nothing =>
    rw [announced] at nothing
    cases nothing
  · next lead' announced' =>
    rw [announced] at announced'
    cases announced'
    split
    · next cut =>
      rw [complete] at cut
      cases cut
    · next broken =>
      rw [complete] at broken
      cases broken
    · next complete' =>
      rw [complete] at complete'
      cases complete'
      rfl

/-- A byte between the bounds gives its six bits. -/
theorem readContinuation_byte {following low high seen code b : Nat} {rest : List UInt8}
    (small : b < 256) (above : low ≤ b) (below : b ≤ high) :
    readContinuation (following + 1) low high seen code (UInt8.ofNat b :: rest) =
      readContinuation following 0x80 0xBF (seen + 1) (code * 64 + (b - 0x80)) rest := by
  have value : (UInt8.ofNat b).toNat = b := UInt8.toNat_ofNat_of_lt' small
  rw [readContinuation, value, if_pos ⟨above, below⟩]

/-! ### First bytes

The first byte of a code point `v` carries what is left of it without the bits of the others. -/

theorem leadByte?_one {v : Nat} (small : v ≤ 127) : leadByte? v = some ⟨0, 0x80, 0xBF, v⟩ := by
  rw [leadByte?, if_pos (by omega)]

theorem leadByte?_two {v : Nat} (above : 127 < v) (below : v ≤ 2047) :
    leadByte? (v / 64 % 32 + 192) = some ⟨1, 0x80, 0xBF, v / 64⟩ := by
  have bits : v / 64 % 32 + 192 - 0xC0 = v / 64 := by omega
  rw [leadByte?, if_neg (by omega), if_neg (by omega), if_pos (by omega), bits]

/-- The bounds of the second byte shut out overlong forms and surrogates only. -/
theorem leadByte?_three {v : Nat} (above : 2047 < v) (below : v ≤ 65535)
    (valid : v < 0xD800 ∨ 0xDFFF < v) :
    ∃ low high, leadByte? (v / 4096 % 16 + 224) = some ⟨2, low, high, v / 4096⟩ ∧
      low ≤ v / 64 % 64 + 128 ∧ v / 64 % 64 + 128 ≤ high := by
  have bits : v / 4096 % 16 + 224 - 0xE0 = v / 4096 := by omega
  rw [leadByte?, if_neg (by omega), if_neg (by omega), if_neg (by omega)]
  split_ifs with overlong surrogate other
  · have none : v / 4096 = 0 := by omega
    rw [none]
    exact ⟨_, _, rfl, by omega, by omega⟩
  · have thirteen : v / 4096 = 0xD := by omega
    rw [thirteen]
    exact ⟨_, _, rfl, by omega, by omega⟩
  · rw [bits]
    exact ⟨_, _, rfl, by omega, by omega⟩
  all_goals omega

/-- The bounds of the second byte shut out overlong forms and what is beyond the last character only. -/
theorem leadByte?_four {v : Nat} (above : 65535 < v) (below : v < 0x110000) :
    ∃ low high, leadByte? (v / 262144 % 8 + 240) = some ⟨3, low, high, v / 262144⟩ ∧
      low ≤ v / 4096 % 64 + 128 ∧ v / 4096 % 64 + 128 ≤ high := by
  have bits : v / 262144 % 8 + 240 - 0xF0 = v / 262144 := by omega
  rw [leadByte?, if_neg (by omega), if_neg (by omega), if_neg (by omega), if_neg (by omega),
    if_neg (by omega), if_neg (by omega)]
  split_ifs with overlong other last
  · have none : v / 262144 = 0 := by omega
    rw [none]
    exact ⟨_, _, rfl, by omega, by omega⟩
  · rw [bits]
    exact ⟨_, _, rfl, by omega, by omega⟩
  · have four : v / 262144 = 4 := by omega
    rw [four]
    exact ⟨_, _, rfl, by omega, by omega⟩
  · omega

/-! ### Sequences -/

/-- Every character is read from its own bytes. -/
theorem readUtf8From_written (index : Nat) (c : Char) (rest : List UInt8) :
    ∃ after, readUtf8From index (String.utf8EncodeChar c ++ rest) =
      (readUtf8From after rest).map (c :: ·) := by
  -- the surrogates are no code points of characters
  have valid : c.val.toNat < 0xD800 ∨ 0xDFFF < c.val.toNat ∧ c.val.toNat < 0x110000 := c.valid
  have back : Char.ofNat c.val.toNat = c := Char.ofNat_toNat c
  have byte : ∀ {b}, b < 256 → (UInt8.ofNat b).toNat = b := UInt8.toNat_ofNat_of_lt'
  -- only the code point matters, which the four ranges split
  unfold String.utf8EncodeChar
  dsimp only
  generalize c.val.toNat = v at valid back ⊢
  subst back
  split_ifs with one two three
  · refine ⟨_, readUtf8From_lead (?_ : _ = some ⟨0, 0x80, 0xBF, v⟩) rfl⟩
    rw [byte (by omega), leadByte?_one one]
  · have code : v / 64 * 64 + (v % 64 + 128 - 0x80) = v := by omega
    simp only [List.cons_append, List.nil_append]
    refine ⟨_, readUtf8From_lead (?_ : _ = some ⟨1, 0x80, 0xBF, v / 64⟩) ?_⟩
    · rw [byte (by omega), leadByte?_two (by omega) two]
    · show readContinuation 1 0x80 0xBF 1 (v / 64) _ = _
      rw [readContinuation_byte (by omega) (by omega) (by omega), code]
      rfl
  · rcases leadByte?_three (v := v) (by omega) three (by omega) with
      ⟨low, high, announced, above, below⟩
    have code : (v / 4096 * 64 + (v / 64 % 64 + 128 - 0x80)) * 64 + (v % 64 + 128 - 0x80) = v := by
      omega
    simp only [List.cons_append, List.nil_append]
    refine ⟨_, readUtf8From_lead (?_ : _ = some ⟨2, low, high, v / 4096⟩) ?_⟩
    · rw [byte (by omega), announced]
    · rw [readContinuation_byte (by omega) above below,
        readContinuation_byte (by omega) (by omega) (by omega), code]
      rfl
  · rcases leadByte?_four (v := v) (by omega) (by omega) with ⟨low, high, announced, above, below⟩
    have code : ((v / 262144 * 64 + (v / 4096 % 64 + 128 - 0x80)) * 64 +
        (v / 64 % 64 + 128 - 0x80)) * 64 + (v % 64 + 128 - 0x80) = v := by
      omega
    simp only [List.cons_append, List.nil_append]
    refine ⟨_, readUtf8From_lead (?_ : _ = some ⟨3, low, high, v / 262144⟩) ?_⟩
    · rw [byte (by omega), announced]
    · rw [readContinuation_byte (by omega) above below,
        readContinuation_byte (by omega) (by omega) (by omega),
        readContinuation_byte (by omega) (by omega) (by omega), code]
      rfl

/-! ## Whole texts -/

theorem readUtf8From_flatMap (index : Nat) (cs : List Char) :
    readUtf8From index (cs.flatMap String.utf8EncodeChar) = .ok cs := by
  induction cs generalizing index with
  | nil => rw [List.flatMap_nil, readUtf8From]
  | cons c cs ih =>
    rcases readUtf8From_written index c (cs.flatMap String.utf8EncodeChar) with ⟨after, here⟩
    rw [List.flatMap_cons, here, ih]
    rfl

/-- Every text is read from its own bytes. -/
theorem readUtf8_toUTF8 (text : String) : readUtf8 text.toUTF8.toList = .ok text := by
  rw [readUtf8, toList_toUTF8, readUtf8From_flatMap]
  show Except.ok (String.ofList text.toList) = .ok text
  rw [String.ofList_toList]

end Discovery.Text
