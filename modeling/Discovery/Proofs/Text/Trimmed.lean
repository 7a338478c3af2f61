import Discovery.Text.Alphabetic
import Discovery.Text.Numeric
import Discovery.Text.WhiteSpace
import Mathlib.Data.List.TakeWhile

/-!
# Trimmed texts

What skipping and trimming white space do to a text.

* `CharRanges.not_holds_of_apart`: sets of characters whose ranges lie apart have no character in
  common; hence `isAlphabetic_of_isWhiteSpace` and `isNumeric_of_isWhiteSpace`.
* `trimChars_flatMap`: trimming commutes with writing a text character by character, as long as white
  space is written as it is and nothing else is written with white space at its ends.
* `trim_eq_self_iff`: trimming leaves a text as it is if neither end of it is white space.
-/

namespace Discovery.Text

/-! ## Sets of characters that lie apart -/

namespace CharRanges

/-- Does every range of the one set lie below or above every range of the other? -/
def apart (ranges others : CharRanges) : Bool :=
  ranges.all fun range => others.all fun other =>
    Nat.blt range.2 other.1 || Nat.blt other.2 range.1

theorem exists_range_of_holdsCode {ranges : CharRanges} {code : Nat}
    (h : ranges.holdsCode code = true) : ∃ range ∈ ranges, range.1 ≤ code ∧ code ≤ range.2 := by
  induction ranges with
  | nil => cases h
  | cons range more ih =>
    obtain ⟨low, high⟩ := range
    rw [holdsCode] at h
    split at h
    · cases h
    · next notBelow =>
      rcases Bool.or_eq_true _ _ ▸ h with inside | later
      · exact ⟨(low, high), List.mem_cons_self .., Nat.le_of_not_lt notBelow, by simpa using inside⟩
      · obtain ⟨range, mem, bounds⟩ := ih later
        exact ⟨range, List.mem_cons_of_mem _ mem, bounds⟩

theorem not_holds_of_apart {ranges others : CharRanges} (far : ranges.apart others = true)
    {c : Char} (h : ranges.holds c = true) : others.holds c = false := by
  rw [Bool.eq_false_iff]
  intro h'
  obtain ⟨range, mem, low, high⟩ := exists_range_of_holdsCode h
  obtain ⟨other, mem', low', high'⟩ := exists_range_of_holdsCode h'
  have far' := List.all_eq_true.mp (List.all_eq_true.mp far range mem) other mem'
  simp only [Bool.or_eq_true, Nat.blt_eq] at far'
  omega

end CharRanges

/-- No white space is alphabetic. -/
theorem isAlphabetic_of_isWhiteSpace {c : Char} (h : isWhiteSpace c = true) :
    isAlphabetic c = false :=
  CharRanges.not_holds_of_apart (by decide +kernel) h

/-- No white space is numeric. -/
theorem isNumeric_of_isWhiteSpace {c : Char} (h : isWhiteSpace c = true) : isNumeric c = false :=
  CharRanges.not_holds_of_apart (by decide +kernel) h

/-! ## Skipping -/

/-- Every character of the text is white space. -/
def IsBlank (cs : List Char) : Prop :=
  ∀ c ∈ cs, isWhiteSpace c = true

/-- Nothing is skipped of a text that does not begin with white space. -/
theorem skipSpace_eq_self_iff {cs : List Char} :
    skipSpace cs = cs ↔ ∀ c ∈ cs.head?, isWhiteSpace c = false := by
  cases cs with
  | nil => simp [skipSpace]
  | cons c rest =>
    rw [skipSpace, List.dropWhile_cons]
    split
    · next space =>
      constructor
      · intro same
        have short := (List.dropWhile_sublist (l := rest) isWhiteSpace).length_le
        rw [same] at short
        exact absurd short (Nat.not_succ_le_self _)
      · intro plain
        rw [plain c rfl] at space
        cases space
    · next plain => simpa using plain

theorem skipSpace_cons_of_not {c : Char} (plain : isWhiteSpace c = false) (rest : List Char) :
    skipSpace (c :: rest) = c :: rest :=
  skipSpace_eq_self_iff.mpr (by simpa using plain)

/-- White space in front is skipped first. -/
theorem skipSpace_append {blank : List Char} (space : ∀ c ∈ blank, isWhiteSpace c = true)
    (cs : List Char) : skipSpace (blank ++ cs) = skipSpace cs :=
  List.dropWhile_append_of_pos space

/-- What is skipped is white space, as far as it goes. -/
theorem exists_blank (cs : List Char) : ∃ blank, IsBlank blank ∧ cs = blank ++ skipSpace cs := by
  refine ⟨cs.takeWhile isWhiteSpace, ?_, List.takeWhile_append_dropWhile.symm⟩
  intro c mem
  exact List.mem_takeWhile_imp mem

theorem skipSpace_of_blank {blank : List Char} (space : IsBlank blank) : skipSpace blank = [] :=
  List.dropWhile_eq_nil_iff.mpr space

/-- Skipping does not reach beyond a character that is no white space. -/
theorem skipSpace_append_cons {c : Char} (plain : isWhiteSpace c = false) (cs more : List Char) :
    skipSpace (cs ++ c :: more) = skipSpace cs ++ c :: more := by
  rw [skipSpace, List.dropWhile_append]
  split
  · next emptied =>
    have none : skipSpace cs = [] := List.isEmpty_iff.mp emptied
    rw [none, List.nil_append]
    exact skipSpace_cons_of_not plain more
  · rfl

theorem skipSpaceEnd_append_cons {c : Char} (plain : isWhiteSpace c = false) (cs more : List Char) :
    skipSpaceEnd (cs ++ c :: more) = cs ++ c :: skipSpaceEnd more := by
  have reversed := skipSpace_append_cons plain more.reverse cs.reverse
  rw [skipSpace] at reversed
  rw [skipSpaceEnd, List.reverse_append, List.reverse_cons, List.append_assoc, List.singleton_append, reversed,
    List.reverse_append, List.reverse_cons, List.reverse_reverse, List.append_assoc, List.singleton_append]
  rfl

/-! ## Writing character by character -/

/-- A way of writing characters that leaves white space as it is and adds none in front. -/
def KeepsSpace (written : Char → List Char) : Prop :=
  ∀ c, if isWhiteSpace c = true then written c = [c]
    else ∃ first more, written c = first :: more ∧ isWhiteSpace first = false

/-- Skipping commutes with writing. -/
theorem skipSpace_flatMap {written : Char → List Char} (keeps : KeepsSpace written)
    (cs : List Char) : skipSpace (cs.flatMap written) = (skipSpace cs).flatMap written := by
  induction cs with
  | nil => rfl
  | cons c rest ih =>
    have here := keeps c
    split at here
    · next space =>
      rw [List.flatMap_cons, here, skipSpace_append (by simpa using space), ih, skipSpace,
        skipSpace, List.dropWhile_cons_of_pos space]
    · next plain =>
      obtain ⟨first, more, eq, firstPlain⟩ := here
      rw [skipSpace_cons_of_not (by simpa using plain), List.flatMap_cons, eq, List.cons_append,
        skipSpace_cons_of_not firstPlain]

/-- Skipping at the end commutes with writing, if no white space is added at the end. -/
theorem skipSpaceEnd_flatMap {written : Char → List Char}
    (keeps : KeepsSpace fun c => (written c).reverse) (cs : List Char) :
    skipSpaceEnd (cs.flatMap written) = (skipSpaceEnd cs).flatMap written := by
  have back := skipSpace_flatMap keeps cs.reverse
  rw [skipSpace, skipSpace] at back
  rw [skipSpaceEnd, skipSpaceEnd, List.reverse_flatMap]
  change (List.dropWhile isWhiteSpace (cs.reverse.flatMap fun c => (written c).reverse)).reverse = _
  rw [back, List.reverse_flatMap]
  simp [Function.comp_def]

/-- Trimming commutes with writing. -/
theorem trimChars_flatMap {written : Char → List Char} (keeps : KeepsSpace written)
    (keepsEnd : KeepsSpace fun c => (written c).reverse) (cs : List Char) :
    trimChars (cs.flatMap written) = (trimChars cs).flatMap written := by
  rw [trimChars, skipSpace_flatMap keeps, skipSpaceEnd_flatMap keepsEnd, trimChars]

/-- White space in front is trimmed first. -/
theorem trimChars_append {blank : List Char} (space : ∀ c ∈ blank, isWhiteSpace c = true)
    (cs : List Char) : trimChars (blank ++ cs) = trimChars cs := by
  rw [trimChars, skipSpace_append space, trimChars]

/-- White space at the end is trimmed last. -/
theorem trimChars_append_blank {blank : List Char} (space : IsBlank blank) (cs : List Char) :
    trimChars (cs ++ blank) = trimChars cs := by
  have skipped : ∀ cs, skipSpaceEnd (cs ++ blank) = skipSpaceEnd cs := by
    intro cs
    have back : ∀ c ∈ blank.reverse, isWhiteSpace c = true :=
      fun c mem => space c (List.mem_reverse.mp mem)
    rw [skipSpaceEnd, List.reverse_append, List.dropWhile_append_of_pos back, skipSpaceEnd]
  rw [trimChars, trimChars, skipSpace, List.dropWhile_append]
  split
  · next emptied =>
    -- the text is blank itself, so that nothing is left of either
    have none : skipSpace cs = [] := List.isEmpty_iff.mp emptied
    have noneAfter : blank.dropWhile isWhiteSpace = [] := skipSpace_of_blank space
    rw [noneAfter, none]
  · exact skipped _

/-! ## Texts that are trimmed -/

/-- Neither the first nor the last character of the text is white space. -/
def IsTrimmed (words : String) : Prop :=
  (∀ c ∈ words.toList.head?, isWhiteSpace c = false) ∧
    ∀ c ∈ words.toList.getLast?, isWhiteSpace c = false

/-- Nothing is dropped of a text that does not end with white space. -/
theorem skipSpaceEnd_eq_self_iff {cs : List Char} :
    skipSpaceEnd cs = cs ↔ ∀ c ∈ cs.getLast?, isWhiteSpace c = false := by
  have back : skipSpace cs.reverse = cs.reverse ↔ _ := skipSpace_eq_self_iff
  rw [List.head?_reverse] at back
  rw [← back, skipSpaceEnd, skipSpace]
  constructor
  · intro same
    have := congrArg List.reverse same
    rwa [List.reverse_reverse] at this
  · intro same
    rw [same, List.reverse_reverse]

theorem trimChars_eq_self_iff {cs : List Char} :
    trimChars cs = cs ↔
      (∀ c ∈ cs.head?, isWhiteSpace c = false) ∧ ∀ c ∈ cs.getLast?, isWhiteSpace c = false := by
  rw [← skipSpace_eq_self_iff, ← skipSpaceEnd_eq_self_iff]
  constructor
  · intro same
    have front : skipSpace cs = cs := by
      refine (skipSpace_suffix cs).eq_of_length_le ?_
      calc cs.length = (trimChars cs).length := by rw [same]
        _ ≤ (skipSpace cs).length := length_skipSpaceEnd_le _
    refine ⟨front, ?_⟩
    rw [trimChars, front] at same
    exact same
  · rintro ⟨front, back⟩
    rw [trimChars, front, back]

/-- Trimming leaves a text as it is if neither end of it is white space. -/
theorem trim_eq_self_iff {words : String} : trim words = words ↔ IsTrimmed words := by
  rw [IsTrimmed, ← trimChars_eq_self_iff, trim]
  constructor
  · intro same
    have := congrArg String.toList same
    rwa [String.toList_ofList] at this
  · intro same
    rw [same, String.ofList_toList]

/-- What is left after skipping does not begin with white space. -/
theorem head_skipSpace (cs : List Char) : ∀ c ∈ (skipSpace cs).head?, isWhiteSpace c = false := by
  have first := List.head?_dropWhile_not isWhiteSpace cs
  intro c here
  rw [skipSpace] at here
  rw [Option.mem_def.mp here] at first
  exact first

/-- What is left after trimming neither begins nor ends with white space. -/
theorem trimChars_trimChars (cs : List Char) : trimChars (trimChars cs) = trimChars cs := by
  apply trimChars_eq_self_iff.mpr
  constructor
  · -- the trimmed text begins as what was left after skipping
    have front : trimChars cs <+: skipSpace cs := by
      have back := skipSpace_suffix (skipSpace cs).reverse
      rw [← List.reverse_prefix, List.reverse_reverse] at back
      exact back
    obtain ⟨dropped, split⟩ := front
    intro c here
    apply head_skipSpace cs c
    rw [← split, List.head?_append, Option.mem_def.mp here]
    rfl
  · intro c here
    rw [trimChars, skipSpaceEnd, List.getLast?_reverse] at here
    exact head_skipSpace (skipSpace cs).reverse c here

/-- What is trimmed is white space, at both ends. -/
theorem exists_blanks (cs : List Char) :
    ∃ lead gap, IsBlank lead ∧ IsBlank gap ∧ cs = lead ++ trimChars cs ++ gap := by
  obtain ⟨lead, leadBlank, front⟩ := exists_blank cs
  obtain ⟨gap, gapBlank, back⟩ := exists_blank (skipSpace cs).reverse
  refine ⟨lead, gap.reverse, leadBlank, fun c mem => gapBlank c (List.mem_reverse.mp mem), ?_⟩
  have kept := congrArg List.reverse back
  rw [List.reverse_reverse, List.reverse_append] at kept
  rw [List.append_assoc]
  exact front.trans (congrArg (lead ++ ·) kept)

end Discovery.Text
