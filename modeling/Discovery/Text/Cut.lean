/-!
# Cutting a text at a mark

`cutAt mark cs` splits a text around the first place where `mark` stands. It is how a reader finds
the end of a comment, of an attribute value or of a reference, and how `kind=value` is taken apart.
`readMark?` takes one character that has to stand next.

* `cutAt_eq_some`: the two parts, with the mark between them, are the text again.
* `cutAt_append`: a character is found where it first stands.
-/

namespace Discovery.Text

/-- Takes a given character off the front. -/
def readMark? (mark : Char) : List Char → Option (List Char)
  | [] => none
  | c :: rest => if c = mark then some rest else none

/-- Splits the text around the first occurrence of a (non-empty) mark into the part before it and
the part after it. -/
def cutAt (mark : List Char) : List Char → Option (List Char × List Char)
  | [] => none
  | c :: rest =>
    if mark.isPrefixOf (c :: rest) then
      some ([], (c :: rest).drop mark.length)
    else
      (cutAt mark rest).map fun (before, after) => (c :: before, after)

/-- The parts and the mark between them make up the text. -/
theorem cutAt_eq_some {mark : List Char} {cs before after : List Char}
    (h : cutAt mark cs = some (before, after)) : cs = before ++ mark ++ after := by
  induction cs generalizing before with
  | nil => simp [cutAt] at h
  | cons c rest ih =>
    rw [cutAt] at h
    split at h
    · next starts =>
      obtain ⟨more, split⟩ := List.isPrefixOf_iff_prefix.mp starts
      simp only [Option.some.injEq, Prod.mk.injEq] at h
      obtain ⟨rfl, rfl⟩ := h
      simp [← split]
    · obtain ⟨⟨b, a⟩, found, eq⟩ := Option.map_eq_some_iff.mp h
      simp only [Prod.mk.injEq] at eq
      obtain ⟨rfl, rfl⟩ := eq
      simpa using ih found

/-- A character is found where it first stands. -/
theorem cutAt_append {mark : Char} {before : List Char} (free : mark ∉ before)
    (after : List Char) : cutAt [mark] (before ++ mark :: after) = some (before, after) := by
  induction before with
  | nil => simp [cutAt]
  | cons c rest ih =>
    have differ : mark ≠ c := fun same => free (same ▸ List.mem_cons_self ..)
    have freeRest : mark ∉ rest := fun later => free (List.mem_cons_of_mem _ later)
    have notHere : [mark].isPrefixOf (c :: (rest ++ mark :: after)) = false := by
      simp [List.isPrefixOf, differ]
    rw [List.cons_append, cutAt, notHere, ih freeRest]
    rfl

/-- The part after the mark is shorter than the text by the mark at least. -/
theorem length_after_cutAt {mark : List Char} {cs before after : List Char}
    (h : cutAt mark cs = some (before, after)) : after.length + mark.length ≤ cs.length := by
  have := congrArg List.length (cutAt_eq_some h)
  simp only [List.length_append] at this
  omega

end Discovery.Text
