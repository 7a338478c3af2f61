import Discovery.Text.Cut
import Mathlib.Data.List.Basic

/-!
# Where a mark is found

A text is cut at the first place where the mark stands. So the mark stands only at the end of what has
been read with it, and what follows has no influence on where the text is cut.

* `cutAt_eq_some_iff`: when a text is cut into two parts;
* `cutAt_eq_none_iff`: when it is not cut.
-/

namespace Discovery.Text

/-- The mark stands nowhere in the text but at its end. -/
def OnlyAtEnd (mark cs : List Char) : Prop :=
  ∀ before after, cs = before ++ mark ++ after → after = []

variable {mark cs before after : List Char} {c : Char}

theorem OnlyAtEnd.tail (only : OnlyAtEnd mark (c :: cs)) : OnlyAtEnd mark cs := by
  intro before after split
  refine only (c :: before) after ?_
  rw [split, List.cons_append, List.cons_append]

theorem onlyAtEnd_self (mark : List Char) : OnlyAtEnd mark mark := by
  intro before after split
  have lengths := congrArg List.length split
  simp only [List.length_append] at lengths
  exact List.eq_nil_of_length_eq_zero (by omega)

/-- A mark stands only at the end if its first character is not among those before it. -/
theorem onlyAtEnd_cons (absent : c ∉ before) : OnlyAtEnd (c :: mark) (before ++ c :: mark) := by
  intro front back split
  rw [List.append_assoc] at split
  rcases List.append_eq_append_iff.mp split with ⟨more, -, same⟩ | ⟨more, same, behind⟩
  · have lengths := congrArg List.length same
    simp only [List.length_append, List.length_cons] at lengths
    exact List.eq_nil_of_length_eq_zero (by omega)
  · cases more with
    | nil =>
      have lengths := congrArg List.length behind
      simp only [List.length_append, List.length_cons, List.nil_append] at lengths
      exact List.eq_nil_of_length_eq_zero (by omega)
    | cons first more =>
      -- the mark would begin before its place, and its first character would stand there
      rw [List.cons_append] at behind
      cases (List.cons.inj behind).1
      exact absurd (by rw [same]; simp) absent

/-- A character stands only at the end if it is not among those before it. -/
theorem onlyAtEnd_singleton_iff : OnlyAtEnd [c] (before ++ [c]) ↔ c ∉ before := by
  constructor
  · intro only mem
    rcases List.append_of_mem mem with ⟨front, back, split⟩
    have ends := only front (back ++ [c]) (by rw [split]; simp)
    simp at ends
  · intro absent
    exact onlyAtEnd_cons absent

/-- Where the mark stands only at the end it does not stand in front. -/
theorem OnlyAtEnd.not_isPrefixOf (only : OnlyAtEnd mark (c :: (before ++ mark)))
    (after : List Char) : mark.isPrefixOf (c :: (before ++ mark ++ after)) = false := by
  rw [Bool.eq_false_iff]
  intro starts
  have front : mark <+: (c :: (before ++ mark)) ++ after := by
    rw [List.cons_append]
    exact List.isPrefixOf_iff_prefix.mp starts
  have short : mark.length ≤ (c :: (before ++ mark)).length := by
    simp only [List.length_cons, List.length_append]
    omega
  rcases List.prefix_of_prefix_length_le front (List.prefix_append _ _) short with ⟨more, split⟩
  have none := only [] more (by rw [List.nil_append, split])
  rw [none, List.append_nil] at split
  have lengths := congrArg List.length split
  simp only [List.length_cons, List.length_append] at lengths
  omega

/-- A text is cut where the mark stands first. -/
theorem cutAt_of_onlyAtEnd (some : mark ≠ []) (only : OnlyAtEnd mark (before ++ mark))
    (after : List Char) : cutAt mark (before ++ mark ++ after) = .some (before, after) := by
  induction before with
  | nil =>
    have starts : mark.isPrefixOf (mark ++ after) = true :=
      List.isPrefixOf_iff_prefix.mpr (List.prefix_append _ _)
    rw [List.nil_append]
    cases here : mark ++ after with
    | nil => exact absurd (List.append_eq_nil_iff.mp here).1 some
    | cons first rest =>
      rw [here] at starts
      rw [cutAt, if_pos starts, ← here, List.drop_left]
  | cons first before ih =>
    have notHere : mark.isPrefixOf (first :: (before ++ mark ++ after)) = false :=
      only.not_isPrefixOf after
    rw [List.cons_append, List.cons_append, cutAt, notHere, ih only.tail]
    rfl

/-- A text is not cut where a character of the mark does not occur. -/
theorem cutAt_eq_none (inMark : c ∈ mark) (absent : c ∉ cs) : cutAt mark cs = none := by
  cases found : cutAt mark cs with
  | none => rfl
  | some parts =>
    refine absurd ?_ absent
    rw [cutAt_eq_some found]
    exact List.mem_append_left _ (List.mem_append_right _ inMark)

/-- Before the place where a text is cut the mark does not stand. -/
theorem onlyAtEnd_of_cutAt (found : cutAt mark cs = some (before, after)) :
    OnlyAtEnd mark (before ++ mark) := by
  induction cs generalizing before with
  | nil => cases found
  | cons first rest ih =>
    rw [cutAt] at found
    split at found
    · cases found
      exact onlyAtEnd_self mark
    · next notHere =>
      obtain ⟨⟨front, back⟩, foundLater, eq⟩ := Option.map_eq_some_iff.mp found
      cases eq
      intro b a split
      cases b with
      | nil =>
        -- the mark would stand in front, and the text would have been cut there
        refine absurd (List.isPrefixOf_iff_prefix.mpr ?_) notHere
        rw [cutAt_eq_some foundLater]
        refine ⟨a ++ after, ?_⟩
        have front := congrArg (· ++ after) split
        simpa using front.symm
      | cons x b =>
        rw [List.cons_append, List.cons_append, List.cons_append] at split
        exact ih foundLater b a (List.cons.inj split).2

/-- A text is cut into what stands before the first mark and what follows it. -/
theorem cutAt_eq_some_iff (some : mark ≠ []) :
    cutAt mark cs = .some (before, after) ↔
      cs = before ++ mark ++ after ∧ OnlyAtEnd mark (before ++ mark) := by
  constructor
  · intro found
    exact ⟨cutAt_eq_some found, onlyAtEnd_of_cutAt found⟩
  · rintro ⟨rfl, only⟩
    exact cutAt_of_onlyAtEnd some only after

/-- A text is cut if the mark stands somewhere in it. -/
theorem cutAt_eq_none_iff (some : mark ≠ []) : cutAt mark cs = none ↔ ¬ mark <:+: cs := by
  induction cs with
  | nil => simpa [cutAt] using some
  | cons first rest ih =>
    rw [cutAt, List.infix_cons_iff, not_or, ← ih]
    split
    · next here =>
      have starts := List.isPrefixOf_iff_prefix.mp here
      exact iff_of_false (Option.some_ne_none _) fun apart => apart.1 starts
    · next notHere =>
      rw [Option.map_eq_none_iff]
      exact (and_iff_right fun starts => notHere (List.isPrefixOf_iff_prefix.mpr starts)).symm

/-- Characters that are not in the mark do not bring it in. -/
theorem infix_append_iff_of_disjoint (some : mark ≠ []) (apart : ∀ c ∈ before, c ∉ mark) :
    mark <:+: before ++ after ↔ mark <:+: after := by
  induction before with
  | nil => rfl
  | cons first rest ih =>
    obtain ⟨notFirst, notLater⟩ := List.forall_mem_cons.mp apart
    rw [List.cons_append, List.infix_cons_iff, ih notLater]
    refine or_iff_right ?_
    intro starts
    cases mark with
    | nil => exact some rfl
    | cons c mark =>
      obtain ⟨rfl, -⟩ := List.cons_prefix_cons.mp starts
      exact notFirst (List.mem_cons_self ..)

end Discovery.Text
