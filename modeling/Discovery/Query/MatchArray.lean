import Discovery.Component.Basic

/-!
# Match arrays

A `MatchArray` has a flag for every component of a population, in ascending order of their indexes:
which of them a query matches. Arrays of one population are combined entry by entry.

* `get?_mark`: marking sets the flag of its index only, and only if the index is in the population;
* `keys_mark`, `keys_combine`, `keys_not`: no operation changes the population.
-/

namespace Discovery

/-- A flag for each component of a population. -/
structure MatchArray where
  flags : SortedMap ComponentIndex Bool
deriving Repr, DecidableEq

namespace MatchArray

/-- The array of a population in which nothing is matched. -/
def ofIndexes (indexes : List ComponentIndex) : MatchArray :=
  ⟨SortedMap.ofList (indexes.map (·, false))⟩

/-- The population in ascending order. -/
def indexes (a : MatchArray) : List ComponentIndex :=
  a.flags.keys

def get? (a : MatchArray) (index : ComponentIndex) : Option Bool :=
  a.flags.get? index

def entries (a : MatchArray) : List (ComponentIndex × Bool) :=
  a.flags.entries

/-- The indexes whose flag is set, in ascending order. -/
def matching (a : MatchArray) : List ComponentIndex :=
  (a.entries.filter (·.2)).map (·.1)

/-- Sets the flag of an index; one outside the population is left out. -/
def mark (a : MatchArray) (index : ComponentIndex) : MatchArray :=
  if a.flags.contains index then ⟨a.flags.insert index true⟩ else a

/-- Sets the flag of an index, and answers whether the index is in the population. -/
def tryMark (a : MatchArray) (index : ComponentIndex) : Bool × MatchArray :=
  (a.flags.contains index, a.mark index)

def markAll (a : MatchArray) (indexes : List ComponentIndex) : MatchArray :=
  indexes.foldl mark a

/-! ## Boolean operations -/

/-- Combines flags entry by entry, as far as there are entries to combine with. -/
def zipFlags (op : Bool → Bool → Bool) :
    List (ComponentIndex × Bool) → List (ComponentIndex × Bool) → List (ComponentIndex × Bool)
  | entry :: rest, other :: others => (entry.1, op entry.2 other.2) :: zipFlags op rest others
  | entries, _ => entries

theorem keys_zipFlags (op : Bool → Bool → Bool) (l l' : List (ComponentIndex × Bool)) :
    (zipFlags op l l').map (·.1) = l.map (·.1) := by
  fun_induction zipFlags op l l' with
  | case1 entry rest other others ih => simp [ih]
  | case2 => rfl

/-- Combines two arrays of one population entry by entry. -/
def combine (op : Bool → Bool → Bool) (a b : MatchArray) : MatchArray :=
  ⟨zipFlags op a.entries b.entries, by
    have sorted := a.flags.keys_ascending
    rw [SortedMap.keys, ← keys_zipFlags op a.flags.entries b.entries] at sorted
    exact List.pairwise_map.mp sorted⟩

def and (a b : MatchArray) : MatchArray :=
  combine Bool.and a b

def or (a b : MatchArray) : MatchArray :=
  combine Bool.or a b

def not (a : MatchArray) : MatchArray :=
  ⟨a.entries.map fun entry => (entry.1, !entry.2), List.pairwise_map.mpr a.flags.ascending⟩

/-! ## Small laws -/

theorem get?_mark (a : MatchArray) (index other : ComponentIndex) :
    (a.mark index).get? other =
      if index = other then (a.get? other).map fun _ => true else a.get? other := by
  by_cases known : a.flags.contains index = true
  · obtain ⟨flag, held⟩ := SortedMap.contains_iff.mp known
    rw [mark, if_pos known, get?, SortedMap.get?_insert]
    split
    · next same => simp [get?, ← same, held]
    · rfl
  · rw [mark, if_neg known]
    split
    · next same => simp [get?, ← same, SortedMap.not_contains_iff.mp known]
    · rfl

theorem keys_mark (a : MatchArray) (index : ComponentIndex) :
    (a.mark index).indexes = a.indexes := by
  unfold mark
  split
  · next known =>
    refine SortedMap.eq_of_ascending (SortedMap.keys_ascending _) (SortedMap.keys_ascending _) ?_
    intro other
    simp only [indexes, SortedMap.mem_keys_iff, SortedMap.contains_insert]
    constructor
    · rintro (rfl | held)
      · exact known
      · exact held
    · exact Or.inr
  · rfl

theorem keys_combine (op : Bool → Bool → Bool) (a b : MatchArray) :
    (a.combine op b).indexes = a.indexes :=
  keys_zipFlags op a.entries b.entries

theorem keys_not (a : MatchArray) : a.not.indexes = a.indexes := by
  simp [not, indexes, SortedMap.keys, entries]

end MatchArray

end Discovery
