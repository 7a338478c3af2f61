import Discovery.Proofs.Query.Laws
import Mathlib.Data.List.Destutter

/-!
# Flagged sets

A match array is a set of indexes with a flag for each. Its flags can be kept in a plain list, of which nothing
says that the indexes ascend: the list of a population is sorted and rid of repetitions once, after that an
index is found by halving, and two lists are combined position by position. Halving goes wrong in a list that
does not ascend, and positions only line up between lists of the same indexes.

* `FlagList.Ascending.position?_eq_some_iff`: in an ascending list halving finds an index if and only if it is
  there;
* `MatchArray.History`: how an array can have come about, with the flag that the same calls give to one index
  alone;
* `MatchArray.History.shows`, `MatchArray.History.list_eq`: what an array with a history is, and how it is
  kept;
* `MatchArray.flagged_set`: both together, with what every operation does next.
-/

namespace Discovery

/-! ## Flags in a list -/

/-- Flagged indexes, by their positions. -/
abbrev FlagList := List (ComponentIndex × Bool)

namespace FlagList

variable {entries : FlagList} {index : ComponentIndex} {base size position : Nat}

/-- The list of a population: sorted, without what repeats the index before it, nothing flagged. -/
def ofIndexes (given : List ComponentIndex) : FlagList :=
  ((given.mergeSort (· ≤ ·)).destutter (· ≠ ·)).map (·, false)

/-- Looks for an index among the given number of entries from a base on. As long as there are several, the
entry in the middle decides which half is left. -/
def searchFrom (entries : FlagList) (index : ComponentIndex) (base size : Nat) : Option Nat :=
  if size ≤ 1 then
    if (entries[base]?).map (·.1) = some index then some base else none
  else if (entries[base + size / 2]?).any (index < ·.1) then
    searchFrom entries index base (size - size / 2)
  else
    searchFrom entries index (base + size / 2) (size - size / 2)
termination_by size

/-- The position of an index, found by halving. -/
def position? (entries : FlagList) (index : ComponentIndex) : Option Nat :=
  searchFrom entries index 0 entries.length

def flag? (entries : FlagList) (index : ComponentIndex) : Option Bool :=
  (position? entries index).bind fun position => (entries[position]?).map (·.2)

/-- Sets the flag at the position of an index, and answers whether there is one. -/
def tryMark (entries : FlagList) (index : ComponentIndex) : Bool × FlagList :=
  match position? entries index with
  | some position => (true, entries.modify position fun entry => (entry.1, true))
  | none => (false, entries)

def invert (entries : FlagList) : FlagList :=
  entries.map fun entry => (entry.1, !entry.2)

def matching (entries : FlagList) : List ComponentIndex :=
  (entries.filter (·.2)).map (·.1)

/-! ## Halving -/

/-- The indexes ascend. -/
def Ascending (entries : FlagList) : Prop :=
  entries.Pairwise fun entry later => entry.1 < later.1

/-- The entry at the position has the index. -/
def Holds (entries : FlagList) (index : ComponentIndex) (position : Nat) : Prop :=
  (entries[position]?).map (·.1) = some index

theorem Holds.exists_flag (holds : Holds entries index position) :
    ∃ flag, entries[position]? = some (index, flag) := by
  rcases Option.map_eq_some_iff.mp holds with ⟨⟨index, flag⟩, here, rfl⟩
  exact ⟨flag, here⟩

theorem holds_of_getElem? {entry : ComponentIndex × Bool} (here : entries[position]? = some entry) :
    Holds entries entry.1 position := by
  rw [Holds, here]
  rfl

/-- Of two positions in an ascending list the later one has the larger index. -/
theorem Ascending.lt_of_lt (ascending : Ascending entries) {other : ComponentIndex} {place : Nat}
    (holds : Holds entries index position) (holds' : Holds entries other place)
    (earlier : position < place) : index < other := by
  rcases holds.exists_flag with ⟨flag, held⟩
  rcases holds'.exists_flag with ⟨flag', held'⟩
  obtain ⟨inside, here⟩ := List.getElem?_eq_some_iff.mp held
  obtain ⟨inside', there⟩ := List.getElem?_eq_some_iff.mp held'
  have smaller := List.pairwise_iff_getElem.mp ascending position place inside inside' earlier
  rwa [here, there] at smaller

/-- An ascending list has an index at one position only. -/
theorem Ascending.unique (ascending : Ascending entries) {place : Nat}
    (holds : Holds entries index position) (holds' : Holds entries index place) : position = place := by
  rcases Nat.lt_trichotomy position place with earlier | same | later
  · exact absurd (ascending.lt_of_lt holds holds' earlier) (UInt32.lt_irrefl index)
  · exact same
  · exact absurd (ascending.lt_of_lt holds' holds later) (UInt32.lt_irrefl index)

/-- What halving finds is there, whether the list ascends or not. -/
theorem holds_of_searchFrom (found : searchFrom entries index base size = some position) :
    Holds entries index position := by
  fun_induction searchFrom entries index base size with
  | case1 base size few here =>
    cases found
    exact here
  | case2 => cases found
  | case3 base size several above ih => exact ih found
  | case4 base size several notAbove ih => exact ih found

/-- In an ascending list the half that is left still has the position of the index. -/
theorem Ascending.searchFrom_eq (ascending : Ascending entries) (holds : Holds entries index position)
    (inside : base + size ≤ entries.length) (begun : base ≤ position) (below : position < base + size) :
    searchFrom entries index base size = some position := by
  fun_induction searchFrom entries index base size with
  | case1 base size few here =>
    have last : base = position := by omega
    rw [last]
  | case2 base size few elsewhere =>
    have last : base = position := by omega
    exact absurd (last ▸ holds) elsewhere
  | case3 base size several above ih =>
    -- the index lies below the one in the middle, so that it cannot stand there or after it
    have first : position < base + size / 2 := by
      by_contra notFirst
      have middleInside : base + size / 2 < entries.length := by omega
      have middle := List.getElem?_eq_getElem middleInside
      have holdsMiddle := holds_of_getElem? middle
      have smaller : index < entries[base + size / 2].1 := by simpa [middle] using above
      rcases Nat.lt_or_eq_of_le (Nat.le_of_not_lt notFirst) with later | same
      · have back := ascending.lt_of_lt holdsMiddle holds later
        exact UInt32.lt_asymm smaller back
      · rw [Holds, ← same, middle] at holds
        exact UInt32.ne_of_lt smaller (Option.some.inj holds).symm
    exact ih (by omega) begun (by omega)
  | case4 base size several notAbove ih =>
    -- the index does not lie below the one in the middle, so that it cannot stand before it
    have second : base + size / 2 ≤ position := by
      by_contra notSecond
      have middleInside : base + size / 2 < entries.length := by omega
      have middle := List.getElem?_eq_getElem middleInside
      have holdsMiddle := holds_of_getElem? middle
      have smaller := ascending.lt_of_lt holds holdsMiddle (Nat.lt_of_not_le notSecond)
      exact notAbove (by simpa [middle] using smaller)
    exact ih (by omega) second (by omega)

/-- In an ascending list halving finds an index if and only if it is there. -/
theorem Ascending.position?_eq_some_iff (ascending : Ascending entries) :
    position? entries index = some position ↔ Holds entries index position := by
  constructor
  · intro found
    exact holds_of_searchFrom found
  · intro holds
    rcases holds.exists_flag with ⟨flag, here⟩
    obtain ⟨inside, -⟩ := List.getElem?_eq_some_iff.mp here
    exact ascending.searchFrom_eq holds (by omega) (Nat.zero_le _) (by omega)

/-! ## The list of a population -/

/-- What does not repeat the index before it is all that there is. -/
theorem mem_destutter_iff {given : List ComponentIndex} :
    index ∈ given.destutter (· ≠ ·) ↔ index ∈ given := by
  constructor
  · intro mem
    exact (List.destutter_sublist _ given).mem mem
  · cases given with
    | nil => exact id
    | cons first rest =>
      rw [List.destutter_cons']
      induction rest generalizing first with
      | nil => simp
      | cons second rest ih =>
        intro mem
        -- an index is left out only behind the same index, which is kept
        by_cases differ : first ≠ second
        · rw [List.destutter'_cons_pos _ differ]
          rcases List.mem_cons.mp mem with rfl | later
          · exact List.mem_cons_self ..
          · exact List.mem_cons_of_mem _ (ih second later)
        · rw [List.destutter'_cons_neg _ differ]
          refine ih first ?_
          rw [not_ne_iff.mp differ] at mem ⊢
          simpa using mem

/-- Where no index repeats the one before it, sorted indexes ascend strictly. -/
theorem pairwise_lt_of_isChain {given : List ComponentIndex} (apart : given.IsChain (· ≠ ·))
    (sorted : given.Pairwise (· ≤ ·)) : given.Pairwise (· < ·) := by
  induction given with
  | nil => exact .nil
  | cons first rest ih =>
    obtain ⟨least, sortedRest⟩ := List.pairwise_cons.mp sorted
    refine List.pairwise_cons.mpr ⟨?_, ih apart.tail sortedRest⟩
    intro later mem
    cases rest with
    | nil => cases mem
    | cons second rest =>
      have differ : first ≠ second := (List.isChain_cons_cons.mp apart).1
      have smaller : first < second := UInt32.lt_of_le_of_ne (least second (List.mem_cons_self ..)) differ
      rcases List.mem_cons.mp mem with rfl | more
      · exact smaller
      · exact UInt32.lt_of_lt_of_le smaller ((List.pairwise_cons.mp sortedRest).1 later more)

theorem ofIndexes_eq (given : List ComponentIndex) :
    ofIndexes given = (MatchArray.ofIndexes given).entries := by
  have sorted : (given.mergeSort (· ≤ ·)).Pairwise (· ≤ ·) := by
    have bySort : (given.mergeSort (· ≤ ·)).Pairwise fun a b => decide (a ≤ b) = true := by
      apply List.pairwise_mergeSort
      · intro a b c
        simpa using UInt32.le_trans
      · intro a b
        simpa using UInt32.le_total a b
    simpa using bySort
  have ascending : ((given.mergeSort (· ≤ ·)).destutter (· ≠ ·)).Pairwise (· < ·) :=
    pairwise_lt_of_isChain (List.isChain_destutter _ _) (sorted.sublist (List.destutter_sublist _ _))
  -- two ascending lists with the same members are the same list
  have indexes : (given.mergeSort (· ≤ ·)).destutter (· ≠ ·) = (MatchArray.ofIndexes given).indexes := by
    refine SortedMap.eq_of_ascending ascending (SortedMap.keys_ascending _) ?_
    intro index
    rw [mem_destutter_iff, List.mem_mergeSort]
    exact MatchArray.mem_indexes_ofIndexes.symm
  rw [(MatchArray.shows_ofIndexes given).entries, ofIndexes, indexes]

/-! ## Operations on the list of an array -/

theorem ascending_entries (a : MatchArray) : Ascending a.entries :=
  a.flags.ascending

/-- The entries of an array that are at the position of an index are those that the array has for it. -/
theorem position?_entries_eq_some_iff {a : MatchArray} :
    position? a.entries index = some position ↔
      ∃ flag, a.entries[position]? = some (index, flag) ∧ a.get? index = some flag := by
  rw [(ascending_entries a).position?_eq_some_iff]
  constructor
  · intro holds
    rcases holds.exists_flag with ⟨flag, here⟩
    exact ⟨flag, here, SortedMap.mem_entries_iff.mp (List.mem_of_getElem? here)⟩
  · rintro ⟨flag, here, -⟩
    exact holds_of_getElem? here

theorem exists_position?_of_get? {a : MatchArray} {flag : Bool} (held : a.get? index = some flag) :
    ∃ position, position? a.entries index = some position ∧
      a.entries[position]? = some (index, flag) := by
  rcases List.mem_iff_getElem?.mp (SortedMap.mem_entries_iff.mpr held) with ⟨position, here⟩
  exact ⟨position, position?_entries_eq_some_iff.mpr ⟨flag, here, held⟩, here⟩

theorem position?_eq_none_of_get? {a : MatchArray} (missing : a.get? index = none) :
    position? a.entries index = none := by
  rw [Option.eq_none_iff_forall_ne_some]
  intro position found
  rcases position?_entries_eq_some_iff.mp found with ⟨flag, -, held⟩
  rw [missing] at held
  cases held

/-- The flag at the position of an index is the one that the array has for it. -/
theorem flag?_entries (a : MatchArray) (index : ComponentIndex) :
    flag? a.entries index = a.get? index := by
  cases held : a.get? index with
  | none => rw [flag?, position?_eq_none_of_get? held, Option.bind_none]
  | some flag =>
    rcases exists_position?_of_get? held with ⟨position, found, here⟩
    rw [flag?, found, Option.bind_some, here]
    rfl

/-- Only the entry at the position of an index has the index, so that it can as well be told by it. -/
theorem modify_eq_map (ascending : Ascending entries) (holds : Holds entries index position) :
    (entries.modify position fun entry => (entry.1, true)) =
      entries.map fun entry => (entry.1, entry.2 || decide (entry.1 = index)) := by
  refine List.ext_getElem? ?_
  intro place
  rw [List.getElem?_modify, List.getElem?_map]
  -- at the position itself both set the flag, at any other place there is another index
  cases here : entries[place]? with
  | none => rfl
  | some entry =>
    have holdsPlace := holds_of_getElem? here
    by_cases same : position = place
    · rw [Holds, same, here] at holds
      simp [same, Option.some.inj holds]
    · have differ : entry.1 ≠ index := by
        rintro rfl
        exact same (ascending.unique holds holdsPlace)
      simp [same, differ]

end FlagList

namespace MatchArray

variable {a : MatchArray} {population : List ComponentIndex} {index i : ComponentIndex}

theorem entries_mark (a : MatchArray) (index : ComponentIndex) :
    (a.mark index).entries = a.entries.map fun entry => (entry.1, entry.2 || decide (entry.1 = index)) := by
  rw [(a.shows_self.mark index).entries, a.shows_self.entries, List.map_map]
  rfl

/-- Marking by position is marking. -/
theorem tryMark_entries (a : MatchArray) (index : ComponentIndex) :
    FlagList.tryMark a.entries index = ((a.tryMark index).1, (a.tryMark index).2.entries) := by
  rw [FlagList.tryMark, tryMark]
  cases held : a.get? index with
  | none =>
    have unknown : a.flags.contains index = false := by
      rw [SortedMap.contains, show a.flags.get? index = none from held]
      rfl
    rw [FlagList.position?_eq_none_of_get? held, mark, unknown]
    rfl
  | some flag =>
    have known : a.flags.contains index = true := SortedMap.contains_iff.mpr ⟨flag, held⟩
    -- what is in the population is found, and found where it stands
    rcases FlagList.exists_position?_of_get? held with ⟨position, found, here⟩
    have holds := FlagList.holds_of_getElem? here
    rw [found, known, entries_mark]
    exact congrArg (Prod.mk true) (FlagList.modify_eq_map (FlagList.ascending_entries a) holds)

theorem fst_tryMark_iff : (a.tryMark index).1 = true ↔ index ∈ a.indexes := by
  rw [indexes, SortedMap.mem_keys_iff]
  rfl

/-- An index that is not in the array is passed over. -/
theorem mark_of_not_mem (unknown : index ∉ a.indexes) : a.mark index = a := by
  rw [← fst_tryMark_iff] at unknown
  exact if_neg unknown

/-- The indexes that match are those whose flag is set, in their order. -/
theorem mem_matching_iff : i ∈ a.matching ↔ a.get? i = some true := by
  rw [matching, List.mem_map]
  constructor
  · rintro ⟨⟨index, flag⟩, mem, rfl⟩
    obtain ⟨held, set⟩ := List.mem_filter.mp mem
    cases set
    exact SortedMap.mem_entries_iff.mp held
  · intro held
    exact ⟨(i, true), List.mem_filter.mpr ⟨SortedMap.mem_entries_iff.mpr held, rfl⟩, rfl⟩

theorem matching_ascending (a : MatchArray) : a.matching.Pairwise (· < ·) :=
  List.pairwise_map.mpr (a.flags.ascending.filter _)

/-! ## Histories -/

/-- How an array has come about: from the indexes of a population, by marking and by the boolean operations.
What an array is combined with has a history of its own. -/
inductive History where
  | new (given : List ComponentIndex)
  | mark (before : History) (index : ComponentIndex)
  | not (before : History)
  | and (before other : History)
  | or (before other : History)

namespace History

variable {history other : History}

def array : History → MatchArray
  | .new given => ofIndexes given
  | .mark before index => (before.array.tryMark index).2
  | .not before => before.array.not
  | .and before other => before.array.and other.array
  | .or before other => before.array.or other.array

def list : History → FlagList
  | .new given => FlagList.ofIndexes given
  | .mark before index => (FlagList.tryMark before.list index).2
  | .not before => FlagList.invert before.list
  | .and before other => zipFlags Bool.and before.list other.list
  | .or before other => zipFlags Bool.or before.list other.list

/-- The flag that comes about for an index if all is done to that index alone. -/
def flag (i : ComponentIndex) : History → Bool
  | .new _ => false
  | .mark before index => flag i before || decide (i = index)
  | .not before => !flag i before
  | .and before other => flag i before && flag i other
  | .or before other => flag i before || flag i other

/-- All arrays in the history have been made for the indexes of one population, in whatever order and however
often they were given. -/
def Over (population : List ComponentIndex) : History → Prop
  | .new given => ∀ i, i ∈ given ↔ i ∈ population
  | .mark before _ => Over population before
  | .not before => Over population before
  | .and before other => Over population before ∧ Over population other
  | .or before other => Over population before ∧ Over population other

theorem indexes_ofIndexes_congr {given : List ComponentIndex} (same : ∀ i, i ∈ given ↔ i ∈ population) :
    (ofIndexes given).indexes = (ofIndexes population).indexes := by
  refine SortedMap.eq_of_ascending (SortedMap.keys_ascending _) (SortedMap.keys_ascending _) ?_
  intro i
  exact mem_indexes_ofIndexes.trans ((same i).trans mem_indexes_ofIndexes.symm)

/-- An array with a history has the indexes of its population, each with its own flag. -/
theorem shows (made : history.Over population) :
    history.array.Shows (ofIndexes population).indexes fun i => history.flag i := by
  induction history with
  | new given =>
    rw [array, ← indexes_ofIndexes_congr made]
    exact shows_ofIndexes given
  | mark before index ih => exact (ih made).mark index
  | not before ih => exact (ih made).not
  | and before other ih ihOther => exact (ih made.1).combine Bool.and (ihOther made.2)
  | or before other ih ihOther => exact (ih made.1).combine Bool.or (ihOther made.2)

/-- What is done to the list, by halving and position by position, is what is done to the array. -/
theorem list_eq (history : History) : history.list = history.array.entries := by
  induction history with
  | new given => exact FlagList.ofIndexes_eq given
  | mark before index ih => rw [list, ih, tryMark_entries, array]
  | not before ih =>
    rw [list, ih]
    rfl
  | and before other ih ihOther =>
    rw [list, ih, ihOther]
    rfl
  | or before other ih ihOther =>
    rw [list, ih, ihOther]
    rfl

theorem mem_indexes_iff (made : history.Over population) :
    i ∈ history.array.indexes ↔ i ∈ population := by
  rw [(shows made).indexes, mem_indexes_ofIndexes]

theorem get?_eq (made : history.Over population) (i : ComponentIndex) :
    history.array.get? i = if i ∈ population then some (history.flag i) else none := by
  split
  · next mem => exact (shows made).get?_eq (mem_indexes_ofIndexes.mpr mem)
  · next outside =>
    rw [← mem_indexes_iff made, indexes, SortedMap.mem_keys_iff] at outside
    exact SortedMap.not_contains_iff.mp outside

end History

/-- A match array is a set of indexes with a flag for each. Whatever is done to it, and to the arrays of the same
population that it is combined with, it has the population's indexes, each once and in ascending order, and the
flag of each is what the same calls come to for that index alone. Marking answers whether the index is there,
sets its flag and no other, and does nothing if it is not there; what matches are the indexes whose flag is
set, in ascending order. Where the flags are kept in a list, in which indexes are found by halving and which is
combined with others position by position, the list has the array's entries at every time, the same flags are
found in it and it is marked alike; and the positions of all lists over the population line up. -/
theorem flagged_set {history : History} (made : history.Over population) :
    let a := history.array
    (a.entries = a.indexes.map (fun i => (i, history.flag i)) ∧ a.indexes.Pairwise (· < ·) ∧
      ∀ i, i ∈ a.indexes ↔ i ∈ population) ∧
      (∀ i, a.get? i = if i ∈ population then some (history.flag i) else none) ∧
      (∀ index, (a.tryMark index).1 = decide (index ∈ population) ∧
        (∀ i, (a.tryMark index).2.get? i =
          if index = i ∧ i ∈ population then some true else a.get? i) ∧
        (index ∉ population → (a.tryMark index).2 = a)) ∧
      (a.matching.Pairwise (· < ·) ∧ ∀ i, i ∈ a.matching ↔ a.get? i = some true) ∧
      (history.list = a.entries ∧ FlagList.matching history.list = a.matching ∧
        (∀ i, FlagList.flag? history.list i = a.get? i) ∧
        (∀ index, FlagList.tryMark history.list index =
          ((a.tryMark index).1, (a.tryMark index).2.entries)) ∧
        ∀ other : History, other.Over population →
          other.list.map (·.1) = history.list.map (·.1)) := by
  intro a
  -- the array shows, for each of the population, the flag that its history makes
  have shown : a.Shows (ofIndexes population).indexes fun i => history.flag i := History.shows made
  refine ⟨⟨?_, SortedMap.keys_ascending _, fun i => History.mem_indexes_iff made⟩, History.get?_eq made, ?_,
    ⟨matching_ascending a, fun i => mem_matching_iff⟩, history.list_eq, ?_, ?_, ?_, ?_⟩
  · rw [shown.indexes]
    exact shown.entries
  · intro index
    refine ⟨?_, ?_, ?_⟩
    · rw [Bool.eq_iff_iff, fst_tryMark_iff, decide_eq_true_iff]
      exact History.mem_indexes_iff made
    · intro i
      show (a.mark index).get? i = _
      rw [get?_mark, History.get?_eq made]
      by_cases mem : i ∈ population
      · simp [mem]
      · simp [mem]
    · intro outside
      exact mark_of_not_mem (mt (History.mem_indexes_iff made).mp outside)
  · rw [history.list_eq]
    rfl
  · intro i
    rw [history.list_eq, FlagList.flag?_entries]
  · intro index
    rw [history.list_eq, tryMark_entries]
  · intro other overOther
    rw [other.list_eq, history.list_eq]
    exact (History.shows overOther).indexes.trans shown.indexes.symm

/-- A population given out of order and with a repetition, combined with an array for the same indexes in
another order. An index that is not there is marked as well. -/
def combined : History :=
  .and (.not (.mark (.mark (.new [7, 3, 9, 3]) 9) 5)) (.mark (.new [9, 3, 7]) 3)

theorem flagged_set_combined :
    combined.Over [7, 3, 9, 3] ∧ combined.list = [(3, true), (7, false), (9, false)] ∧
      FlagList.matching combined.list = [3] ∧ FlagList.flag? combined.list 5 = none ∧
      FlagList.tryMark combined.list 9 = (true, [(3, true), (7, false), (9, true)]) ∧
      (FlagList.tryMark combined.list 5).1 = false := by
  have made : combined.Over [7, 3, 9, 3] := by
    refine ⟨fun i => Iff.rfl, ?_⟩
    intro i
    simp only [List.mem_cons, List.not_mem_nil, or_false]
    tauto
  have entries : combined.array.entries = [(3, true), (7, false), (9, false)] := by decide +kernel
  have matched : combined.array.matching = [3] := by decide +kernel
  obtain ⟨-, flags, marked, -, kept, matching, found, keptMarked, -⟩ := flagged_set made
  have outside : (5 : ComponentIndex) ∉ [7, 3, 9, 3] := by decide
  refine ⟨made, kept.trans entries, matching.trans matched, ?_, ?_, ?_⟩
  · rw [found, flags, if_neg outside]
  · rw [keptMarked]
    decide +kernel
  · rw [keptMarked, (marked 5).1]
    exact decide_eq_false outside

end MatchArray

end Discovery
