import Discovery.Proofs.Registry.Tables
import Discovery.Query.Evaluate

/-!
# Evaluation, index by index

`Query.evaluateAll` works on whole arrays. What it computes is a flag for each index: `Query.trueAt`
is the query's boolean structure over leaves that ask whether the tables list the index under a value
in the given relation to the target.

* `MatchArray.Shows`: an array shows a predicate over a population; one lemma for each operation;
* `Query.markTable_shows`: looking up the target, where the comparison is equality, marks what the
  scan of the table would mark;
* `Query.evaluateAll_shows`: the array of a query shows `trueAt`.
-/

namespace Discovery

namespace MatchArray

variable {a b : MatchArray} {population : List ComponentIndex} {p q : ComponentIndex → Bool}

/-- The array has the population's indexes, and its flags are those of the predicate. -/
structure Shows (a : MatchArray) (population : List ComponentIndex)
    (p : ComponentIndex → Bool) : Prop where
  indexes : a.indexes = population
  flags : ∀ {i flag}, a.get? i = some flag → flag = p i

/-- The entries are the population with the predicate. -/
theorem Shows.entries (shows : a.Shows population p) :
    a.entries = population.map fun i => (i, p i) := by
  have own : ∀ entry ∈ a.entries, id entry = (entry.1, p entry.1) := by
    rintro ⟨i, flag⟩ mem
    have held : a.get? i = some flag := SortedMap.mem_entries_iff.mp mem
    rw [← shows.flags held, id]
  calc a.entries = a.entries.map id := (List.map_id _).symm
    _ = a.entries.map fun entry => (entry.1, p entry.1) := List.map_congr_left own
    _ = a.indexes.map fun i => (i, p i) := by
        simp [MatchArray.indexes, SortedMap.keys, MatchArray.entries]
    _ = population.map fun i => (i, p i) := by rw [shows.indexes]

theorem Shows.congr (shows : a.Shows population p) (same : ∀ i, p i = q i) :
    a.Shows population q where
  indexes := shows.indexes
  flags held := by rw [← same, shows.flags held]

/-! ## Marking -/

theorem Shows.mark (shows : a.Shows population p) (index : ComponentIndex) :
    (a.mark index).Shows population fun i => p i || decide (i = index) where
  indexes := by rw [keys_mark, shows.indexes]
  flags := by
    intro i flag held
    rw [get?_mark] at held
    split at held
    · next here =>
      rcases Option.map_eq_some_iff.mp held with ⟨_, _, rfl⟩
      simp [here]
    · next differ =>
      rw [shows.flags held]
      simp [Ne.symm differ]

theorem Shows.markAll (shows : a.Shows population p) (marked : List ComponentIndex) :
    (a.markAll marked).Shows population fun i => p i || decide (i ∈ marked) := by
  unfold MatchArray.markAll
  induction marked generalizing a p with
  | nil => exact shows.congr (by simp)
  | cons index marked ih =>
    refine (ih (shows.mark index)).congr ?_
    intro i
    simp [Bool.or_assoc]

/-! ## Boolean operations -/

theorem get?_not (a : MatchArray) (i : ComponentIndex) : a.not.get? i = (a.get? i).map (!·) := by
  show SortedMap.find i (a.flags.entries.map fun entry => (entry.1, !entry.2)) =
    (SortedMap.find i a.flags.entries).map (!·)
  induction a.flags.entries with
  | nil => rfl
  | cons entry rest ih =>
    simp only [List.map_cons, SortedMap.find]
    split
    · rfl
    · exact ih

theorem Shows.not (shows : a.Shows population p) : a.not.Shows population fun i => !p i where
  indexes := by rw [keys_not, shows.indexes]
  flags := by
    intro i flag held
    rw [get?_not] at held
    rcases Option.map_eq_some_iff.mp held with ⟨old, before, rfl⟩
    rw [shows.flags before]

/-- Combining goes by position, which is combining by index where the indexes are the same. -/
theorem zipFlags_map (op : Bool → Bool → Bool) (population : List ComponentIndex) :
    zipFlags op (population.map fun i => (i, p i)) (population.map fun i => (i, q i)) =
      population.map fun i => (i, op (p i) (q i)) := by
  induction population with
  | nil => rfl
  | cons index population ih => simp [zipFlags, ih]

/-- Arrays of one population line up entry by entry. -/
theorem Shows.combine (op : Bool → Bool → Bool) (shows : a.Shows population p)
    (shows' : b.Shows population q) :
    (a.combine op b).Shows population fun i => op (p i) (q i) where
  indexes := by rw [keys_combine, shows.indexes]
  flags := by
    intro i flag held
    have mem : (i, flag) ∈ (a.combine op b).flags.entries := SortedMap.mem_entries_iff.mpr held
    have entries : (a.combine op b).flags.entries = population.map fun i => (i, op (p i) (q i)) := by
      show zipFlags op a.entries b.entries = _
      rw [shows.entries, shows'.entries, zipFlags_map]
    rw [entries] at mem
    rcases List.mem_map.mp mem with ⟨_, _, same⟩
    cases same
    rfl

/-! ## The array of a population -/

theorem find_ofList_false (l : List ComponentIndex) (m : SortedMap ComponentIndex Bool)
    (unmatched : ∀ {i flag}, m.get? i = some flag → flag = false) {i : ComponentIndex} {flag : Bool}
    (held : ((l.map (·, false)).foldl (fun m pair => m.insert pair.1 pair.2) m).get? i = some flag) :
    flag = false := by
  induction l generalizing m with
  | nil => exact unmatched held
  | cons index l ih =>
    refine ih (m.insert index false) ?_ held
    intro i flag held
    rw [SortedMap.get?_insert] at held
    split at held
    · cases held
      rfl
    · exact unmatched held

theorem shows_ofIndexes (population : List ComponentIndex) :
    (ofIndexes population).Shows (ofIndexes population).indexes fun _ => false where
  indexes := rfl
  flags held := find_ofList_false population .empty (fun nothing => by cases nothing) held

theorem mem_keys_foldl_insert (l : List ComponentIndex) (m : SortedMap ComponentIndex Bool)
    {i : ComponentIndex} :
    i ∈ ((l.map (·, false)).foldl (fun m pair => m.insert pair.1 pair.2) m).keys ↔
      i ∈ l ∨ i ∈ m.keys := by
  induction l generalizing m with
  | nil => simp
  | cons index l ih =>
    rw [List.map_cons, List.foldl_cons, ih, SortedMap.mem_keys_iff, SortedMap.contains_insert,
      List.mem_cons, SortedMap.mem_keys_iff, eq_comm (a := index), or_left_comm, or_assoc]

/-- The array of a population has the population's indexes, each once. -/
theorem mem_indexes_ofIndexes {i : ComponentIndex} :
    i ∈ (ofIndexes population).indexes ↔ i ∈ population := by
  have mem : i ∈ (ofIndexes population).indexes ↔
      i ∈ population ∨ i ∈ (SortedMap.empty : SortedMap ComponentIndex Bool).keys :=
    mem_keys_foldl_insert population .empty
  rw [mem]
  simp [SortedMap.keys, SortedMap.empty]

/-- An ascending population is kept as it is. -/
theorem indexes_ofIndexes (sorted : population.Pairwise (· < ·)) :
    (ofIndexes population).indexes = population :=
  SortedMap.eq_of_ascending (SortedMap.keys_ascending _) sorted fun _ => mem_indexes_ofIndexes

end MatchArray

namespace Query

variable {tables : IndexTables} {table : IndexTable} {i : ComponentIndex}

/-- Does the table list the index under a value in the given relation to the target? -/
def scan (comparison : Comparison) (target : String) (table : IndexTable)
    (i : ComponentIndex) : Bool :=
  table.entries.any fun entry => comparison.holds entry.1 target && entry.2.contains i

/-- What the query says of an index, by the tables. -/
def trueAt (tables : IndexTables) (i : ComponentIndex) : Query → Bool
  | .item facet comparison target => ((tables.get? facet).map (scan comparison target · i)).getD false
  | .and left right => trueAt tables i left && trueAt tables i right
  | .or left right => trueAt tables i left || trueAt tables i right
  | .not query => !trueAt tables i query

theorem scan_iff {comparison : Comparison} {target : String} :
    scan comparison target table i = true ↔
      ∃ value, comparison.holds value target = true ∧ table.lists value i = true := by
  simp only [scan, List.any_eq_true, Bool.and_eq_true, IndexTable.lists_iff]
  constructor
  · rintro ⟨⟨value, indexes⟩, mem, holds, listed⟩
    exact ⟨value, holds, indexes, SortedMap.mem_entries_iff.mp mem, listed⟩
  · rintro ⟨value, holds, indexes, held, listed⟩
    exact ⟨(value, indexes), SortedMap.mem_entries_iff.mpr held, holds, listed⟩

/-- A leaf is true where the tables list the index under a value that satisfies it. -/
theorem trueAt_item_iff {facet : Facet} {comparison : Comparison} {target : String} :
    (item facet comparison target).trueAt tables i = true ↔
      ∃ value, comparison.holds value target = true ∧ tables.lists facet value i = true := by
  unfold trueAt IndexTables.lists
  cases tables.get? facet with
  | none => simp [IndexTable.lists, SortedMap.contains]
  | some table => exact scan_iff

/-- For equality the scan is a look-up. -/
theorem scan_equal {target : String} :
    scan .equal target table i = table.lists target i := by
  rw [Bool.eq_iff_iff, scan_iff]
  simp [Comparison.holds]

theorem markScanned_shows (comparison : Comparison) (target : String)
    (entries : List (String × IndexSet)) {a : MatchArray} {population : List ComponentIndex}
    {p : ComponentIndex → Bool} (shows : a.Shows population p) :
    (entries.foldl (fun a entry =>
      if comparison.holds entry.1 target then a.markAll entry.2.keys else a) a).Shows population
      fun i => p i || entries.any fun entry => comparison.holds entry.1 target && entry.2.contains i := by
  -- along the entries, for the flags that have been set so far
  induction entries generalizing a p with
  | nil => exact shows.congr (by simp)
  | cons entry entries ih =>
    by_cases holds : comparison.holds entry.1 target = true
    · rw [List.foldl_cons, if_pos holds]
      refine (ih (shows.markAll entry.2.keys)).congr ?_
      intro i
      have listed : decide (i ∈ entry.2.keys) = entry.2.contains i := by
        rw [Bool.eq_iff_iff, decide_eq_true_iff, SortedMap.mem_keys_iff]
      simp [listed, holds, Bool.or_assoc]
    · rw [List.foldl_cons, if_neg holds]
      refine (ih shows).congr ?_
      intro i
      simp [holds]

/-- Marking by a table sets the flags of what a scan of the table finds. -/
theorem markTable_shows (comparison : Comparison) (target : String) {a : MatchArray}
    {population : List ComponentIndex} {p : ComponentIndex → Bool} (shows : a.Shows population p) :
    (markTable comparison target table a).Shows population
      fun i => p i || scan comparison target table i := by
  unfold markTable
  split
  · split
    · next indexes held =>
      refine (shows.markAll indexes.keys).congr ?_
      intro i
      rw [scan_equal, IndexTable.lists, held, Option.getD_some, Bool.eq_iff_iff]
      simp [SortedMap.mem_keys_iff]
    · next missing =>
      -- the target has no entry, so that nothing is listed under it
      refine shows.congr ?_
      intro i
      rw [scan_equal, IndexTable.lists, missing]
      simp [SortedMap.contains]
  · exact markScanned_shows _ target table.entries shows

/-- The array of a query has the population's indexes, and its flags are what the query says of each
by the tables. -/
theorem evaluateAll_shows (model : DataModel) (query : Query) :
    (query.evaluateAll model).Shows (MatchArray.ofIndexes model.population).indexes
      (query.trueAt model.tables ·) := by
  -- along the query; the operations on arrays follow those on flags
  induction query with
  | item facet comparison target =>
    unfold evaluateAll trueAt
    cases model.tables.get? facet with
    | none => exact MatchArray.shows_ofIndexes model.population
    | some table =>
      exact (markTable_shows comparison target (MatchArray.shows_ofIndexes model.population)).congr
        (by simp)
  | and left right ihl ihr => exact ihl.combine Bool.and ihr
  | or left right ihl ihr => exact ihl.combine Bool.or ihr
  | not query ih => exact ih.not

end Query

end Discovery
