import Discovery.Proofs.Query.Pointwise

/-!
# What a query means

Over a data model a query has a meaning at every index of the population: its boolean structure over leaves,
each of which asks the tables. The tables may be of any sort. A facet may have none, and they may list
indexes outside the population.

* `HoldsAt`: the meaning, and `trueAt_iff`: it is what the flags are computed from;
* `evaluateAll_congr`: queries with the same meaning over the population have the same array, whatever else
  the tables hold;
* `markTable_eq_scanTable`: looking a target up marks what going through the whole table marks;
* `evaluateAll_pointwise`: the array of a query, and the laws that follow.
-/

namespace Discovery

namespace MatchArray

variable {a b : MatchArray} {population : List ComponentIndex} {p : ComponentIndex → Bool}

/-- An array shows its own flags. -/
theorem shows_self (a : MatchArray) : a.Shows a.indexes fun i => (a.get? i).getD false where
  indexes := rfl
  flags held := by rw [held, Option.getD_some]

/-- Only one array shows a predicate over a population. -/
theorem Shows.unique (shows : a.Shows population p) (shows' : b.Shows population p) : a = b := by
  have entries : a.entries = b.entries := by rw [shows.entries, shows'.entries]
  have flags : a.flags = b.flags := SortedMap.eq_of_entries entries
  cases a
  cases b
  rw [MatchArray.mk.injEq]
  exact flags

/-- The array has a flag for each index of the population. -/
theorem Shows.get?_eq (shows : a.Shows population p) {i : ComponentIndex} (mem : i ∈ population) :
    a.get? i = some (p i) := by
  rw [← shows.indexes] at mem
  rcases SortedMap.contains_iff.mp (SortedMap.mem_keys_iff.mp mem) with ⟨flag, held⟩
  have here : a.get? i = some flag := held
  rw [here, shows.flags here]

/-- What the predicate says outside the population does not matter. -/
theorem Shows.congr_on {q : ComponentIndex → Bool} (shows : a.Shows population p)
    (same : ∀ i ∈ population, p i = q i) : a.Shows population q where
  indexes := shows.indexes
  flags := by
    intro i flag held
    have mem : i ∈ population := by
      rw [← shows.indexes]
      exact SortedMap.mem_keys_iff.mpr (SortedMap.contains_iff.mpr ⟨flag, held⟩)
    rw [shows.flags held, same i mem]

end MatchArray

namespace Query

variable {model : DataModel} {tables : IndexTables} {i : ComponentIndex} {q left right : Query}

/-! ## The meaning of a query -/

/-- What the query says of an index. A leaf holds if its facet has a table, and the table lists the index under
some value in the given relation to the target. -/
def HoldsAt (tables : IndexTables) (i : ComponentIndex) : Query → Prop
  | .item facet comparison target =>
    ∃ table, tables.get? facet = some table ∧
      ∃ value indexes, table.get? value = some indexes ∧
        comparison.holds value target = true ∧ indexes.contains i = true
  | .and left right => HoldsAt tables i left ∧ HoldsAt tables i right
  | .or left right => HoldsAt tables i left ∨ HoldsAt tables i right
  | .not query => ¬ HoldsAt tables i query

theorem trueAt_iff : q.trueAt tables i = true ↔ q.HoldsAt tables i := by
  induction q with
  | item facet comparison target =>
    unfold trueAt HoldsAt
    cases tables.get? facet with
    | none => simp
    | some table =>
      simp only [Option.map_some, Option.getD_some, scan_iff, IndexTable.lists_iff, Option.some.injEq,
        exists_eq_left']
      constructor
      · rintro ⟨value, holds, indexes, held, listed⟩
        exact ⟨value, indexes, held, holds, listed⟩
      · rintro ⟨value, indexes, held, holds, listed⟩
        exact ⟨value, holds, indexes, held, listed⟩
  | and left right ihl ihr => rw [trueAt, HoldsAt, Bool.and_eq_true, ihl, ihr]
  | or left right ihl ihr => rw [trueAt, HoldsAt, Bool.or_eq_true, ihl, ihr]
  | not q ih => rw [trueAt, HoldsAt, ← ih, Bool.not_eq_true', Bool.not_eq_true]

/-- Tables that list an index alike have queries hold of it alike. -/
theorem trueAt_congr {tables' : IndexTables}
    (same : ∀ facet value, tables.lists facet value i = tables'.lists facet value i) :
    q.trueAt tables i = q.trueAt tables' i := by
  induction q with
  | item facet comparison target =>
    rw [Bool.eq_iff_iff, trueAt_item_iff, trueAt_item_iff]
    simp only [same]
  | and left right ihl ihr => rw [trueAt, trueAt, ihl, ihr]
  | or left right ihl ihr => rw [trueAt, trueAt, ihl, ihr]
  | not q ih => rw [trueAt, trueAt, ih]

/-! ## Arrays of queries -/

/-- All queries over a model have arrays of one population, so that they line up. -/
theorem evaluateAll_indexes (model : DataModel) (q : Query) :
    (q.evaluateAll model).indexes = (MatchArray.ofIndexes model.population).indexes :=
  (evaluateAll_shows model q).indexes

theorem mem_evaluateAll_indexes : i ∈ (q.evaluateAll model).indexes ↔ i ∈ model.population := by
  rw [evaluateAll_indexes, MatchArray.mem_indexes_ofIndexes]

theorem evaluateAll_get? (mem : i ∈ model.population) :
    (q.evaluateAll model).get? i = some (q.trueAt model.tables i) :=
  (evaluateAll_shows model q).get?_eq (MatchArray.mem_indexes_ofIndexes.mpr mem)

/-- Queries that say the same of each member of one population, each by its own tables, have the same
array. -/
theorem evaluateAll_congr {q' : Query} {population : List ComponentIndex} {tables' : IndexTables}
    (same : ∀ i ∈ population, q.trueAt tables i = q'.trueAt tables' i) :
    q.evaluateAll ⟨population, tables⟩ = q'.evaluateAll ⟨population, tables'⟩ := by
  refine ((evaluateAll_shows ⟨population, tables⟩ q).congr_on ?_).unique
    (evaluateAll_shows ⟨population, tables'⟩ q')
  intro i mem
  exact same i (MatchArray.mem_indexes_ofIndexes.mp mem)

/-- Without a table of its facet a leaf holds of nothing. -/
theorem trueAt_of_no_table {facet : Facet} (missing : tables.get? facet = none)
    (comparison : Comparison) (target : String) :
    (item facet comparison target).trueAt tables i = false := by
  rw [trueAt, missing]
  rfl

/-! ## Looking up and scanning -/

/-- Marks what a table lists under values in the given relation to the target, by going through all of
it. -/
def scanTable (comparison : Comparison) (target : String) (table : IndexTable) (a : MatchArray) :
    MatchArray :=
  table.entries.foldl
    (fun a entry => if comparison.holds entry.1 target then a.markAll entry.2.keys else a) a

/-- Looking up the target, where the comparison is equality, makes no difference. -/
theorem markTable_eq_scanTable (comparison : Comparison) (target : String) (table : IndexTable)
    (a : MatchArray) :
    markTable comparison target table a = scanTable comparison target table a :=
  (markTable_shows comparison target a.shows_self).unique
    (markScanned_shows comparison target table.entries a.shows_self)

/-! ## Laws -/

/-- The laws of boolean algebra for a way of evaluating queries. -/
structure BooleanLaws (evaluate : Query → MatchArray) : Prop where
  not_not : ∀ q, evaluate (.not (.not q)) = evaluate q
  and_self : ∀ q, evaluate (.and q q) = evaluate q
  or_self : ∀ q, evaluate (.or q q) = evaluate q
  and_comm : ∀ left right, evaluate (.and left right) = evaluate (.and right left)
  or_comm : ∀ left right, evaluate (.or left right) = evaluate (.or right left)
  not_and : ∀ left right,
    evaluate (.not (.and left right)) = evaluate (.or (.not left) (.not right))
  not_or : ∀ left right,
    evaluate (.not (.or left right)) = evaluate (.and (.not left) (.not right))

/-- They hold entry by entry, hence for the arrays. -/
theorem booleanLaws (model : DataModel) : BooleanLaws (evaluateAll model) where
  not_not q := evaluateAll_congr fun i _ => Bool.not_not (q.trueAt model.tables i)
  and_self q := evaluateAll_congr fun i _ => Bool.and_self (q.trueAt model.tables i)
  or_self q := evaluateAll_congr fun i _ => Bool.or_self (q.trueAt model.tables i)
  and_comm left right := evaluateAll_congr fun i _ =>
    Bool.and_comm (left.trueAt model.tables i) (right.trueAt model.tables i)
  or_comm left right := evaluateAll_congr fun i _ =>
    Bool.or_comm (left.trueAt model.tables i) (right.trueAt model.tables i)
  not_and left right := evaluateAll_congr fun i _ =>
    Bool.not_and (left.trueAt model.tables i) (right.trueAt model.tables i)
  not_or left right := evaluateAll_congr fun i _ =>
    Bool.not_or (left.trueAt model.tables i) (right.trueAt model.tables i)

/-- Over any model, whatever its population and its tables: the array of a query has the population's indexes,
each once and in ascending order, and the flag of each is set if and only if the query holds of it. So the
arrays of two queries line up, tables that list the population alike give the same array whatever else they
list, a leaf whose facet has no table is false everywhere and its negation true, a look-up finds what a
scan finds, and the laws of boolean algebra hold. -/
theorem evaluateAll_pointwise (model : DataModel) :
    (∀ q : Query, (q.evaluateAll model).indexes.Pairwise (· < ·) ∧
      (∀ i, i ∈ (q.evaluateAll model).indexes ↔ i ∈ model.population) ∧
      ∀ i ∈ model.population, ∃ flag, (q.evaluateAll model).get? i = some flag ∧
        (flag = true ↔ q.HoldsAt model.tables i)) ∧
      (∀ left right : Query,
        (left.evaluateAll model).indexes = (right.evaluateAll model).indexes) ∧
      (∀ tables : IndexTables,
        (∀ i ∈ model.population, ∀ facet value,
          tables.lists facet value i = model.tables.lists facet value i) →
        ∀ q : Query, q.evaluateAll ⟨model.population, tables⟩ = q.evaluateAll model) ∧
      (∀ facet, model.tables.get? facet = none → ∀ comparison target, ∀ i ∈ model.population,
        ((item facet comparison target).evaluateAll model).get? i = some false ∧
          ((not (item facet comparison target)).evaluateAll model).get? i = some true) ∧
      (∀ comparison target table a,
        markTable comparison target table a = scanTable comparison target table a) ∧
      BooleanLaws (evaluateAll model) := by
  refine ⟨?_, ?_, ?_, ?_, markTable_eq_scanTable, booleanLaws model⟩
  · intro q
    refine ⟨SortedMap.keys_ascending _, fun i => mem_evaluateAll_indexes, ?_⟩
    intro i mem
    exact ⟨q.trueAt model.tables i, evaluateAll_get? mem, trueAt_iff⟩
  · intro left right
    rw [evaluateAll_indexes, evaluateAll_indexes]
  · intro tables same q
    refine evaluateAll_congr ?_
    intro i mem
    exact trueAt_congr (same i mem)
  · intro facet missing comparison target i mem
    -- without a table nothing is listed, and the negation holds of all
    have unmatched := trueAt_of_no_table (i := i) missing comparison target
    constructor
    · rw [evaluateAll_get? mem, unmatched]
    · rw [evaluateAll_get? mem, trueAt, unmatched, Bool.not_false]

/-- A population given out of order and with a repetition, with a table for one facet only, which lists a
member and an index that is none. -/
def inconsistent : DataModel where
  population := [7, 3, 7]
  tables := ((IndexTables.add 7 .empty (.attributes, "temperature")).add 9 (.attributes, "humidity"))

def apart : Query :=
  .or (.not (.item .attributes .equal "temperature")) (.item .port .different "")

theorem evaluateAll_pointwise_inconsistent :
    (apart.evaluateAll inconsistent).entries = [(3, true), (7, false)] ∧
      apart.HoldsAt inconsistent.tables 3 ∧ ¬ apart.HoldsAt inconsistent.tables 7 ∧
      apart.evaluateAll ⟨inconsistent.population,
        IndexTables.add 9 inconsistent.tables (.port, "80")⟩ = apart.evaluateAll inconsistent ∧
      ((Query.not (.item .port .different "")).evaluateAll inconsistent).get? 3 = some true := by
  have three : (3 : ComponentIndex) ∈ inconsistent.population := by decide
  have seven : (7 : ComponentIndex) ∈ inconsistent.population := by decide
  obtain ⟨pointwise, -, stale, missing, -⟩ := evaluateAll_pointwise inconsistent
  refine ⟨by decide +kernel, ?_, ?_, ?_, ?_⟩
  · obtain ⟨flag, held, holds⟩ := (pointwise apart).2.2 3 three
    have set : (apart.evaluateAll inconsistent).get? 3 = some true := by decide +kernel
    rw [set] at held
    exact holds.mp (Option.some.inj held).symm
  · obtain ⟨flag, held, holds⟩ := (pointwise apart).2.2 7 seven
    have unset : (apart.evaluateAll inconsistent).get? 7 = some false := by decide +kernel
    rw [unset] at held
    rw [← holds, ← Option.some.inj held]
    exact Bool.false_ne_true
  · refine stale _ ?_ apart
    intro i mem facet value
    -- the new entry is for an index outside the population
    have other : (9 : ComponentIndex) ≠ i := by
      rintro rfl
      exact absurd mem (by decide)
    rw [Bool.eq_iff_iff, IndexTables.lists_add]
    simp [other]
  · exact (missing .port (by decide +kernel) .different "" 3 three).2

end Query

end Discovery
