import Discovery.Proofs.Query.Pointwise
import Discovery.Proofs.Registry.Coherence
import Mathlib.Data.List.Basic

/-!
# The two ways of evaluating a query agree

Over a consistent directory the tables list what the components say of themselves. What a query finds
through the tables is therefore what it finds by asking the components one by one.

* `Consistent.trueAt_eq`: by induction on the query, the flag of an index is the component's own
  answer;
* `Query.evaluations_agree`: queries over reached directories and by reached discoverers.
-/

namespace Discovery

namespace Directory

variable {d : Directory}

/-- By the tables a query says of a component what the component's description says. -/
theorem Consistent.trueAt_eq (consistent : d.Consistent) {i : ComponentIndex} {c : Component}
    (known : d.components.get? i = some c) (q : Query) :
    q.trueAt d.tables i = q.evaluateOne c := by
  induction q with
  | item facet comparison target =>
    rw [Bool.eq_iff_iff, Query.trueAt_item_iff, Query.evaluateOne, List.any_eq_true]
    constructor
    · rintro ⟨value, holds, listed⟩
      rcases consistent.listed.mp listed with ⟨c', known', mem⟩
      rw [known] at known'
      cases known'
      exact ⟨value, mem, holds⟩
    · rintro ⟨value, mem, holds⟩
      exact ⟨value, holds, consistent.listed.mpr ⟨c, known, mem⟩⟩
  | and left right ihl ihr => rw [Query.trueAt, Query.evaluateOne, ihl, ihr]
  | or left right ihl ihr => rw [Query.trueAt, Query.evaluateOne, ihl, ihr]
  | not q ih => rw [Query.trueAt, Query.evaluateOne, ih]

/-- The array of a query is each component's own answer, in the order of the components. -/
theorem Consistent.evaluateAll_entries (consistent : d.Consistent) (q : Query) :
    (q.evaluateAll d.dataModel).entries =
      d.components.entries.map fun entry => (entry.1, q.evaluateOne entry.2) := by
  have population : (MatchArray.ofIndexes d.dataModel.population).indexes = d.components.keys :=
    MatchArray.indexes_ofIndexes d.components.keys_ascending
  have shows := Query.evaluateAll_shows d.dataModel q
  rw [population] at shows
  rw [shows.entries, SortedMap.keys, List.map_map]
  refine List.map_congr_left ?_
  rintro ⟨i, c⟩ mem
  have known : d.components.get? i = some c := SortedMap.mem_entries_iff.mp mem
  show (i, q.trueAt d.tables i) = (i, q.evaluateOne c)
  rw [consistent.trueAt_eq known]

theorem Consistent.matching_eq (consistent : d.Consistent) (q : Query) :
    (q.evaluateAll d.dataModel).matching =
      (d.components.entries.filter fun entry => q.evaluateOne entry.2).map (·.1) := by
  rw [MatchArray.matching, consistent.evaluateAll_entries, List.filter_map, List.map_map]
  rfl

/-- A match is a component that says so itself. -/
theorem Consistent.mem_matching_iff (consistent : d.Consistent) {q : Query} {i : ComponentIndex} :
    i ∈ (q.evaluateAll d.dataModel).matching ↔ ∃ c, d.get? i = some c ∧ q.evaluateOne c = true := by
  rw [consistent.matching_eq, List.mem_map]
  constructor
  · rintro ⟨⟨i, c⟩, mem, rfl⟩
    obtain ⟨known, matched⟩ := List.mem_filter.mp mem
    exact ⟨c, SortedMap.mem_entries_iff.mp known, matched⟩
  · rintro ⟨c, known, matched⟩
    exact ⟨(i, c), List.mem_filter.mpr ⟨SortedMap.mem_entries_iff.mpr known, matched⟩, rfl⟩

end Directory

namespace Discoverer

variable {d : Discoverer} {q : Query}

/-- What a query finds are the components that match by their own answers. -/
theorem Coherent.found_eq (coherent : d.Coherent) (q : Query) :
    (d.query q).found = (d.directory.components.entries.filter fun entry =>
      q.evaluateOne entry.2).map fun entry => ⟨entry.1, entry.2.id⟩ := by
  unfold query
  rw [coherent.directory.matching_eq, List.filterMap_map]
  refine List.filterMap_eq_map_iff_forall_eq_some.mpr ?_
  rintro ⟨i, c⟩ mem
  have known : d.directory.get? i = some c :=
    SortedMap.mem_entries_iff.mp (List.mem_filter.mp mem).1
  simp [known]

/-- A match is found if and only if the component of its index says so and has its id. -/
theorem Coherent.mem_found_iff (coherent : d.Coherent) {found : Match} :
    found ∈ (d.query q).found ↔ d.matches? found.index q = some true ∧
      (d.description? found.index).map (·.id) = some found.id := by
  rw [coherent.found_eq, List.mem_map]
  constructor
  · rintro ⟨⟨i, c⟩, mem, rfl⟩
    rw [List.mem_filter] at mem
    have known : d.directory.get? i = some c := SortedMap.mem_entries_iff.mp mem.1
    simp [matches?, description?, known, mem.2]
  · rintro ⟨holds, named⟩
    rcases Option.map_eq_some_iff.mp named with ⟨c, known, id⟩
    have knownHere : d.directory.get? found.index = some c := known
    rw [matches?, knownHere, Option.map_some, Option.some.injEq] at holds
    refine ⟨(found.index, c), List.mem_filter.mpr ⟨SortedMap.mem_entries_iff.mpr known, holds⟩, ?_⟩
    show Match.mk found.index c.id = found
    rw [id]

theorem Coherent.found_ascending (coherent : d.Coherent) (q : Query) :
    ((d.query q).found.map (·.index)).Pairwise (· < ·) := by
  rw [coherent.found_eq, List.map_map]
  have sorted := d.directory.components.ascending.filter fun entry => q.evaluateOne entry.2
  exact List.pairwise_map.mpr sorted

end Discoverer

/-- Over every reached directory a query has one entry for each component, in ascending order, with the
component's own answer. So a reached discoverer finds exactly the components that match, each once and
with its id, in ascending order. -/
theorem Query.evaluations_agree (q : Query) :
    (∀ d : Directory, d.Reached →
      (q.evaluateAll d.dataModel).entries =
          d.components.entries.map (fun entry => (entry.1, q.evaluateOne entry.2)) ∧
        (q.evaluateAll d.dataModel).indexes.Pairwise (· < ·)) ∧
      ∀ d : Discoverer, d.Reached →
        (∀ found, found ∈ (d.query q).found ↔ d.matches? found.index q = some true ∧
          (d.description? found.index).map (·.id) = some found.id) ∧
          ((d.query q).found.map (·.index)).Pairwise (· < ·) := by
  constructor
  · intro d reached
    exact ⟨reached.consistent.1.evaluateAll_entries q, SortedMap.keys_ascending _⟩
  · intro d reached
    have coherent := reached.coherent.1
    exact ⟨fun _ => coherent.mem_found_iff, coherent.found_ascending q⟩

/-- Two entries of a directory share a value, which one of them repeats; a third is refused, and the
first is removed. -/
def Directory.exchange : List Directory.Operation :=
  [.insert ⟨"w1", "localhost", 2000, "", ["temperature"], [], [], none⟩,
    .insert ⟨"w2", "localhost", 1000, "", ["temperature", "temperature", ""], [], [], none⟩,
    .insert ⟨"w2", "elsewhere", 3000, "", [], [], [], none⟩, .remove 1, .remove 7]

/-- Not on a port below 1520, or of the temperature. -/
def Query.sample : Query :=
  .or (.not (.item .port .less "1520")) (.item .attributes .equal "temperature")

theorem Query.evaluations_agree_after_exchange :
    (Query.sample.evaluateAll (Directory.machine.run .new Directory.exchange).dataModel).entries =
        [(2, true)] ∧
      ∀ found, found ∈ (Discoverer.afterMorning.query Query.sample).found ↔
        Discoverer.afterMorning.matches? found.index Query.sample = some true ∧
          (Discoverer.afterMorning.description? found.index).map (·.id) = some found.id := by
  have reached : (Directory.machine.run .new Directory.exchange).Reached :=
    Directory.reached_run (by decide)
  rcases Query.evaluations_agree Query.sample with ⟨ofDirectories, ofDiscoverers⟩
  constructor
  · rw [(ofDirectories _ reached).1]
    decide +kernel
  · exact (ofDiscoverers _ Discoverer.afterMorning_reached).1

end Discovery
