/-!
# Finite maps in the order of their keys

A `SortedMap` is the list of its entries in strictly ascending order of the keys, so that two maps
with the same entries are equal, and listing one needs no sorting. Attributes, index tables,
components and leases are kept in such maps.

The view of a map is `get?`:

* `get?_insert`, `get?_erase`: what each operation does to it;
* `ext_get?`: it determines the map;
* `mem_entries_iff`: the entries are its graph;
* `entries_insert_of_above`: a key above all others goes to the end.
-/

namespace Discovery

/-- The laws of a strict total order, as the keys of a map need them. -/
class KeyOrder (κ : Type) [LT κ] : Prop where
  irrefl : ∀ a : κ, ¬ a < a
  trans : ∀ {a b c : κ}, a < b → b < c → a < c
  connected : ∀ {a b : κ}, ¬ a < b → ¬ b < a → a = b

instance : KeyOrder String where
  irrefl := String.lt_irrefl
  trans := String.lt_trans
  connected h h' := String.le_antisymm (String.not_lt.mp h') (String.not_lt.mp h)

instance : KeyOrder UInt32 where
  irrefl := UInt32.lt_irrefl
  trans := UInt32.lt_trans
  connected h h' := UInt32.le_antisymm (UInt32.not_lt.mp h') (UInt32.not_lt.mp h)

/-- A finite map, as the list of its entries in strictly ascending order of the keys. -/
structure SortedMap (κ ν : Type) [LT κ] where
  /-- The entries in order. -/
  entries : List (κ × ν)
  /-- Each key is smaller than those after it. -/
  ascending : entries.Pairwise fun a b => a.1 < b.1
deriving Repr, DecidableEq

namespace SortedMap

variable {κ ν : Type} [LT κ] [DecidableLT κ] [DecidableEq κ]

/-! ## Lists of entries -/

/-- Puts an entry into a sorted list, in place of one with the same key. -/
def insertEntry (key : κ) (value : ν) : List (κ × ν) → List (κ × ν)
  | [] => [(key, value)]
  | entry :: rest =>
    if key < entry.1 then (key, value) :: entry :: rest
    else if entry.1 < key then entry :: insertEntry key value rest
    else (key, value) :: rest

/-- The value that a list of entries holds under a key. -/
def find (key : κ) : List (κ × ν) → Option ν
  | [] => none
  | entry :: rest => if entry.1 = key then some entry.2 else find key rest

omit [DecidableEq κ] in
theorem mem_insertEntry {key : κ} {value : ν} {entry : κ × ν} {l : List (κ × ν)}
    (h : entry ∈ insertEntry key value l) : entry = (key, value) ∨ entry ∈ l := by
  induction l with
  | nil => simpa [insertEntry] using h
  | cons first rest ih =>
    rw [insertEntry] at h
    split at h
    · simpa using h
    · split at h
      · rcases List.mem_cons.mp h with rfl | later
        · exact .inr (List.mem_cons_self ..)
        · exact (ih later).imp_right (List.mem_cons_of_mem _)
      · rcases List.mem_cons.mp h with rfl | later
        · exact .inl rfl
        · exact .inr (List.mem_cons_of_mem _ later)

omit [DecidableEq κ] in
theorem ascending_insertEntry [KeyOrder κ] (key : κ) (value : ν) {l : List (κ × ν)}
    (sorted : l.Pairwise fun a b => a.1 < b.1) :
    (insertEntry key value l).Pairwise fun a b => a.1 < b.1 := by
  induction l with
  | nil => simp [insertEntry]
  | cons first rest ih =>
    obtain ⟨below, sortedRest⟩ := List.pairwise_cons.mp sorted
    rw [insertEntry]
    split
    · next before =>
      refine List.pairwise_cons.mpr ⟨fun entry mem => ?_, sorted⟩
      rcases List.mem_cons.mp mem with rfl | later
      · exact before
      · exact KeyOrder.trans before (below _ later)
    · split
      · next after =>
        refine List.pairwise_cons.mpr ⟨fun entry mem => ?_, ih sortedRest⟩
        rcases mem_insertEntry mem with rfl | later
        · exact after
        · exact below _ later
      · next notBefore notAfter =>
        have same : key = first.1 := KeyOrder.connected notBefore notAfter
        exact List.pairwise_cons.mpr ⟨fun entry mem => same ▸ below _ mem, sortedRest⟩

omit [DecidableEq κ] in
theorem insertEntry_of_above [KeyOrder κ] {key : κ} {l : List (κ × ν)}
    (above : ∀ entry ∈ l, entry.1 < key) (value : ν) :
    insertEntry key value l = l ++ [(key, value)] := by
  induction l with
  | nil => rfl
  | cons first rest ih =>
    obtain ⟨firstBelow, restBelow⟩ := List.forall_mem_cons.mp above
    have notAbove : ¬ key < first.1 := by
      intro back
      exact KeyOrder.irrefl _ (KeyOrder.trans firstBelow back)
    rw [insertEntry, if_neg notAbove, if_pos firstBelow, ih restBelow, List.cons_append]

theorem find_insertEntry [KeyOrder κ] (key key' : κ) (value : ν) (l : List (κ × ν)) :
    find key' (insertEntry key value l) = if key = key' then some value else find key' l := by
  induction l with
  | nil => rfl
  | cons first rest ih =>
    rw [insertEntry]
    split
    · rfl
    · split
      · next after =>
        rw [find, find, ih]
        split
        · next same =>
          -- the keys ascend, so that the one looked for cannot be the later one
          have differ : key ≠ key' := by
            rintro rfl
            exact KeyOrder.irrefl _ (same ▸ after)
          rw [if_neg differ]
        · rfl
      · next notBefore notAfter =>
        have same : key = first.1 := KeyOrder.connected notBefore notAfter
        simp only [find, ← same]
        split <;> rfl

omit [DecidableLT κ] in
theorem find_eq_some_of_mem [KeyOrder κ] {l : List (κ × ν)}
    (sorted : l.Pairwise fun a b => a.1 < b.1) {entry : κ × ν} (mem : entry ∈ l) :
    find entry.1 l = some entry.2 := by
  induction l with
  | nil => simp at mem
  | cons first rest ih =>
    obtain ⟨below, sortedRest⟩ := List.pairwise_cons.mp sorted
    rw [find]
    rcases List.mem_cons.mp mem with rfl | later
    · rw [if_pos rfl]
    · have differ : first.1 ≠ entry.1 := by
        intro same
        have smaller := below entry later
        rw [same] at smaller
        exact KeyOrder.irrefl _ smaller
      rw [if_neg differ, ih sortedRest later]

omit [LT κ] [DecidableLT κ] in
theorem mem_of_find_eq_some {l : List (κ × ν)} {key : κ} {value : ν}
    (found : find key l = some value) : (key, value) ∈ l := by
  induction l with
  | nil => simp [find] at found
  | cons first rest ih =>
    rw [find] at found
    split at found
    · next same =>
      cases found
      exact same ▸ List.mem_cons_self ..
    · exact List.mem_cons_of_mem _ (ih found)

omit [LT κ] [DecidableLT κ] in
theorem find_filter_ne (key key' : κ) (l : List (κ × ν)) :
    find key' (l.filter fun entry => entry.1 ≠ key) =
      if key = key' then none else find key' l := by
  induction l with
  | nil => simp [find]
  | cons first rest ih =>
    by_cases same : first.1 = key
    · rw [List.filter_cons_of_neg (by simpa using same), ih, find]
      split
      · rfl
      · next differ => rw [if_neg (same ▸ differ)]
    · rw [List.filter_cons_of_pos (by simpa using same), find, find, ih]
      by_cases here : first.1 = key'
      · have differ : key ≠ key' := fun h => same (here.trans h.symm)
        simp [here, differ]
      · simp [here]

omit [DecidableLT κ] [DecidableEq κ] in
/-- Two sorted lists with the same members are equal. -/
theorem eq_of_mem_iff [KeyOrder κ] {l l' : List (κ × ν)}
    (sorted : l.Pairwise fun a b => a.1 < b.1) (sorted' : l'.Pairwise fun a b => a.1 < b.1)
    (same : ∀ entry, entry ∈ l ↔ entry ∈ l') : l = l' := by
  induction l generalizing l' with
  | nil =>
    cases l' with
    | nil => rfl
    | cons first rest => simpa using (same first).mpr (List.mem_cons_self ..)
  | cons first rest ih =>
    cases l' with
    | nil => simpa using (same first).mp (List.mem_cons_self ..)
    | cons first' rest' =>
      obtain ⟨below, sortedRest⟩ := List.pairwise_cons.mp sorted
      obtain ⟨below', sortedRest'⟩ := List.pairwise_cons.mp sorted'
      -- each first entry is the least of its list, and both lists have the same least entry
      have firsts : first = first' := by
        rcases List.mem_cons.mp ((same first).mp (List.mem_cons_self ..)) with h | later
        · exact h
        · rcases List.mem_cons.mp ((same first').mpr (List.mem_cons_self ..)) with h | later'
          · exact h.symm
          · exact absurd (KeyOrder.trans (below _ later') (below' _ later)) (KeyOrder.irrefl _)
      subst firsts
      -- neither rest holds the first entry, so that they too have the same entries
      have rests : rest = rest' := by
        refine ih sortedRest sortedRest' fun entry => ⟨fun mem => ?_, fun mem => ?_⟩
        · rcases List.mem_cons.mp ((same entry).mp (List.mem_cons_of_mem _ mem)) with rfl | h
          · exact absurd (below _ mem) (KeyOrder.irrefl _)
          · exact h
        · rcases List.mem_cons.mp ((same entry).mpr (List.mem_cons_of_mem _ mem)) with rfl | h
          · exact absurd (below' _ mem) (KeyOrder.irrefl _)
          · exact h
      rw [rests]

/-! ## Operations -/

def empty : SortedMap κ ν := ⟨[], .nil⟩

instance : Inhabited (SortedMap κ ν) := ⟨empty⟩

def get? (m : SortedMap κ ν) (key : κ) : Option ν :=
  find key m.entries

def contains (m : SortedMap κ ν) (key : κ) : Bool :=
  (m.get? key).isSome

/-- The map with the value under the key, in place of what it held there. -/
def insert [KeyOrder κ] (m : SortedMap κ ν) (key : κ) (value : ν) : SortedMap κ ν :=
  ⟨insertEntry key value m.entries, ascending_insertEntry key value m.ascending⟩

/-- The map without what it held under the key. -/
def erase (m : SortedMap κ ν) (key : κ) : SortedMap κ ν :=
  ⟨m.entries.filter fun entry => entry.1 ≠ key, m.ascending.filter _⟩

def keys (m : SortedMap κ ν) : List κ :=
  m.entries.map (·.1)

def values (m : SortedMap κ ν) : List ν :=
  m.entries.map (·.2)

def size (m : SortedMap κ ν) : Nat :=
  m.entries.length

def isEmpty (m : SortedMap κ ν) : Bool :=
  m.entries.isEmpty

/-- The map that results from inserting pairs one after another. -/
def ofList [KeyOrder κ] (pairs : List (κ × ν)) : SortedMap κ ν :=
  pairs.foldl (fun m pair => m.insert pair.1 pair.2) empty

/-! ## The view -/

omit [DecidableLT κ] in
@[simp] theorem get?_empty (key : κ) : (empty : SortedMap κ ν).get? key = none := rfl

/-- Insertion changes the map at its key only. -/
theorem get?_insert [KeyOrder κ] (m : SortedMap κ ν) (key key' : κ) (value : ν) :
    (m.insert key value).get? key' = if key = key' then some value else m.get? key' :=
  find_insertEntry key key' value m.entries

omit [DecidableLT κ] in
/-- Erasing empties the map at its key only. -/
theorem get?_erase (m : SortedMap κ ν) (key key' : κ) :
    (m.erase key).get? key' = if key = key' then none else m.get? key' :=
  find_filter_ne key key' m.entries

omit [DecidableLT κ] in
/-- The entries are the graph of `get?`. -/
theorem mem_entries_iff [KeyOrder κ] {m : SortedMap κ ν} {key : κ} {value : ν} :
    (key, value) ∈ m.entries ↔ m.get? key = some value :=
  ⟨find_eq_some_of_mem m.ascending, mem_of_find_eq_some⟩

omit [DecidableLT κ] in
/-- Maps that hold the same under every key are equal. -/
theorem ext_get? [KeyOrder κ] {m m' : SortedMap κ ν} (same : ∀ key, m.get? key = m'.get? key) :
    m = m' := by
  obtain ⟨entries, sorted⟩ := m
  obtain ⟨entries', sorted'⟩ := m'
  have lists : entries = entries' := by
    refine eq_of_mem_iff sorted sorted' fun ⟨key, value⟩ => ?_
    have here : (key, value) ∈ entries ↔ _ := mem_entries_iff (m := ⟨entries, sorted⟩)
    rw [same key] at here
    exact here.trans mem_entries_iff.symm
  subst lists
  rfl

omit [DecidableLT κ] in
theorem contains_iff {m : SortedMap κ ν} {key : κ} :
    m.contains key = true ↔ ∃ value, m.get? key = some value :=
  Option.isSome_iff_exists

omit [DecidableLT κ] in
theorem not_contains_iff {m : SortedMap κ ν} {key : κ} :
    ¬ m.contains key = true ↔ m.get? key = none :=
  Option.not_isSome_iff_eq_none

/-- After insertion the map holds something under one more key. -/
theorem contains_insert [KeyOrder κ] {m : SortedMap κ ν} {key key' : κ} {value : ν} :
    (m.insert key value).contains key' = true ↔ key = key' ∨ m.contains key' = true := by
  by_cases same : key = key' <;> simp [contains, get?_insert, same]

omit [DecidableLT κ] in
/-- After erasing the map holds nothing under the key. -/
theorem contains_erase {m : SortedMap κ ν} {key key' : κ} :
    (m.erase key).contains key' = true ↔ key ≠ key' ∧ m.contains key' = true := by
  by_cases same : key = key' <;> simp [contains, get?_erase, same]

omit [DecidableLT κ] in
theorem get?_of_isEmpty {m : SortedMap κ ν} (empty : m.isEmpty = true) (key : κ) :
    m.get? key = none := by
  rw [get?, List.isEmpty_iff.mp empty]
  rfl

omit [DecidableLT κ] in
/-- The keys are those under which the map holds something. -/
theorem mem_keys_iff [KeyOrder κ] {m : SortedMap κ ν} {key : κ} :
    key ∈ m.keys ↔ m.contains key = true := by
  rw [contains_iff, keys, List.mem_map]
  constructor
  · rintro ⟨⟨_, value⟩, mem, rfl⟩
    exact ⟨value, mem_entries_iff.mp mem⟩
  · rintro ⟨value, held⟩
    exact ⟨(key, value), mem_entries_iff.mpr held, rfl⟩

omit [DecidableLT κ] [DecidableEq κ] in
/-- The keys ascend. -/
theorem keys_ascending (m : SortedMap κ ν) : m.keys.Pairwise (· < ·) :=
  List.pairwise_map.mpr m.ascending

omit [DecidableLT κ] [DecidableEq κ] in
/-- Two ascending lists with the same members are equal. -/
theorem eq_of_ascending [KeyOrder κ] {l l' : List κ} (sorted : l.Pairwise (· < ·))
    (sorted' : l'.Pairwise (· < ·)) (same : ∀ key, key ∈ l ↔ key ∈ l') : l = l' := by
  have pairs : l.map (·, ()) = l'.map (·, ()) := by
    refine eq_of_mem_iff (List.pairwise_map.mpr sorted) (List.pairwise_map.mpr sorted') ?_
    rintro ⟨key, value⟩
    simpa using same key
  simpa [Function.comp_def] using congrArg (List.map Prod.fst) pairs

omit [DecidableLT κ] [DecidableEq κ] in
theorem eq_of_entries {m m' : SortedMap κ ν} (same : m.entries = m'.entries) : m = m' := by
  cases m
  cases m'
  cases same
  rfl

omit [DecidableEq κ] in
/-- A key above all others goes to the end. -/
theorem entries_insert_of_above [KeyOrder κ] {m : SortedMap κ ν} {key : κ}
    (above : ∀ entry ∈ m.entries, entry.1 < key) (value : ν) :
    (m.insert key value).entries = m.entries ++ [(key, value)] :=
  insertEntry_of_above above value

end SortedMap

end Discovery
