import Discovery.Proofs.Registry.Holdings
import Mathlib.Data.List.Sort

/-!
# Leases kept without an order

Leases can be kept in a table that has no order: whoever lists its entries gets them in some order, and in another
one the next time. What is published then is such a list, sorted by the indexes that the leases themselves have, and
a lease is renewed by taking out the one that is there before the new one is put in. Nobody can tell the
difference from a registry that keeps its leases in the order of their components: sorting leads to this order
because each lease is kept under its own index.

* `SortedMap.insert_erase`, `SortedMap.find_of_perm`, `SortedMap.entries_insert_perm`: the operations on the entries
  of a map in any order;
* `Entries.snapshot_of_perm`: the leases, sorted by their own indexes, are the values of the map in order;
* `Unordered.Represents.serve`: a request is answered alike and leads to the same;
* `Unordered.listed_in_any_order`: so does every run, by induction on the requests.
-/

namespace Discovery

/-! ## The entries of a map in any order -/

namespace SortedMap

variable {κ ν : Type} [LT κ] [DecidableLT κ] [DecidableEq κ] [KeyOrder κ] {m : SortedMap κ ν} {entries : List (κ × ν)}
  {key : κ} {value : ν}

/-- To take out what is there before something is put in makes no difference. -/
theorem insert_erase : (m.erase key).insert key value = m.insert key value := by
  apply ext_get?
  intro key'
  rw [get?_insert, get?_insert, get?_erase]
  split <;> rfl

omit [DecidableLT κ] [DecidableEq κ] in
theorem nodup_entries (m : SortedMap κ ν) : m.entries.Nodup := by
  refine m.ascending.imp ?_
  rintro a b below rfl
  exact KeyOrder.irrefl _ below

omit [LT κ] [DecidableLT κ] [KeyOrder κ] in
/-- A key that is not found is in no entry. -/
theorem ne_of_find_eq_none (absent : find key entries = none) : ∀ entry ∈ entries, entry.1 ≠ key := by
  induction entries with
  | nil => simp
  | cons first rest ih =>
    rw [find] at absent
    split at absent
    · cases absent
    · next other => exact List.forall_mem_cons.mpr ⟨other, ih absent⟩

omit [DecidableLT κ] in
/-- In whatever order the entries are, a key leads to what the map holds. -/
theorem find_of_perm (perm : entries.Perm m.entries) : find key entries = m.get? key := by
  cases found : find key entries with
  | some value =>
    symm
    exact mem_entries_iff.mp (perm.mem_iff.mp (mem_of_find_eq_some found))
  | none =>
    symm
    rw [Option.eq_none_iff_forall_ne_some]
    intro value held
    exact ne_of_find_eq_none found (key, value) (perm.mem_iff.mpr (mem_entries_iff.mpr held)) rfl

/-- A new entry in front of the others is a list of the map with it. -/
theorem entries_insert_perm : ((key, value) :: (m.erase key).entries).Perm (m.insert key value).entries := by
  have fresh : (key, value) ∉ (m.erase key).entries := by
    rw [mem_entries_iff, get?_erase, if_pos rfl]
    simp
  refine (List.perm_ext_iff_of_nodup (List.nodup_cons.mpr ⟨fresh, nodup_entries _⟩) (nodup_entries _)).mpr ?_
  rintro ⟨key', value'⟩
  rw [List.mem_cons, mem_entries_iff, mem_entries_iff, get?_erase, get?_insert]
  by_cases here : key = key'
  · subst here
    simp [eq_comm]
  · have other : ¬ (key', value') = (key, value) := by
      rintro ⟨⟩
      exact here rfl
    simp [here, other]

end SortedMap

namespace LeaseRegistry

/-- The entries of a table of leases, in the order in which they happen to be listed. -/
abbrev Entries := List (ComponentIndex × Lease)

namespace Entries

variable {entries : Entries} {leases : SortedMap ComponentIndex Lease}

def get? (entries : Entries) (index : ComponentIndex) : Option Lease :=
  SortedMap.find index entries

def takeOut (entries : Entries) (index : ComponentIndex) : Entries :=
  entries.filter fun entry => entry.1 ≠ index

/-- The entries with a lease put in, in place of the one that is there. -/
def putIn (entries : Entries) (lease : Lease) : Entries :=
  (lease.index, lease) :: entries.takeOut lease.index

/-- The leases, sorted by their own indexes. -/
def snapshot (entries : Entries) : List Lease :=
  (entries.map (·.2)).mergeSort fun a b => a.index ≤ b.index

theorem get?_of_perm (perm : entries.Perm leases.entries) (index : ComponentIndex) :
    entries.get? index = leases.get? index :=
  SortedMap.find_of_perm perm

theorem takeOut_perm (perm : entries.Perm leases.entries) (index : ComponentIndex) :
    (entries.takeOut index).Perm (leases.erase index).entries :=
  perm.filter _

theorem putIn_perm (perm : entries.Perm leases.entries) (lease : Lease) :
    (entries.putIn lease).Perm (leases.insert lease.index lease).entries :=
  ((takeOut_perm perm lease.index).cons _).trans SortedMap.entries_insert_perm

/-- However the leases are listed: sorted by their own indexes they are in the order of the components that they are
kept under, as long as each is kept under its own. -/
theorem snapshot_of_perm (own : ∀ i lease, leases.get? i = some lease → lease.index = i)
    (perm : entries.Perm leases.entries) : entries.snapshot = leases.values := by
  -- each lease stands under its own index
  have held : ∀ lease ∈ leases.values, leases.get? lease.index = some lease := by
    intro lease mem
    obtain ⟨⟨i, _⟩, entry, rfl⟩ := List.mem_map.mp mem
    have found := SortedMap.mem_entries_iff.mp entry
    rw [own i _ found, found]
  have ordered : leases.values.Pairwise fun a b => decide (a.index ≤ b.index) = true := by
    refine List.pairwise_map.mpr (leases.ascending.imp_of_mem ?_)
    intro a b memA memB below
    rw [own _ _ (SortedMap.mem_entries_iff.mp memA), own _ _ (SortedMap.mem_entries_iff.mp memB), decide_eq_true_eq]
    exact UInt32.le_of_lt below
  have values : (entries.map (·.2)).Perm leases.values := perm.map _
  have sorted := List.mergeSort_perm (entries.map (·.2)) fun a b => a.index ≤ b.index
  refine List.Perm.eq_of_pairwise ?_ (List.pairwise_mergeSort ?_ ?_ _) ordered (sorted.trans values)
  · -- leases of one index are one lease, so that sorting has no choice
    intro a b memA memB first second
    have same : a.index = b.index := UInt32.le_antisymm (of_decide_eq_true first) (of_decide_eq_true second)
    have heldA := held a (values.mem_iff.mp (sorted.mem_iff.mp memA))
    rw [same, held b memB] at heldA
    exact (Option.some.inj heldA).symm
  · intro a b c first second
    exact decide_eq_true (UInt32.le_trans (of_decide_eq_true first) (of_decide_eq_true second))
  · intro a b
    simpa using UInt32.le_total a.index b.index

end Entries

/-- The answers of a registry that keeps its leases in order. -/
def Clocked.answers (c : Clocked) : List Request → List Answer
  | [] => []
  | request :: requests => (c.serve request).1 :: (c.serve request).2.answers requests

/-! ## The registry without an order -/

/-- A registry that keeps its leases without an order, with the clock that it reads. -/
structure Unordered where
  entries : Entries
  snapshot : List Lease
  publications : Nat
  now : Instant

namespace Unordered

def opened (now : Instant) : Unordered := ⟨[], [], 0, now⟩

def publish (u : Unordered) (entries : Entries) : Unordered :=
  { u with entries := entries, snapshot := entries.snapshot, publications := u.publications + 1 }

def serve (u : Unordered) : Request → Answer × Unordered
  | .add lease =>
    if (u.entries.get? lease.index).isSome then (.error (.alreadyHeld lease.index), u)
    else (.ok (some (begun u.now lease)), u.publish (u.entries.putIn (begun u.now lease)))
  | .renew lease =>
    match u.entries.get? lease.index with
    | none => (.error (.notFound lease.index), u)
    | some _ =>
      (.ok (some (begun u.now lease)), u.publish ((u.entries.takeOut lease.index).putIn (begun u.now lease)))
  | .remove index =>
    match u.entries.get? index with
    | none => (.ok none, u)
    | some lease => (.ok (some lease), u.publish (u.entries.takeOut index))
  | .removeIf index condition =>
    if (u.entries.get? index).any condition then
      (.ok (u.entries.get? index), u.publish (u.entries.takeOut index))
    else (.ok none, u)
  | .setClock now => (.ok none, { u with now := now })

/-- Requests with their answers, and the registry that they lead to. Before each request the leases may be listed in
another order. -/
inductive Runs : Unordered → List Request → List Answer → Unordered → Prop
  | nil (u : Unordered) : Runs u [] [] u
  | cons {u last : Unordered} {entries : Entries} {request : Request} {requests : List Request}
    {answers : List Answer} (perm : entries.Perm u.entries)
    (later : Runs ({ u with entries := entries }.serve request).2 requests answers last) :
    Runs u (request :: requests) (({ u with entries := entries }.serve request).1 :: answers) last

/-- Both registries hold the same leases and have published the same, by the same clock. -/
structure Represents (u : Unordered) (c : Clocked) : Prop where
  entries : u.entries.Perm c.registry.leases.entries
  snapshot : u.snapshot = c.registry.snapshot
  publications : u.publications = c.registry.publications
  now : u.now = c.now

variable {u last : Unordered} {c : Clocked} {requests : List Request} {answers : List Answer}

theorem represents_opened (start : Instant) : (opened start).Represents (.opened start) :=
  ⟨.refl _, rfl, rfl, rfl⟩

/-- What is published of leases in any order is what is published of the map. -/
theorem Represents.publish (represents : u.Represents c) {leases : SortedMap ComponentIndex Lease} {entries : Entries}
    (own : ∀ i lease, leases.get? i = some lease → lease.index = i) (perm : entries.Perm leases.entries) :
    (u.publish entries).Represents { c with registry := c.registry.publish leases } where
  entries := perm
  snapshot := Entries.snapshot_of_perm own perm
  publications := congrArg (· + 1) represents.publications
  now := represents.now

/-- Storing is putting in. -/
theorem Represents.store (represents : u.Represents c) (orderly : c.registry.Orderly) {lease : Lease}
    {entries : Entries} (perm : entries.Perm (c.registry.leases.insert lease.index (begun c.now lease)).entries) :
    (u.publish entries).Represents { c with registry := (c.registry.store c.now lease).2 } := by
  have after : (c.registry.store c.now lease).2.Orderly := orderly.store
  apply represents.publish _ perm
  intro i other held
  exact after.own_index held

/-- Removing is taking out. -/
theorem Represents.removeIf (represents : u.Represents c) (orderly : c.registry.Orderly) {index : ComponentIndex}
    (condition : Lease → Bool) {lease : Lease} (taken : c.registry.get? index = some lease)
    (holds : condition lease = true) :
    (u.publish (u.entries.takeOut index)).Represents { c with registry := (c.registry.removeIf index condition).2 } := by
  have removed : (c.registry.removeIf index condition).2 = c.registry.publish (c.registry.leases.erase index) := by
    rw [LeaseRegistry.removeIf, taken]
    simp only [holds, if_true]
  have after : (c.registry.removeIf index condition).2.Orderly := orderly.removeIf
  rw [removed] at after ⊢
  apply represents.publish _ (Entries.takeOut_perm represents.entries index)
  intro i other held
  exact after.own_index held

/-- A request is answered as by the registry that keeps its leases in order, and leads to the same. -/
theorem Represents.serve (represents : u.Represents c) (orderly : c.registry.Orderly) (request : Request) :
    (u.serve request).1 = (c.serve request).1 ∧ (u.serve request).2.Represents (c.serve request).2 := by
  rcases u with ⟨entries, snapshot, publications, now⟩
  rcases c with ⟨registry, now'⟩
  obtain rfl : now = now' := represents.now
  -- looking an index up does not depend on the order in which leases are listed
  have found : ∀ index, entries.get? index = registry.get? index := Entries.get?_of_perm represents.entries
  cases request with
  | add lease =>
    have put := represents.store orderly (Entries.putIn_perm represents.entries (begun now lease))
    rw [Unordered.serve, Clocked.serve, found]
    cases taken : registry.get? lease.index with
    | none =>
      rw [add_of_free taken]
      exact ⟨rfl, put⟩
    | some old =>
      rw [add_of_taken taken]
      exact ⟨rfl, represents⟩
  | renew lease =>
    -- what is put in after the old lease was taken out is what is put in its place
    have again := Entries.putIn_perm (Entries.takeOut_perm represents.entries lease.index) (begun now lease)
    rw [show (begun now lease).index = lease.index from rfl, SortedMap.insert_erase] at again
    have put := represents.store orderly again
    rw [Unordered.serve, Clocked.serve, found]
    cases taken : registry.get? lease.index with
    | none =>
      rw [renew_of_free taken]
      exact ⟨rfl, represents⟩
    | some old =>
      rw [renew_of_taken taken]
      exact ⟨rfl, put⟩
  | remove index =>
    rw [Unordered.serve, Clocked.serve, LeaseRegistry.remove, found]
    cases taken : registry.get? index with
    | none =>
      rw [removeIf_of_fails (by simp [taken])]
      exact ⟨rfl, represents⟩
    | some lease =>
      refine ⟨?_, represents.removeIf orderly (fun _ => true) taken rfl⟩
      rw [Clocked.removed, (removeIf_of_holds (fun _ => true) taken rfl).1]
  | removeIf index condition =>
    rw [Unordered.serve, Clocked.serve, found]
    by_cases holds : (registry.get? index).any condition = true
    · obtain ⟨lease, taken, accepted⟩ := (Option.any_eq_true ..).mp holds
      rw [if_pos holds]
      refine ⟨?_, represents.removeIf orderly condition taken accepted⟩
      rw [Clocked.removed, (removeIf_of_holds condition taken accepted).1, taken]
    · have fails : ∀ lease, registry.get? index = some lease → condition lease = false := by
        intro lease taken
        rw [taken, Option.any_some] at holds
        exact Bool.eq_false_iff.mpr holds
      rw [if_neg holds, removeIf_of_fails fails]
      exact ⟨rfl, represents⟩
  | setClock later => exact ⟨rfl, represents.entries, represents.snapshot, represents.publications, rfl⟩

/-! ## Runs -/

theorem Runs.represents (runs : Runs u requests answers last) (represents : u.Represents c)
    (orderly : c.registry.Orderly) : answers = c.answers requests ∧ last.Represents (c.run requests) := by
  induction runs generalizing c with
  | nil => exact ⟨rfl, represents⟩
  | @cons u last entries request requests answers perm later ih =>
    -- another order of the leases makes no difference to what is represented
    have listed : Represents { u with entries := entries } c :=
      ⟨perm.trans represents.entries, represents.snapshot, represents.publications, represents.now⟩
    obtain ⟨answer, next⟩ := listed.serve orderly request
    obtain ⟨rest, final⟩ := ih next (Clocked.serve_orderly orderly request)
    exact ⟨by rw [answer, rest, Clocked.answers], final⟩

theorem exists_runs (u : Unordered) (requests : List Request) : ∃ answers last, u.Runs requests answers last := by
  induction requests generalizing u with
  | nil => exact ⟨[], u, .nil u⟩
  | cons request requests ih =>
    obtain ⟨answers, last, later⟩ := ih (u.serve request).2
    exact ⟨_, last, .cons (.refl u.entries) later⟩

/-- Whatever is asked, and in whatever order the leases are listed from one request to the next, the answers are
those of the registry that keeps its leases in order, and the same leases are held and published in the end. -/
theorem listed_in_any_order (start : Instant) (requests : List Request) :
    (∃ answers last, (opened start).Runs requests answers last) ∧
      ∀ answers last, (opened start).Runs requests answers last →
        answers = (Clocked.opened start).answers requests ∧ last.Represents ((Clocked.opened start).run requests) :=
  ⟨exists_runs _ requests, fun _ _ runs => runs.represents (represents_opened start) orderly_new⟩

end Unordered

end LeaseRegistry

end Discovery
