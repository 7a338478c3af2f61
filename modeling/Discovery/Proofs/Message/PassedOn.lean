import Discovery.Proofs.Calendar.Rewritten
import Discovery.Proofs.Message.Lease

/-!
# Leases that are passed on

A lease that was read may be written again for somebody else. Its numbers and the absence of a start date are read
back as they are. A start date that was read is written in UTC, and is read back if it lies there in a year from 0 to
9999: a date at either end of these years may have been read from the other side of the zone.

* `exists_startDate`: the start date of a lease that is read stands in its tree;
* `passed_on_iff`: which of the leases that are read can be passed on;
* `eve_refused`: one that cannot.
-/

namespace Discovery.Lease

variable {tree : Tree} {lease : Lease} {start : Instant}

/-- The start date of a lease that is read is read from a text. -/
theorem exists_startDate (accepted : ofTree tree = .ok lease) (began : lease.start = some start) :
    ∃ text, Instant.ofMessage? text = some start := by
  unfold ofTree at accepted
  split at accepted
  · cases accepted
  · next found _ =>
    rcases Message.bind_eq_ok_iff.mp accepted with ⟨index, -, accepted⟩
    rcases Message.bind_eq_ok_iff.mp accepted with ⟨slots, -, accepted⟩
    rcases Message.bind_eq_ok_iff.mp accepted with ⟨date, read, accepted⟩
    cases accepted
    cases began
    -- a date that is there was read in the strict form
    unfold startOfTree at read
    split at read
    · cases read
    · next text _ =>
      split at read
      · cases read
      · next date dated =>
        cases read
        exact ⟨text, dated⟩

/-- A start date in a year with a sign is not read back. -/
theorem ofTree_toTree_of_not_plain (began : lease.start = some start) (signed : ¬ start.HasPlainYear) :
    ofTree lease.toTree = .error (.invalid "startDate" start.toMessage) := by
  obtain ⟨-, -, date⟩ := lease.attribute?_toTree
  rw [began, Option.map_some] at date
  have refused : startOfTree lease.toTree = .error (.invalid "startDate" start.toMessage) := by
    rw [startOfTree, date]
    simp only [Instant.ofMessage?_toMessage_of_not_plain signed]
  rw [ofTree_toTree, refused]
  rfl

/-- A lease that is read, whatever the tree and however its start date is spelled, is read again from the tree that is
written for it if and only if the date is missing or lies in UTC in one of the years from 0 to 9999. Otherwise it is
refused, for the date. -/
theorem passed_on_iff (accepted : ofTree tree = .ok lease) :
    (ofTree lease.toTree = .ok lease ↔ ∀ start, lease.start = some start → start.HasPlainYear) ∧
      ∀ start, lease.start = some start → ¬ start.HasPlainYear →
        ofTree lease.toTree = .error (.invalid "startDate" start.toMessage) := by
  refine ⟨⟨?_, ?_⟩, fun start began signed => ofTree_toTree_of_not_plain began signed⟩
  · intro again start began
    by_contra signed
    rw [ofTree_toTree_of_not_plain began signed] at again
    cases again
  · intro plain
    -- it was read from a message, so that beyond its year nothing stands in the way
    have sendable : ∀ start, lease.start = some start → start.IsSendable := by
      intro start began
      obtain ⟨text, read⟩ := exists_startDate accepted began
      exact (plain start began).isSendable read
    rw [ofTree_toTree, startOfTree_toTree sendable]
    rfl

def dated (date : String) : Tree :=
  (((Tree.named "lease").setAttribute "componentIndex" " 07").setAttribute "durationSlots" "2").setAttribute
    "startDate" date

/-- The leap second at the end of the year 2016, in California. -/
theorem passed_on_from_west :
    ofTree (dated "2016-12-31t15:59:60.1234567899-08:00") = .ok ⟨7, some ⟨1483228799, 1123456789⟩, 2⟩ ∧
      ofTree (toTree ⟨7, some ⟨1483228799, 1123456789⟩, 2⟩) = .ok ⟨7, some ⟨1483228799, 1123456789⟩, 2⟩ := by
  have accepted : ofTree (dated "2016-12-31t15:59:60.1234567899-08:00") =
      .ok ⟨7, some ⟨1483228799, 1123456789⟩, 2⟩ := by decide +kernel
  refine ⟨accepted, (passed_on_iff accepted).1.mpr ?_⟩
  intro start began
  cases began
  exact ⟨by decide, by decide⟩

/-- The first hour of the year 0 in a zone east of UTC is in the year before. -/
theorem eve_refused :
    ofTree (dated "0000-01-01T00:00:00+01:00") = .ok ⟨7, some ⟨-62167222800, 0⟩, 2⟩ ∧
      ofTree (toTree ⟨7, some ⟨-62167222800, 0⟩, 2⟩) =
        .error (.invalid "startDate" "-0001-12-31T23:00:00+00:00") := by
  decide +kernel

end Discovery.Lease
