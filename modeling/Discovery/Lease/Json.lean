import Discovery.Calendar.Read
import Discovery.Calendar.Stamp
import Discovery.Json.Read
import Discovery.Lease.Basic

/-!
# Leases in JSON

A lease is an object of its index, its start date or null, and its number of slots. A reader may be
given the fields in any order among others, without the start date, or as an array in this order.
-/

namespace Discovery.Lease

def toJson (lease : Lease) : Json :=
  .object
    [("componentIndex", .ofNat lease.index.toNat),
      ("startDate", .optional (fun start => .string start.toZulu) lease.start),
      ("durationSlots", .ofNat lease.slots.toNat)]

/-- Reads a date that may be missing or null. -/
def dateOfJson? : Option Json → Option (Option Instant)
  | none => some none
  | some .null => some none
  | some value => (value.string?.bind Instant.ofLenient?).map some

/-- Reads a number of thirty-two bits that has to be there. -/
def numberOfJson? (value : Option Json) : Option UInt32 :=
  (value.bind (·.nat? UInt32.size)).map UInt32.ofNat

def ofJson? (value : Json) : Option Lease :=
  match value.fields? ["componentIndex", "startDate", "durationSlots"] with
  | some [index, start, slots] => do
    let index ← numberOfJson? index
    let start ← dateOfJson? start
    let slots ← numberOfJson? slots
    return ⟨index, start, slots⟩
  | _ => none

end Discovery.Lease
