import Discovery.Lease.Json
import Discovery.Registry.Discoverer

/-!
# The listing of leases

The active leases are listed as a JSON array. An entry is an object of the component's index and id,
the dates on which its lease begins and ends, each of them or null, and the number of slots. A reader
takes the fields in any order among others, or as an array in this order.
-/

namespace Discovery

namespace LeaseStatus

def toJson (status : LeaseStatus) : Json :=
  .object
    [("componentIndex", .ofNat status.index.toNat),
      ("componentId", .string status.id),
      ("startDate", .optional (fun date => .string date.toZulu) status.start),
      ("endDate", .optional (fun date => .string date.toZulu) status.ends),
      ("durationSlots", .ofNat status.slots.toNat)]

def ofJson? (value : Json) : Option LeaseStatus :=
  match value.fields? ["componentIndex", "componentId", "startDate", "endDate", "durationSlots"] with
  | some [index, id, start, ends, slots] => do
    let index ← Lease.numberOfJson? index
    let id ← id.bind Json.string?
    let start ← Lease.dateOfJson? start
    let ends ← Lease.dateOfJson? ends
    let slots ← Lease.numberOfJson? slots
    return ⟨index, id, start, ends, slots⟩
  | _ => none

end LeaseStatus

namespace Listing

def text (statuses : List LeaseStatus) : String :=
  (Json.array (statuses.map LeaseStatus.toJson)).text

def read? (text : String) : Option (List LeaseStatus) :=
  match Json.parse? text with
  | some (.array entries) => entries.mapM LeaseStatus.ofJson?
  | _ => none

end Listing

end Discovery
