import Discovery.Component.Basic
import Discovery.Json.Basic

/-!
# Components in JSON

A component is written as an object of its fields, the index first.
-/

namespace Discovery.Component

/-- The component as a JSON object. -/
def toJson (c : Component) : Json :=
  .object
    [("index", .ofNat c.index.toNat),
      ("id", .string c.id),
      ("hostname", .string c.hostname),
      ("port", .ofNat c.port.toNat),
      ("component_type", .string c.type),
      ("attributes", .strings c.attributes),
      ("callbacks", .strings c.callbacks),
      ("services", .strings c.services)]

end Discovery.Component
