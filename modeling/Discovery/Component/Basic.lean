import Discovery.Component.Facet
import Discovery.Text.Numeral
import Discovery.Text.WhiteSpace

/-!
# Components

A component is known by the index it was given when it registered, and described by what it said of
itself. `Component.elements` lists the description as pairs of a facet and a value, the form in which
it is indexed and searched: an empty host name or type is left out, the lists keep what they hold.
-/

namespace Discovery

/-- The number under which a component is registered. -/
abbrev ComponentIndex := UInt32

/-- Reads an index from a text, white space around it dropped. -/
def ComponentIndex.read (s : String) : Except Text.NumeralError ComponentIndex :=
  Text.readUInt32 (Text.trim s)

/-- Everything that is known of a registered component. -/
structure Component where
  index : ComponentIndex
  id : String
  hostname : String
  port : UInt16
  type : String
  attributes : List String
  callbacks : List String
  services : List String
deriving Repr, DecidableEq

namespace Component

/-- A single value of a facet, unless it is empty. -/
def unlessEmpty (facet : Facet) (value : String) : List (Facet × String) :=
  if value.isEmpty then [] else [(facet, value)]

/-- The description as facets with their values. -/
def elements (c : Component) : List (Facet × String) :=
  [(.id, c.id), (.port, toString c.port.toNat)]
    ++ unlessEmpty .hostname c.hostname
    ++ unlessEmpty .type c.type
    ++ c.attributes.map (.attributes, ·)
    ++ c.callbacks.map (.callbacks, ·)
    ++ c.services.map (.services, ·)

/-- The values of one facet, in order. -/
def valuesOf (c : Component) (facet : Facet) : List String :=
  (c.elements.filter (·.1 = facet)).map (·.2)

end Component

end Discovery
