import Discovery.Text.Cut

/-!
# Targets of requests

A request is directed at a path of the service, behind which a query or a fragment may stand. It may
also be directed at a whole address, which begins with a scheme and a host: the service answers for
every host, so of an address only what stands beyond the host matters.

| target | path |
|---|---|
| `/leases` | `/leases` |
| `/leases?all#end` | `/leases` |
| `http://localhost:5555/leases` | `/leases` |
| `http://localhost:5555?all/leases` | the empty path |

It is assumed of the web framework, and of the package that sends the client's requests, that they divide
a target into scheme, host, path, query and fragment as the generic form of a URI does, and that only the
path takes part in finding an endpoint. Targets that are no URI never reach the service and are not
spoken of.
-/

namespace Discovery.Service

/-- Does the character end the host of an address? The path, the query or the fragment begins with
it. -/
def endsHost (c : Char) : Bool :=
  c = '/' || c = '?' || c = '#'

/-- A target without the scheme and the host that it may begin with. -/
def beyondHost (target : List Char) : List Char :=
  match Text.cutAt [':', '/', '/'] target with
  -- a path or a query may hold the mark of a scheme too
  | some (scheme, address) =>
    if scheme.any endsHost then target else address.dropWhile fun c => !endsHost c
  | none => target

/-- The path that a target names: what stands beyond the host, without a query or a fragment. -/
def pathOf (target : String) : String :=
  String.ofList ((beyondHost target.toList).takeWhile fun c => c ≠ '?' ∧ c ≠ '#')

end Discovery.Service
