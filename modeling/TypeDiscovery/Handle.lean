import TypeDiscovery.Identity
import TypeDiscovery.Location

/-!
# Handles

A discovered type together with the place from which it can be loaded. Handles are ordered by
identity and then by location.
-/

namespace TypeDiscovery

structure Handle where
  identity : Identity
  location : Location
  deriving DecidableEq, Inhabited

def Handle.compare (a b : Handle) : Ordering :=
  (Ord.compare a.identity b.identity).then (a.location.compare b.location)

end TypeDiscovery
