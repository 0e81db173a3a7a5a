import TypeDiscovery.NameSet

/-!
# Header records

What a scan keeps of one artifact: the names of its direct ancestors and the names of the
capability markers on its own declaration.
-/

namespace TypeDiscovery

structure Record where
  ancestors : NameSet
  markers : NameSet
  deriving DecidableEq, Inhabited

namespace Record

def ofLists (ancestors markers : List String) : Record :=
  ⟨.ofList ancestors, .ofList markers⟩

/-- Whether a name is a direct ancestor. -/
def hasAncestor (r : Record) (name : String) : Bool := name ∈ r.ancestors

def hasMarker (r : Record) (name : String) : Bool := name ∈ r.markers

end Record

end TypeDiscovery
