import TypeDiscovery.Distinct
import TypeDiscovery.Query.Types

/-!
# Resource queries

A resource qualifies when its name meets every name pattern and, if there are location patterns,
its location meets one of them. Each location is found once.
-/

namespace TypeDiscovery

/-- A checked lookup of resources; there is at least one name pattern. -/
structure ResourceQuery where
  names : List Pattern
  locations : List Pattern
  style : MatchStyle

namespace ResourceQuery

def new (names locations : List Pattern) (style : MatchStyle) :
    Except DiscoveryError ResourceQuery :=
  if names.isEmpty then
    .error (.invalidQuery "resource lookup needs at least one name pattern")
  else .ok ⟨names, locations, style⟩

/-- The resources brought together by name; names come in the order of their first resources. -/
def grouped (resources : List Resource) : List Resource :=
  (Distinct.firsts (· == ·) (resources.map (·.name))).flatMap fun name =>
    resources.filter (·.name == name)

def qualifies (q : ResourceQuery) (r : Resource) : Bool :=
  q.names.all (·.isMatch r.name q.style)
    && Pattern.anyMatches q.locations r.location.matchTarget q.style

/-- The locations of the qualifying resources. -/
def locationsIn (q : ResourceQuery) (resources : List Resource) : List Location :=
  Distinct.firsts Location.same (((grouped resources).filter q.qualifies).map (·.location))

def evaluate (q : ResourceQuery) (scope : Scope) : Report (List Location) :=
  let t := (Trace.add #[] .resourcesListed).noteAll scope.resources.events
  match scope.resources.answer with
  | .error reason => ⟨.error (.enumeration s!"resources of {scope.name}: {reason}"), t⟩
  | .ok resources =>
    let found := q.locationsIn resources
    ⟨.ok found, t.note (.resourcesFound scope.name found.length resources.length)⟩

end ResourceQuery

/-- A lookup of resources that is being put together. -/
structure ResourceFinder where
  names : List String
  locations : List String
  scope : Scope

namespace ResourceFinder

def new (scope : Scope) : ResourceFinder := ⟨[], [], scope⟩

def byName (f : ResourceFinder) (pattern : String) : ResourceFinder :=
  { f with names := Distinct.addNew f.names pattern }

def byUrl (f : ResourceFinder) (pattern : String) : ResourceFinder :=
  { f with locations := Distinct.addNew f.locations pattern }

def inScope (f : ResourceFinder) (scope : Scope) : ResourceFinder := { f with scope }

variable [Pattern.Engine]

/-- The checked lookup, with its patterns compiled. -/
def spec (f : ResourceFinder) (style : MatchStyle) : Except DiscoveryError ResourceQuery := do
  let names ← Pattern.compileAll f.names
  let locations ← Pattern.compileAll f.locations
  ResourceQuery.new names locations style

def evaluate (f : ResourceFinder) (style : MatchStyle) : Report (List Location) :=
  match f.spec style with
  | .error e => ⟨.error e, #[]⟩
  | .ok q => q.evaluate f.scope

/-- Locations of resources in which every pattern finds a match. -/
def find (f : ResourceFinder) : Report (List Location) := f.evaluate .find

end ResourceFinder

end TypeDiscovery
