import TypeDiscovery.Config
import TypeDiscovery.Distinct
import TypeDiscovery.Handle
import TypeDiscovery.Query.Markers
import TypeDiscovery.Scan
import TypeDiscovery.Subtypes

/-!
# Type queries

A finder collects what is asked for; its `spec` is the checked query, with the patterns compiled.
Evaluating a query lists the candidates of its scope, scans them on a new cache, and resolves the
matches to handles.
-/

namespace TypeDiscovery

/-- An answer together with the course of the work on it. -/
structure Report (α : Type) where
  answer : Except DiscoveryError α
  trace : Trace

/-- A checked request for types. -/
structure TypeQuery where
  target : String
  markers : List String
  mode : MatchMode
  namespaces : List String
  patterns : List Pattern
  scope : Scope

namespace TypeQuery

def debug (q : TypeQuery) : String :=
  Text.Quoted.record "QuerySpec"
    [("target", Text.Quoted.text q.target),
      ("markers", Text.Quoted.set (q.markers.map Text.Quoted.text)),
      ("mode", q.mode.debug),
      ("namespaces", Text.Quoted.list (q.namespaces.map Text.Quoted.text)),
      ("locations", Text.Quoted.list (q.patterns.map fun p => Text.Quoted.text p.source)),
      ("scope", Text.Quoted.text q.scope.name)]

def selection (q : TypeQuery) (config : Config) : Selection :=
  ⟨config.includeNested, q.namespaces, q.patterns⟩

def scan (q : TypeQuery) (reader : Reader) (config : Config) : Scan :=
  ⟨q.scope, reader, q.patterns, config.filterAncestors⟩

/-- The scanned identities that answer the query, wherever they are located. -/
def matched (q : TypeQuery) (root : String) (records : Records) :
    Except DiscoveryError (List Identity) :=
  let accepted (id : Identity) : Bool :=
    records.any fun (other, r) => other == id && q.mode.accepts r q.markers
  if q.target = root then .ok ((records.map (·.1)).filter accepted)
  else (records.subtypesOf root q.target).map (·.filter accepted)

/-- The handles of identities, in order, without those that the scope does not locate. -/
def handles (q : TypeQuery) (ids : List Identity) : List Handle :=
  Distinct.ordered Handle.compare
    (ids.filterMap fun id => (q.scope.locate id).map (⟨id, ·⟩))

/-- What resolving identities leaves in a trace. -/
def handleTrace (q : TypeQuery) (ids : List Identity) (t : Trace) : Trace :=
  ids.foldl (fun (t : Trace) id =>
    let t := t.add (.located id)
    if (q.scope.locate id).isNone then t.note (.matchUnresolved id) else t) t

def evaluate (q : TypeQuery) (reader : Reader) (config : Config) (t : Trace) :
    Report (List Handle) :=
  let sel := q.selection config
  let t := q.scope.candidateTrace sel t
  match q.scope.candidates sel with
  | .error e => ⟨.error e, t⟩
  | .ok candidates =>
    let scanned := (q.scan reader config).run candidates (.start .empty t)
    let records := scanned.cache.records
    match q.matched reader.root records with
    | .error e => ⟨.error e, scanned.trace⟩
    | .ok ids =>
      let found := q.handles ids
      ⟨.ok found, (q.handleTrace ids scanned.trace).note
        (.queried q.target q.scope.name found.length records.length)⟩

end TypeQuery

/-- A request for types that is being put together. Lists are without repeats, in the order in
which their elements first came. -/
structure TypeFinder where
  target : String
  markers : List String
  mode : MatchMode
  namespaces : List String
  locations : List String
  scope : Scope
  reader : Reader
  config : Config

namespace TypeFinder

def new (target : String) (scope : Scope) (reader : Reader) (config : Config) : TypeFinder :=
  ⟨target, [], .default, [], [], scope, reader, config⟩

/-- Only candidates in this namespace, or in another one asked for. -/
def within (f : TypeFinder) (ns : String) : TypeFinder :=
  { f with namespaces := Distinct.addNew f.namespaces ns }

/-- Only candidates at locations where this pattern, or another one asked for, finds a match. -/
def byUrl (f : TypeFinder) (pattern : String) : TypeFinder :=
  { f with locations := Distinct.addNew f.locations pattern }

/-- Requires a marker on the artifact's own declaration. -/
def having (f : TypeFinder) (marker : String) : TypeFinder :=
  { f with markers := Distinct.addNew f.markers marker }

def anyMarker (f : TypeFinder) : TypeFinder := { f with mode := .any }

def allMarkers (f : TypeFinder) : TypeFinder := { f with mode := .all }

def inScope (f : TypeFinder) (scope : Scope) : TypeFinder := { f with scope }

def withConfig (f : TypeFinder) (config : Config) : TypeFinder := { f with config }

variable [Pattern.Engine]

/-- The checked query. All types together can be asked for by markers only. -/
def spec (f : TypeFinder) : Except DiscoveryError TypeQuery :=
  if f.target = f.reader.root ∧ f.markers = [] then
    .error (.invalidQuery s!"querying {f.target} needs at least one capability marker")
  else
    (Pattern.compileAll f.locations).map fun patterns =>
      ⟨f.target, f.markers, f.mode, f.namespaces, patterns, f.scope⟩

/-- Checks and evaluates the query. The candidates are scanned one after the other in the order of
the listing, which is one of the courses that a scan may take. -/
def find (f : TypeFinder) : Report (List Handle) :=
  match f.spec with
  | .error e => ⟨.error e, #[]⟩
  | .ok q => q.evaluate f.reader f.config (Trace.note #[] (.evaluating q.debug))

def debug (f : TypeFinder) : String :=
  Text.Quoted.record "TypeFinder"
    [("target", Text.Quoted.text f.target),
      ("markers", Text.Quoted.set (f.markers.map Text.Quoted.text)),
      ("mode", f.mode.debug),
      ("namespaces", Text.Quoted.set (f.namespaces.map Text.Quoted.text)),
      ("locations", Text.Quoted.set (f.locations.map Text.Quoted.text)),
      ("scope", Text.Quoted.text f.scope.name),
      ("config", f.config.debug)]

end TypeFinder

end TypeDiscovery
