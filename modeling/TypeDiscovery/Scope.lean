import TypeDiscovery.Event
import TypeDiscovery.Outcome

/-!
# Scopes

A scope is the universe of artifacts that a query is evaluated against, as it is at one moment:
what it lists, where it locates an identity, and the bytes behind a location. It locates finitely
many identities, which is why every walk over ancestors ends.
-/

namespace TypeDiscovery

/-- A listed artifact; none for the location of one that cannot be resolved. -/
structure Entry where
  identity : Identity
  location : Option Location
  deriving DecidableEq, Inhabited

/-- A listed resource. -/
structure Resource where
  name : String
  location : Location
  deriving DecidableEq, Inhabited

/-- What listing gives, or why it fails, with the events on the way. -/
structure Listing (α : Type) where
  answer : Except String (List α)
  events : List Event

structure Scope where
  name : String
  artifacts : Listing Entry
  resources : Listing Resource
  locate : Identity → Option Location
  fetch : Location → Outcome (List UInt8)
  /-- The identities that may be located. -/
  visible : List Identity
  mem_visible : ∀ id, (locate id).isSome = true → id ∈ visible

/-- What a scope and a reader are asked in the course of a query, and the events of its course. -/
inductive Activity where
  | listed
  | resourcesListed
  | located (identity : Identity)
  | opened (location : Location)
  | noted (event : Event)
  deriving DecidableEq

abbrev Trace := Array Activity

namespace Trace

def add (t : Trace) (a : Activity) : Trace := t.push a

def note (t : Trace) (e : Event) : Trace := t.add (.noted e)

def noteAll (t : Trace) (es : List Event) : Trace := es.foldl note t

/-- The events of a trace in order. -/
def events (t : Trace) : List Event :=
  t.toList.filterMap fun
    | .noted e => some e
    | _ => none

/-- The locations opened, in order. -/
def opened (t : Trace) : List Location :=
  t.toList.filterMap fun
    | .opened l => some l
    | _ => none

@[simp] theorem opened_add_opened {t : Trace} {l : Location} :
    (t.add (.opened l)).opened = t.opened ++ [l] := by
  simp [opened, add]

@[simp] theorem opened_add_located {t : Trace} {id : Identity} :
    (t.add (.located id)).opened = t.opened := by
  simp [opened, add]

@[simp] theorem opened_note {t : Trace} {e : Event} : (t.note e).opened = t.opened := by
  simp [opened, note, add]

end Trace

end TypeDiscovery
