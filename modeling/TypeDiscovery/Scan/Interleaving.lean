import Mathlib.Data.Multiset.Basic
import Mathlib.Data.Multiset.MapFold
import Mathlib.Logic.Relation
import TypeDiscovery.Scan

/-!
# Scans by interleaved work items

Every candidate is a work item of its own. The items share the cache and the counts and take their
steps in any order: a step looks at the cache or changes it once, or changes one count, or is the
item's own business. Between two steps of one item the others may take any number of theirs, so
what an item saw in the cache may be out of date when it acts on it. A pool has its items in no
order; `Pool.Step` lets any of them take its next step.
-/

namespace TypeDiscovery

/-- Where a work item stands. Its stack holds the ancestors still to be looked at, the next one
first. -/
inductive WorkItem where
  /-- Not begun. -/
  | waiting (c : Candidate)
  /-- At the head of the loop, or at its end if the stack is empty. -/
  | walking (stack : List Identity)
  /-- Found an ancestor that is not the root and was not claimed. -/
  | locating (id : Identity) (stack : List Identity)
  /-- About to look a key up, and to claim it if it is vacant. -/
  | claiming (id : Identity) (l : Location) (stack : List Identity)
  /-- Has claimed a key and is reading its artifact. -/
  | reading (id : Identity) (l : Location) (stack : List Identity)
  /-- Has stored what became of the artifact and is about to count it. -/
  | counting (outcome : Outcome Record) (stack : List Identity)
  /-- About to push the ancestors named in the record that it read. -/
  | pushing (r : Record) (stack : List Identity)

/-- What the work items share. -/
structure Shared where
  cache : Cache
  tally : Tally
  /-- The identities whose artifacts were opened and read, the last one first. -/
  reads : List Identity

namespace WorkItem

/-- The next step of an item; none for one that is done. -/
def step (s : Scan) (sh : Shared) : WorkItem → Option (Shared × WorkItem)
  | waiting c =>
    some (sh, if s.isRoot c.identity then walking [] else claiming c.identity c.location [])
  | walking [] => none
  | walking (id :: stack) =>
    some (sh, if s.isRoot id || sh.cache.contains id then walking stack else locating id stack)
  | locating id stack =>
    match s.scope.locate id with
    | none => some (sh, walking stack)
    | some l =>
      if s.admits l then some (sh, claiming id l stack)
      else some ({ sh with tally := { sh.tally with excluded := sh.tally.excluded + 1 } },
        walking stack)
  | claiming id l stack =>
    match sh.cache.slot? id with
    | some _ => some (sh, walking stack)
    | none => some ({ sh with cache := sh.cache.set id .pending }, reading id l stack)
  | reading id l stack =>
    some ({ sh with
      cache := sh.cache.set id (Cache.slotOf (s.outcome l))
      reads := id :: sh.reads }, counting (s.outcome l) stack)
  | counting (.done r) stack =>
    some ({ sh with tally := { sh.tally with parsed := sh.tally.parsed + 1 } }, pushing r stack)
  | counting (.failed _) stack =>
    some ({ sh with tally := { sh.tally with unreadable := sh.tally.unreadable + 1 } },
      walking stack)
  | counting .panicked stack =>
    some ({ sh with tally := { sh.tally with failed := sh.tally.failed + 1 } }, walking stack)
  | pushing r stack =>
    some (sh, walking ((r.ancestors.toList.map (⟨·⟩)).reverse ++ stack))

end WorkItem

/-- Work items and what they share. -/
structure Pool where
  shared : Shared
  items : Multiset WorkItem

namespace Pool

/-- One item for every candidate, on an empty cache. -/
def start (cs : List Candidate) : Pool :=
  ⟨⟨.empty, .zero, []⟩, (cs.map .waiting : List WorkItem)⟩

/-- One item takes its next step. -/
inductive Step (s : Scan) : Pool → Pool → Prop where
  | item {sh sh' : Shared} {item item' : WorkItem} (rest : Multiset WorkItem)
    (next : item.step s sh = some (sh', item')) :
    Step s ⟨sh, item ::ₘ rest⟩ ⟨sh', item' ::ₘ rest⟩

/-- What a pool becomes in any number of steps. -/
abbrev Steps (s : Scan) : Pool → Pool → Prop := Relation.ReflTransGen (Step s)

/-- A pool all of whose items are done. -/
def Finished (p : Pool) : Prop := ∀ item ∈ p.items, item = .walking []

end Pool

end TypeDiscovery
