import TypeDiscovery.Cache

/-!
# Nested use of a cache

A step uses the cache once; a lookup's producer takes further steps before it ends. The steps form
finite trees. `run` takes the steps of a list in order and answers each of them.
-/

namespace TypeDiscovery.Cache

inductive Step where
  | contains (id : Identity)
  | get (id : Identity)
  | size
  | records
  /-- Looks a key up. If its producer runs, it takes the steps `before` it ends. Unless `caught`, a
  panic of this lookup ends the producer that it belongs to. -/
  | getOrCreate (id : Identity) (before : List Step) (ending : Outcome Record) (caught : Bool)
  deriving Inhabited

inductive Answer where
  | contained (b : Bool)
  | record (r : Option Record)
  | size (n : Nat)
  | records (rs : List (Identity × Record))
  /-- The answer of a lookup, and the answers of the steps of its producer if that ran. -/
  | lookup (l : Lookup) (inner : Option (List Answer))

mutual

/-- One step: its answer, the cache after it, and whether it panics. -/
def Step.run (c : Cache) : Step → Answer × Cache × Bool
  | .contains id => (.contained (c.contains id), c, false)
  | .get id => (.record (c.get? id), c, false)
  | .size => (.size c.size, c, false)
  | .records => (.records c.records, c, false)
  | .getOrCreate id before ending caught =>
    match c.slot? id with
    | some s => (.lookup (Slot.lookup s) none, c, false)
    | none =>
      let (inner, c, escaped) := runSteps (c.set id .pending) before
      let outcome := if escaped then .panicked else ending
      (.lookup (lookupOf outcome) (some inner), c.set id (slotOf outcome),
        outcome = .panicked && !caught)

/-- Steps in order, up to the first whose panic is not caught. -/
def runSteps (c : Cache) : List Step → List Answer × Cache × Bool
  | [] => ([], c, false)
  | step :: rest =>
    let (answer, c, escaped) := step.run c
    if escaped then ([answer], c, true)
    else
      let (answers, c, escaped) := runSteps c rest
      (answer :: answers, c, escaped)

end

/-- The answers of steps taken in order on a new cache. -/
def run (steps : List Step) : List Answer := (runSteps empty steps).1

end TypeDiscovery.Cache
