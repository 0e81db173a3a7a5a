import TypeDiscovery.Cache
import TypeDiscovery.Candidates
import TypeDiscovery.Counting
import TypeDiscovery.Reader

/-!
# Scans

A scan reads every candidate and then, depth first, the ancestors that its records name, each
through a cache in which claimed keys count as visited. Unreadable artifacts are counted and
passed over. An ancestor is visited only while it is unclaimed and located by the scope, so each
visit claims one more of the finitely many visible identities; `unclaimed_visit_lt` is that fact
and the reason why the walk ends.
-/

namespace TypeDiscovery

/-- What a scan works with. Without patterns, or if ancestors are not filtered, every location is
admitted for an ancestor. -/
structure Scan where
  scope : Scope
  reader : Reader
  patterns : List Pattern
  filterAncestors : Bool

namespace Scan

/-- The state of a scan. -/
structure Progress where
  cache : Cache
  tally : Tally
  trace : Trace

def Progress.start (c : Cache) (t : Trace) : Progress := ⟨c, .zero, t⟩

/-- Whether an ancestor at a location is visited. -/
def admits (s : Scan) (l : Location) : Bool :=
  !s.filterAncestors || Pattern.anyMatches s.patterns l.matchTarget .find

def isRoot (s : Scan) (id : Identity) : Bool := id.name == s.reader.root

/-- What comes of reading the artifact at a location. -/
def outcome (s : Scan) (l : Location) : Outcome Record := (s.scope.fetch l).bind s.reader.read

/-- The error of an artifact at a location that cannot be read. -/
def unreadableAt (id : Identity) (l : Location) (reason : String) : DiscoveryError :=
  .artifactUnreadable id s!"{l.display}: {reason}"

/-- Whether an artifact is a candidate of the scan or an ancestor met on the way. -/
inductive Role where
  | candidate
  | ancestor
  deriving DecidableEq

def Role.skipped : Role → Identity → DiscoveryError → Event
  | candidate => .candidateSkipped
  | ancestor => .ancestorSkipped

def Role.panicked : Role → Identity → Event
  | candidate => .candidatePanicked
  | ancestor => .ancestorPanicked

/-- The trace of a lookup that may open a location. -/
def openTrace (p : Progress) (id : Identity) (l : Location) : Trace :=
  if p.cache.contains id then p.trace else p.trace.add (.opened l)

/-- Reads one artifact through the cache. The result holds the ancestors of its record if this
lookup read it. -/
def visit (s : Scan) (role : Role) (p : Progress) (id : Identity) (l : Location) :
    Progress × List Identity :=
  let (answer, cache) := p.cache.getOrCreate id fun c => (s.outcome l, c)
  let trace := openTrace p id l
  match answer with
  | .fresh r =>
    (⟨cache, { p.tally with parsed := p.tally.parsed + 1 }, trace⟩,
      r.ancestors.toList.map (⟨·⟩))
  | .failed reason =>
    (⟨cache, { p.tally with unreadable := p.tally.unreadable + 1 },
      trace.note (role.skipped id (unreadableAt id l reason))⟩, [])
  | .panicked =>
    (⟨cache, { p.tally with failed := p.tally.failed + 1 }, trace.note (role.panicked id)⟩, [])
  | .cached _ | .pending | .unreadable => (⟨cache, p.tally, trace⟩, [])

theorem cache_visit {s : Scan} {role : Role} {p : Progress} {id : Identity} {l : Location} :
    (s.visit role p id l).1.cache = (p.cache.getOrCreate id fun c => (s.outcome l, c)).2 := by
  unfold visit
  generalize p.cache.getOrCreate id (fun c => (s.outcome l, c)) = r
  obtain ⟨answer, cache⟩ := r
  cases answer <;> rfl

/-- The number of visible identities that are not claimed. -/
def unclaimed (s : Scan) (c : Cache) : Nat :=
  s.scope.visible.countP fun id => !c.contains id

theorem unclaimed_visit_lt {s : Scan} {role : Role} {p : Progress} {id : Identity} {l m : Location}
    (hlocate : s.scope.locate id = some m) (hfree : p.cache.contains id = false) :
    s.unclaimed (s.visit role p id l).1.cache < s.unclaimed p.cache := by
  have hmem : id ∈ s.scope.visible := s.scope.mem_visible id (by simp [hlocate])
  unfold unclaimed
  rw [cache_visit]
  apply Counting.countP_lt_countP hmem
  · simp [hfree]
  · simp [Cache.contains_getOrCreate]
  · intro y hy
    simp only [Cache.contains_getOrCreate, Bool.not_or, Bool.and_eq_true] at hy
    exact hy.2

/-- Visits the ancestors on a stack, the first one first, and the ancestors that their records
name before the rest. -/
def follow (s : Scan) (p : Progress) : List Identity → Progress
  | [] => p
  | id :: rest =>
    if _h : (s.isRoot id || p.cache.contains id) = true then s.follow p rest
    else
      match _hl : s.scope.locate id with
      | none =>
        s.follow { p with
          trace := (p.trace.add (.located id)).note (.ancestorInvisible id s.scope.name) } rest
      | some l =>
        if s.admits l then
          let visited := s.visit .ancestor { p with trace := p.trace.add (.located id) } id l
          s.follow visited.1 (visited.2.reverse ++ rest)
        else
          s.follow { p with
            tally := { p.tally with excluded := p.tally.excluded + 1 }
            trace := p.trace.add (.located id) } rest
termination_by stack => (s.unclaimed p.cache, stack.length)
decreasing_by
  · exact Prod.Lex.right _ (Nat.lt_succ_self _)
  · exact Prod.Lex.right _ (Nat.lt_succ_self _)
  · apply Prod.Lex.left
    simp only [Bool.or_eq_true, not_or, Bool.not_eq_true] at _h
    exact unclaimed_visit_lt (p := { p with trace := p.trace.add (.located id) }) _hl _h.2
  · exact Prod.Lex.right _ (Nat.lt_succ_self _)

/-- Reads one candidate and walks its ancestors. The root type is never read. -/
def scanCandidate (s : Scan) (p : Progress) (c : Candidate) : Progress :=
  if s.isRoot c.identity then p
  else
    let (next, ancestors) := s.visit .candidate p c.identity c.location
    s.follow next ancestors.reverse

/-- Scans candidates in order. -/
def run (s : Scan) (candidates : List Candidate) (p : Progress) : Progress :=
  let done := candidates.foldl s.scanCandidate p
  { done with trace := done.trace.note (.scanned s.scope.name candidates.length done.tally) }

end Scan

end TypeDiscovery
