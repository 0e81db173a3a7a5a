import TypeDiscovery.Scan

/-!
# Evaluating a scan

The walk over ancestors ends because each visit claims an identity, so that it cannot be evaluated
by its definition. It is the iteration of one step (`follow_cons`), and evaluates to what that comes
to within a number of steps, if it ends within them (`run_of_within`).
-/

namespace TypeDiscovery.Scan

variable {s : Scan} {n : Nat} {p q : Progress}

/-- What a walk does with the first identity on its stack, and the stack that it goes on with. -/
def stride (s : Scan) (p : Progress) (id : Identity) (rest : List Identity) :
    Progress × List Identity :=
  if s.isRoot id || p.cache.contains id then (p, rest)
  else
    let located := { p with trace := p.trace.add (.located id) }
    match s.scope.locate id with
    | none =>
      ({ p with trace := located.trace.note (.ancestorInvisible id s.scope.name) }, rest)
    | some l =>
      if s.admits l then
        let visited := s.visit .ancestor located id l
        (visited.1, visited.2.reverse ++ rest)
      else ({ located with tally := { p.tally with excluded := p.tally.excluded + 1 } }, rest)

theorem follow_cons (s : Scan) (p : Progress) (id : Identity) (rest : List Identity) :
    s.follow p (id :: rest) = s.follow (s.stride p id rest).1 (s.stride p id rest).2 := by
  rw [follow, stride]
  split
  · rfl
  · split
    · simp only [*]
    · simp only [*]
      split <;> rfl

/-- A walk that is given up after a number of steps. -/
def followWithin (s : Scan) : Nat → Progress → List Identity → Option Progress
  | _, p, [] => some p
  | 0, _, _ :: _ => none
  | n + 1, p, id :: rest => s.followWithin n (s.stride p id rest).1 (s.stride p id rest).2

theorem follow_of_within {stack : List Identity} (h : s.followWithin n p stack = some q) :
    s.follow p stack = q := by
  induction n generalizing p stack with
  | zero =>
    cases stack with
    | nil =>
      rw [follow]
      exact Option.some.inj h
    | cons => cases h
  | succ n ih =>
    cases stack with
    | nil =>
      rw [follow]
      exact Option.some.inj h
    | cons id rest =>
      rw [follow_cons]
      exact ih h

/-- A candidate with a bound for the walk over its ancestors. -/
def scanWithin (s : Scan) (n : Nat) (p : Progress) (c : Candidate) : Option Progress :=
  if s.isRoot c.identity then some p
  else
    let visited := s.visit .candidate p c.identity c.location
    s.followWithin n visited.1 visited.2.reverse

theorem scanCandidate_of_within {c : Candidate} (h : s.scanWithin n p c = some q) :
    s.scanCandidate p c = q := by
  unfold scanWithin at h
  unfold scanCandidate
  split
  · rename_i hroot
    rw [if_pos hroot] at h
    exact Option.some.inj h
  · rename_i hroot
    rw [if_neg hroot] at h
    exact follow_of_within h

theorem run_of_within {cs : List Candidate} (h : cs.foldlM (s.scanWithin n) p = some q) :
    s.run cs p = { q with trace := q.trace.note (.scanned s.scope.name cs.length q.tally) } := by
  have hfold : cs.foldl s.scanCandidate p = q := by
    induction cs generalizing p with
    | nil => exact Option.some.inj h
    | cons c rest ih =>
      obtain ⟨next, hnext, hrest⟩ := Option.bind_eq_some_iff.mp h
      rw [List.foldl_cons, scanCandidate_of_within hnext]
      exact ih hrest
  rw [run, hfold]

theorem mem_records_of_within {cs : List Candidate} {x : Identity} {r : Record}
    (h : (cs.foldlM (s.scanWithin n) p).map (·.cache.get? x) = some (some r)) :
    (x, r) ∈ (s.run cs p).cache.records := by
  obtain ⟨done, hdone, hr⟩ := Option.map_eq_some_iff.mp h
  rw [run_of_within hdone]
  exact Cache.mem_records.mpr (Cache.get?_eq_some_iff.mp hr)

end TypeDiscovery.Scan
