import TypeDiscovery.Proofs.Scan.Ledger

/-!
# The sequential scan as an interleaving

A scan that takes its candidates one after the other is the interleaving in which each item runs to
its end before the next one begins, and its trace has the locations that the interleaving opens, in
their order (`exists_run`). What every finished interleaving arrives at is therefore what the scan
computes.
-/

namespace TypeDiscovery

namespace Pool

open Scan WorkItem

variable {s : Scan}

/-! ## One item to its end -/

/-- What the items share when a sequential scan stands at `p` and has read some identities. -/
def sharedAt (p : Progress) (reads : List Identity) : Shared := ⟨p.cache, p.tally, reads⟩

/-- A run from one item of a pool, with a sequential scan at its two ends and in its trace what the
run opens. -/
def Follows (s : Scan) (p : Progress) (item : WorkItem) (p' : Progress) (item' : WorkItem) : Prop :=
  ∀ (reads : List Identity) (rest : Multiset WorkItem), ∃ opened reads',
    Run s ⟨sharedAt p reads, item ::ₘ rest⟩ opened ⟨sharedAt p' reads', item' ::ₘ rest⟩ ∧
    p'.trace.opened = p.trace.opened ++ opened.map (·.2)

namespace Follows

variable {p p' p'' : Progress} {item item' item'' : WorkItem}

theorem refl (s : Scan) (p : Progress) (item : WorkItem) : Follows s p item p item :=
  fun reads _ => ⟨[], reads, .refl _, by simp⟩

theorem trans (first : Follows s p item p' item') (second : Follows s p' item' p'' item'') :
    Follows s p item p'' item'' := by
  intro reads rest
  obtain ⟨opened₁, reads₁, run₁, trace₁⟩ := first reads rest
  obtain ⟨opened₂, reads₂, run₂, trace₂⟩ := second reads₁ rest
  refine ⟨opened₁ ++ opened₂, reads₂, run₁.trans run₂, ?_⟩
  rw [trace₂, trace₁, List.map_append, List.append_assoc]

/-- A step that opens nothing. -/
theorem quiet (next : ∀ reads, item.step s (sharedAt p reads) = some (sharedAt p' reads, item'))
    (opens : item.opens = []) (trace : p'.trace.opened = p.trace.opened) :
    Follows s p item p' item' := by
  intro reads rest
  refine ⟨item.opens, reads, .single rest (next reads), ?_⟩
  rw [trace, opens, List.map_nil, List.append_nil]

end Follows

theorem opened_openTrace {p : Progress} {id : Identity} {l : Location} :
    (openTrace p id l).opened = p.trace.opened ++ if p.cache.contains id then [] else [l] := by
  rw [openTrace]
  split <;> simp

theorem follows_visit (s : Scan) (role : Role) (p : Progress) (id : Identity) (l : Location)
    (stack : List Identity) :
    Follows s p (claiming id l stack) (s.visit role p id l).1
      (walking ((s.visit role p id l).2.reverse ++ stack)) := by
  cases hslot : p.cache.slot? id with
  | some slot =>
    have hvisit : s.visit role p id l = (⟨p.cache, p.tally, openTrace p id l⟩, []) := by
      rw [visit, Cache.getOrCreate_of_slot? hslot]
      cases slot <;> rfl
    rw [hvisit]
    refine .quiet (fun reads => by simp [step, sharedAt, hslot]) rfl ?_
    simp [opened_openTrace, Cache.contains_iff.mpr ⟨slot, hslot⟩]
  | none =>
    intro reads rest
    have claim : Run s ⟨sharedAt p reads, claiming id l stack ::ₘ rest⟩ []
        ⟨⟨p.cache.set id .pending, p.tally, reads⟩, reading id l stack ::ₘ rest⟩ :=
      .single rest (by simp [step, sharedAt, hslot])
    have settle : Run s ⟨⟨p.cache.set id .pending, p.tally, reads⟩, reading id l stack ::ₘ rest⟩
        [(id, l)]
        ⟨⟨(p.cache.set id .pending).set id (Cache.slotOf (s.outcome l)), p.tally, id :: reads⟩,
          counting (s.outcome l) stack ::ₘ rest⟩ :=
      .single rest rfl
    have htrace : (openTrace p id l).opened = p.trace.opened ++ [l] := by
      simp [opened_openTrace, Cache.contains_eq_false_iff.mpr hslot]
    refine ⟨[(id, l)], id :: reads, ?_, ?_⟩
    · refine claim.trans (settle.trans ?_)
      rw [visit]
      simp only [Cache.getOrCreate, hslot]
      cases s.outcome l with
      | done r => exact .head rest rfl (.single rest rfl)
      | failed reason => exact .single rest rfl
      | panicked => exact .single rest rfl
    · rw [visit]
      simp only [Cache.getOrCreate, hslot]
      cases s.outcome l with
      | done r => exact htrace
      | failed reason => exact Trace.opened_note.trans htrace
      | panicked => exact Trace.opened_note.trans htrace

theorem follows_look {p : Progress} {id : Identity}
    (unknown : ¬(s.isRoot id || p.cache.contains id) = true) (stack : List Identity) :
    Follows s p (walking (id :: stack)) p (locating id stack) :=
  .quiet (fun reads => by simp [step, sharedAt, unknown]) rfl rfl

theorem follows_follow (s : Scan) (p : Progress) (stack : List Identity) :
    Follows s p (walking stack) (s.follow p stack) (walking []) := by
  fun_induction s.follow p stack with
  | case1 p => exact .refl s p _
  | case2 p id stack known ih =>
    refine .trans (.quiet (fun reads => ?_) rfl rfl) ih
    simp [step, sharedAt, known]
  | case3 p id stack unknown unlocated ih =>
    refine (follows_look unknown stack).trans (.trans (.quiet (fun reads => ?_) rfl ?_) ih)
    · simp [step, unlocated, sharedAt]
    · simp
  | case4 p id stack unknown l located admitted visited ih =>
    refine (follows_look unknown stack).trans
      (.trans (.quiet (fun reads => ?_) rfl Trace.opened_add_located)
        ((follows_visit s .ancestor { p with trace := p.trace.add (.located id) } id l stack).trans
          ih))
    simp [step, located, admitted, sharedAt]
  | case5 p id stack unknown l located rejected ih =>
    refine (follows_look unknown stack).trans
      (.trans (.quiet (fun reads => ?_) rfl Trace.opened_add_located) ih)
    simp [step, located, rejected, sharedAt]

theorem follows_scanCandidate (s : Scan) (p : Progress) (c : Candidate) :
    Follows s p (waiting c) (s.scanCandidate p c) (walking []) := by
  by_cases hroot : s.isRoot c.identity = true
  · refine .quiet (fun reads => ?_) rfl ?_
    · simp [step, scanCandidate, hroot]
    · simp [scanCandidate, hroot]
  · have begin : Follows s p (waiting c) p (claiming c.identity c.location []) :=
      .quiet (fun reads => by simp [step, hroot]) rfl rfl
    have visited := follows_visit s .candidate p c.identity c.location []
    have followed := follows_follow s (s.visit .candidate p c.identity c.location).1
      (s.visit .candidate p c.identity c.location).2.reverse
    rw [List.append_nil] at visited
    simpa [scanCandidate, hroot] using begin.trans (visited.trans followed)

/-! ## All items one after the other -/

theorem foldl_run (s : Scan) (cs : List Candidate) (p : Progress) (reads : List Identity)
    (rest : Multiset WorkItem) (done : ∀ item ∈ rest, item = .walking []) :
    ∃ opened q,
      Run s ⟨sharedAt p reads, ((cs.map .waiting : List WorkItem) : Multiset _) + rest⟩ opened q
      ∧ q.Finished ∧ q.shared.cache = (cs.foldl s.scanCandidate p).cache ∧
        q.shared.tally = (cs.foldl s.scanCandidate p).tally ∧
        (cs.foldl s.scanCandidate p).trace.opened = p.trace.opened ++ opened.map (·.2) := by
  induction cs generalizing p reads rest with
  | nil =>
    refine ⟨[], _, .refl _, ?_, rfl, rfl, ?_⟩
    · simpa [Finished] using done
    · simp
  | cons c cs ih =>
    obtain ⟨opened₁, reads', run, htrace⟩ := follows_scanCandidate s p c reads
      (((cs.map .waiting : List WorkItem) : Multiset _) + rest)
    have done' : ∀ item ∈ walking [] ::ₘ rest, item = .walking [] := by
      intro item hitem
      rcases Multiset.mem_cons.mp hitem with rfl | hmem
      · rfl
      · exact done item hmem
    obtain ⟨opened₂, q, run', finished, hcache, htally, htrace'⟩ :=
      ih (s.scanCandidate p c) reads' (walking [] ::ₘ rest) done'
    refine ⟨opened₁ ++ opened₂, q, ?_, finished, hcache, htally, ?_⟩
    · rw [Multiset.add_cons] at run'
      rw [List.map_cons, ← Multiset.cons_coe, Multiset.cons_add]
      exact run.trans run'
    · rw [List.foldl_cons, htrace', htrace, List.map_append, List.append_assoc]

/-- The sequential scan of some candidates is a finished run of their items that opens the locations
in its trace. -/
theorem exists_run (s : Scan) (c : Cache) (cs : List Candidate) (t : Trace) :
    ∃ opened q, Run s (startOn c cs) opened q ∧ q.Finished ∧
      q.shared.cache = (s.run cs (.start c t)).cache ∧
      q.shared.tally = (s.run cs (.start c t)).tally ∧
      (s.run cs (.start c t)).trace.opened = t.opened ++ opened.map (·.2) := by
  obtain ⟨opened, q, run, finished, hcache, htally, htrace⟩ :=
    foldl_run s cs (.start c t) [] 0 (by simp)
  rw [add_zero] at run
  exact ⟨opened, q, run, finished, hcache, htally, Trace.opened_note.trans htrace⟩

/-- The sequential scan of some candidates is a finished interleaving of their items. -/
theorem run_steps (s : Scan) (cs : List Candidate) (t : Trace) :
    ∃ q : Pool, Steps s (start cs) q ∧ q.Finished ∧
      q.shared.cache = (s.run cs (.start .empty t)).cache ∧
      q.shared.tally = (s.run cs (.start .empty t)).tally := by
  obtain ⟨_, q, run, finished, hcache, htally, _⟩ := exists_run s .empty cs t
  exact ⟨q, run.steps, finished, hcache, htally⟩

end Pool

end TypeDiscovery
