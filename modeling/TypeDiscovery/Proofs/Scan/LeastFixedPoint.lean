import TypeDiscovery.Proofs.Scan.Accounting
import TypeDiscovery.Proofs.Scan.Sequential

/-!
# A scan computes a least fixed point

What a scan on an empty cache claims is the least set that holds its candidates and is closed under
the wanted ancestors of readable records, for every graph that the records make and every order of
the candidates.
-/

namespace TypeDiscovery.Scan

variable {s : Scan} {place : Identity → Location} {cs ds : List Candidate}

theorem starts_perm (h : ds.Perm cs) : starts ds = starts cs := by
  ext x
  simp only [starts, Set.mem_ofPred_eq, h.mem_iff]

theorem Placed.perm (placed : s.Placed place cs) (h : ds.Perm cs) : s.Placed place ds :=
  ⟨fun c hc => placed.1 c (h.mem_iff.mp hc), placed.2⟩

/-- The slots after a scan on an empty cache. -/
theorem slot?_run (placed : s.Placed place cs) (t : Trace) {x : Identity} {slot : Slot} :
    (s.run cs (.start .empty t)).cache.slot? x = some slot ↔
      s.Reached place (starts cs) x ∧ slot = Cache.slotOf (s.outcome (place x)) := by
  obtain ⟨p, steps, finished, hcache, _⟩ := Pool.run_steps s cs t
  rw [← hcache]
  exact Pool.slot?_of_finished placed steps finished

theorem contains_run (placed : s.Placed place cs) (t : Trace) {x : Identity} :
    (s.run cs (.start .empty t)).cache.contains x = true ↔ s.Reached place (starts cs) x := by
  rw [Cache.contains_iff]
  simp only [slot?_run placed t, exists_and_left, exists_eq, and_true]

/-- The records after a scan are those of the reached identities that can be read. -/
theorem mem_records_run (placed : s.Placed place cs) (t : Trace) {x : Identity} {r : Record} :
    (x, r) ∈ (s.run cs (.start .empty t)).cache.records ↔
      s.Reached place (starts cs) x ∧ s.outcome (place x) = .done r := by
  rw [Cache.mem_records, slot?_run placed t, Cache.slotOf_eq_ready_iff]

/-- A scan on an empty cache claims exactly the least closed set, keeps the records of its members
that can be read, answers that the others are unreadable, and leaves the same cache whatever the
order of its candidates. -/
theorem claimed_isLeast (placed : s.Placed place cs) (perm : ds.Perm cs) (t : Trace) :
    let cache := (s.run ds (.start .empty t)).cache
    IsLeast {R | Closed s place (starts cs) R} {x | cache.contains x = true} ∧
    (∀ x r, (x, r) ∈ cache.records ↔
      cache.contains x = true ∧ s.outcome (place x) = .done r) ∧
    (cache.records.map (·.1)).Nodup ∧
    (∀ x, cache.contains x = true → (∀ r, s.outcome (place x) ≠ .done r) →
      ∀ produce, cache.getOrCreate x produce = (.unreadable, cache)) ∧
    (∀ x, cache.slot? x ≠ some .pending) ∧
    (∀ x : Identity, x.name = s.reader.root → cache.contains x = false) ∧
    cache = (s.run cs (.start .empty t)).cache := by
  intro cache
  have placed' := placed.perm perm
  have hclaimed : ∀ x, cache.contains x = true ↔ s.Reached place (starts cs) x := by
    intro x
    rw [contains_run placed' t, starts_perm perm]
  refine ⟨?_, ?_, Cache.nodup_keys_records, ?_, ?_, ?_, ?_⟩
  · simpa only [hclaimed] using isLeast_reached s place (starts cs)
  · intro x r
    rw [mem_records_run placed' t, hclaimed x, starts_perm perm]
  · intro x hx hunread produce
    have hslot : cache.slot? x = some .unreadable := by
      refine (slot?_run placed' t).mpr ⟨(contains_run placed' t).mp hx, ?_⟩
      cases houtcome : s.outcome (place x) with
      | done r => exact absurd houtcome (hunread r)
      | failed reason => rfl
      | panicked => rfl
    exact Cache.getOrCreate_of_slot? hslot produce
  · intro x h
    have hslot := ((slot?_run placed' t).mp h).2
    cases houtcome : s.outcome (place x) <;> simp [houtcome, Cache.slotOf] at hslot
  · intro x hroot
    rw [Bool.eq_false_iff]
    exact fun hx => ((hclaimed x).mp hx).notRoot hroot
  · refine Cache.ext_slot? fun x => Option.ext fun slot => ?_
    rw [slot?_run placed' t, slot?_run placed t, starts_perm perm]

/-- The knot, with its candidates in reverse. -/
theorem claimed_isLeast_knot :
    knot.Placed (fun id => .memory id.name) knotCandidates ∧
    knotCandidates.reverse.Perm knotCandidates ∧
    IsLeast {R | Closed knot (fun id => .memory id.name) (starts knotCandidates) R}
      {x | (knot.run knotCandidates.reverse (.start .empty #[])).cache.contains x = true} :=
  ⟨placed_knot, List.reverse_perm _, (claimed_isLeast placed_knot (List.reverse_perm _) #[]).1⟩

end TypeDiscovery.Scan
