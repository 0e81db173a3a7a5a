import TypeDiscovery.Proofs.Scan.Accounting
import TypeDiscovery.Proofs.Scan.Sequential
import TypeDiscovery.Proofs.Scan.Termination

/-!
# Interleavings agree with the sequential scan

However the steps of the work items are interleaved, they come to an end, and then the cache and
the counts are those of the scan that takes the candidates one after the other.
-/

namespace TypeDiscovery.Pool

open Scan

/-- Every interleaving of the work items ends, reads no artifact twice on its way, and at its end
leaves no key pending and the cache and the counts of the sequential scan. -/
theorem interleaving_eq_run {s : Scan} {place : Identity → Location} {cs : List Candidate}
    (placed : s.Placed place cs) (admitted : ∀ c ∈ cs, s.Admitted c.location) (t : Trace) :
    Acc (fun q p => Step s p q) (start cs) ∧
    ∀ p, Steps s (start cs) p →
      p.shared.reads.Nodup ∧ (p.Finished ∨ ∃ q, Step s p q) ∧
      (p.Finished → (∀ x, p.shared.cache.slot? x ≠ some .pending) ∧
        p.shared.cache = (s.run cs (.start .empty t)).cache ∧
        p.shared.tally = (s.run cs (.start .empty t)).tally) := by
  refine ⟨acc_start placed, ?_⟩
  intro p steps
  have exclusive := exclusive_of_steps steps
  refine ⟨exclusive.reads_nodup, ?_, ?_⟩
  · by_cases finished : p.Finished
    · exact .inl finished
    · exact .inr (exists_step_of_not_finished finished)
  · intro finished
    obtain ⟨q, qSteps, qFinished, hcache, htally⟩ := run_steps s cs t
    refine ⟨finished.slot?_ne_pending exclusive, ?_, ?_⟩
    · rw [← hcache]
      exact cache_eq_of_finished placed steps qSteps finished qFinished
    · rw [← htally]
      exact tally_eq_of_finished placed admitted steps qSteps finished qFinished

/-- The knot, whose items race for its three artifacts. -/
theorem interleaving_eq_run_knot :
    knot.Placed (fun id => .memory id.name) knotCandidates ∧
    (∀ c ∈ knotCandidates, knot.Admitted c.location) ∧
    ∀ p, Steps knot (start knotCandidates) p → p.Finished →
      p.shared.cache = (knot.run knotCandidates (.start .empty #[])).cache ∧
      p.shared.tally = (knot.run knotCandidates (.start .empty #[])).tally := by
  have admitted : ∀ c ∈ knotCandidates, knot.Admitted c.location :=
    fun _ _ => .inr (.inl rfl)
  refine ⟨placed_knot, admitted, ?_⟩
  intro p steps finished
  exact (((interleaving_eq_run placed_knot admitted #[]).2 p steps).2.2 finished).2

end TypeDiscovery.Pool
