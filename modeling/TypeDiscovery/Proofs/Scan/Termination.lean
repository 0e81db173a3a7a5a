import Mathlib.Algebra.Order.BigOperators.Group.Multiset
import TypeDiscovery.Proofs.Scan.Invariant

/-!
# Every interleaving ends

A claim leaves one vacant key less among the located identities and the candidates, of which there
are finitely many; every other step brings its item nearer to its end. So no pool can step forever,
whatever graph the records make.
-/

namespace TypeDiscovery

open Scan

namespace WorkItem

/-- A bound on the steps that an item takes without claiming. -/
def work (s : Scan) : WorkItem → Nat
  | waiting _ => 2
  | walking stack => 3 * stack.length
  | locating _ stack => 3 * stack.length + 2
  | claiming _ _ stack => 3 * stack.length + 1
  | reading _ l stack => 3 * ((named (s.outcome l)).length + stack.length) + 3
  | counting outcome stack => 3 * ((named outcome).length + stack.length) + 2
  | pushing r stack => 3 * ((ancestorsOf r).length + stack.length) + 1

end WorkItem

namespace Pool

open WorkItem

variable {s : Scan} {place : Identity → Location} {cs : List Candidate} {p q : Pool}

/-- The vacant keys among the located identities and the candidates. -/
def vacancies (s : Scan) (cs : List Candidate) (c : Cache) : Nat :=
  (s.scope.visible ++ cs.map (·.identity)).countP fun id => !c.contains id

theorem vacancies_le {c d : Cache} (h : ∀ a, c.contains a = true → d.contains a = true) :
    vacancies s cs d ≤ vacancies s cs c := by
  refine List.countP_mono_left ?_
  intro a _ ha
  rw [Bool.not_eq_true'] at ha ⊢
  rw [Bool.eq_false_iff] at ha ⊢
  exact fun hc => ha (h a hc)

theorem vacancies_claim_lt {c : Cache} {id : Identity}
    (reached : s.Reached place (starts cs) id) (vacant : c.slot? id = none) :
    vacancies s cs (c.set id .pending) < vacancies s cs c := by
  have hmem : id ∈ s.scope.visible ++ cs.map (·.identity) := by
    rcases reached.mem_visible_or_start with hvisible | ⟨d, hd, rfl⟩
    · exact List.mem_append_left _ hvisible
    · exact List.mem_append_right _ (List.mem_map.mpr ⟨d, hd, rfl⟩)
  refine Counting.countP_lt_countP hmem ?_ ?_ ?_
  · simp [Cache.contains_eq_false_iff.mpr vacant]
  · simp [Cache.contains_set]
  · intro y hy
    simp only [Cache.contains_set, Bool.not_or, Bool.and_eq_true] at hy
    exact hy.2

/-- The vacant keys, and then the steps that the items take without claiming. -/
def weight (s : Scan) (cs : List Candidate) (p : Pool) : Nat × Nat :=
  (vacancies s cs p.shared.cache, (p.items.map (work s)).sum)

theorem weight_step_lt (sound : Sound s place cs p) (step : Step s p q) :
    Prod.Lex (· < ·) (· < ·) (weight s cs q) (weight s cs p) := by
  obtain ⟨rest, next⟩ := step
  rename_i sh sh' item item'
  have hready := sound.ready item (Multiset.mem_cons_self item rest)
  have move := move_of_step next
  have hle : vacancies s cs sh'.cache ≤ vacancies s cs sh.cache :=
    vacancies_le fun _ h => move.contains_mono h
  have hcases : vacancies s cs sh'.cache < vacancies s cs sh.cache ∨
      item'.work s < item.work s := by
    cases move with
    | claim vacant => exact .inl (vacancies_claim_lt hready.1 vacant)
    | _ =>
      refine .inr ?_
      simp only [work, named, List.length_append, List.length_reverse, List.length_cons,
        List.length_nil]
      omega
  simp only [weight, Multiset.map_cons, Multiset.sum_cons]
  rcases Nat.lt_or_eq_of_le hle with hlt | heq
  · exact .left _ _ hlt
  · rw [heq]
    refine .right _ ?_
    have hwork := hcases.resolve_left (by omega)
    omega

/-- No interleaving of the items goes on forever. -/
theorem acc_start (placed : s.Placed place cs) : Acc (fun q p => Step s p q) (start cs) := by
  have ends : ∀ p, Sound s place cs p → Acc (fun q p => Step s p q) p := by
    intro p
    induction p using (InvImage.wf (weight s cs) (WellFoundedRelation.wf)).induction with
    | _ p ih =>
      intro sound
      refine .intro p fun q step => ?_
      exact ih q (weight_step_lt sound step) (sound.step placed step)
  exact ends _ (sound_start s place cs)

/-- A pool that is not finished has a step to take. -/
theorem exists_step_of_not_finished (h : ¬ p.Finished) : ∃ q, Step s p q := by
  obtain ⟨item, hitem, hbusy⟩ : ∃ item ∈ p.items, item ≠ .walking [] := by
    simpa [Finished] using h
  obtain ⟨rest, hrest⟩ := Multiset.exists_cons_of_mem hitem
  have hnext : ∃ sh' item', item.step s p.shared = some (sh', item') := by
    cases item with
    | walking stack =>
      cases stack with
      | nil => exact absurd rfl hbusy
      | cons id stack => exact ⟨_, _, rfl⟩
    | locating id stack =>
      simp only [step]
      split
      · exact ⟨_, _, rfl⟩
      · split <;> exact ⟨_, _, rfl⟩
    | claiming id l stack =>
      simp only [step]
      split <;> exact ⟨_, _, rfl⟩
    | counting outcome stack => cases outcome <;> exact ⟨_, _, rfl⟩
    | _ => exact ⟨_, _, rfl⟩
  obtain ⟨sh', item', hnext⟩ := hnext
  obtain ⟨shared, items⟩ := p
  cases hrest
  exact ⟨_, .item rest hnext⟩

end Pool

end TypeDiscovery
