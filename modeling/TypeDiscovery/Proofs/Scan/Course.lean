import TypeDiscovery.Scan.Interleaving

/-!
# Scans of the same course

A scan uses its patterns for one thing only: to decide at which locations ancestors are let in.
Scans of the same scope by the same reader that let in ancestors at the same locations do the same,
step by step, whether their candidates are taken in order (`SameCourse.run_eq`) or their work items
are interleaved (`SameCourse.steps_eq`).
-/

namespace TypeDiscovery.Scan

/-- Scans of the same artifacts that let in ancestors at the same locations. -/
structure SameCourse (s s' : Scan) : Prop where
  scope : s'.scope = s.scope
  reader : s'.reader = s.reader
  admits : ∀ l, s'.admits l = s.admits l

variable {s s' : Scan}

theorem SameCourse.isRoot_eq (same : s.SameCourse s') (id : Identity) :
    s'.isRoot id = s.isRoot id := by
  rw [isRoot, isRoot, same.reader]

theorem SameCourse.outcome_eq (same : s.SameCourse s') (l : Location) :
    s'.outcome l = s.outcome l := by
  rw [outcome, outcome, same.scope, same.reader]

/-! ## In order -/

theorem SameCourse.visit_eq (same : s.SameCourse s') (role : Role) (p : Progress) (id : Identity)
    (l : Location) : s'.visit role p id l = s.visit role p id l := by
  rw [visit, visit, same.outcome_eq]

theorem SameCourse.follow_eq (same : s.SameCourse s') (p : Progress) (stack : List Identity) :
    s'.follow p stack = s.follow p stack := by
  fun_induction s.follow p stack with
  | case1 p => rw [follow]
  | case2 p id rest known ih => rw [follow, same.isRoot_eq, dif_pos known, ih]
  | case3 p id rest unknown unlocated ih =>
    rw [follow, same.isRoot_eq, dif_neg unknown]
    split <;> rename_i hl <;> rw [same.scope, unlocated] at hl <;> cases hl
    rw [same.scope, ih]
  | case4 p id rest unknown l located admitted visited ih =>
    rw [follow, same.isRoot_eq, dif_neg unknown]
    split <;> rename_i hl <;> rw [same.scope, located] at hl <;> cases hl
    rw [same.admits, if_pos admitted, same.visit_eq]
    exact ih
  | case5 p id rest unknown l located rejected ih =>
    rw [follow, same.isRoot_eq, dif_neg unknown]
    split <;> rename_i hl <;> rw [same.scope, located] at hl <;> cases hl
    rw [same.admits, if_neg rejected, ih]

theorem SameCourse.scanCandidate_eq (same : s.SameCourse s') (p : Progress) (c : Candidate) :
    s'.scanCandidate p c = s.scanCandidate p c := by
  simp only [scanCandidate, same.isRoot_eq, same.visit_eq, same.follow_eq]

theorem SameCourse.run_eq (same : s.SameCourse s') (cs : List Candidate) (p : Progress) :
    s'.run cs p = s.run cs p := by
  have hsteps : s'.scanCandidate = s.scanCandidate :=
    funext fun p => funext fun c => same.scanCandidate_eq p c
  rw [run, run, hsteps, same.scope]

/-! ## Interleaved -/

theorem SameCourse.step_eq (same : s.SameCourse s') (sh : Shared) (item : WorkItem) :
    item.step s' sh = item.step s sh := by
  cases item with
  | waiting c => simp only [WorkItem.step, same.isRoot_eq]
  | walking stack => cases stack <;> simp only [WorkItem.step, same.isRoot_eq]
  | locating id stack => simp only [WorkItem.step, same.scope, same.admits]
  | claiming id l stack => rfl
  | reading id l stack => simp only [WorkItem.step, same.outcome_eq]
  | counting outcome stack => cases outcome <;> rfl
  | pushing r stack => rfl

theorem SameCourse.steps_eq (same : s.SameCourse s') : Pool.Steps s' = Pool.Steps s := by
  have hstep : Pool.Step s' = Pool.Step s := by
    funext p q
    refine propext ⟨?_, ?_⟩
    · rintro ⟨rest, next⟩
      exact ⟨rest, (same.step_eq _ _).symm.trans next⟩
    · rintro ⟨rest, next⟩
      exact ⟨rest, (same.step_eq _ _).trans next⟩
  rw [Pool.Steps, Pool.Steps, hstep]

end TypeDiscovery.Scan
