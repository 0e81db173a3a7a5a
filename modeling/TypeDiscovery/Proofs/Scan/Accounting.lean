import Mathlib.Algebra.BigOperators.Group.Multiset.Basic
import Mathlib.Tactic.Abel
import TypeDiscovery.Proofs.Scan.Ledger

/-!
# What every interleaving counts

Each identity that is read has its charge: one for what became of it and one exclusion for every
ancestor in its record at a place that is not admitted. What the items have still to count makes up
the difference between the counts and the charges of the identities read (`Accounted`), so the
counts of a finished pool are the charges of the reached identities. Up to exclusions this is so on
any cache, and wherever the identities are opened (`Balanced`).
-/

namespace TypeDiscovery

namespace Tally

instance : Zero Tally := ⟨zero⟩

instance : Add Tally where
  add a b := ⟨a.parsed + b.parsed, a.unreadable + b.unreadable, a.excluded + b.excluded,
    a.failed + b.failed⟩

theorem add_def (a b : Tally) : a + b = ⟨a.parsed + b.parsed, a.unreadable + b.unreadable,
    a.excluded + b.excluded, a.failed + b.failed⟩ := rfl

theorem zero_def : (0 : Tally) = ⟨0, 0, 0, 0⟩ := rfl

instance : AddCommMonoid Tally where
  add_assoc a b c := by simp only [add_def, Nat.add_assoc]
  zero_add a := by simp only [add_def, zero_def, Nat.zero_add]
  add_zero a := rfl
  add_comm a b := by simp only [add_def, Nat.add_comm]
  nsmul := nsmulRec

/-- One artifact counted by what became of it. -/
def ofOutcome : Outcome Record → Tally
  | .done _ => ⟨1, 0, 0, 0⟩
  | .failed _ => ⟨0, 1, 0, 0⟩
  | .panicked => ⟨0, 0, 0, 1⟩

end Tally

namespace Scan

/-- Whether an ancestor is located at a place that is not admitted. -/
def rejects (s : Scan) (a : Identity) : Bool :=
  !s.isRoot a && (s.scope.locate a).any fun l => !s.admits l

theorem rejects_iff {s : Scan} {a : Identity} : s.rejects a = true ↔
    a.name ≠ s.reader.root ∧ ∃ l, s.scope.locate a = some l ∧ ¬ s.Admitted l := by
  simp only [rejects, isRoot, Bool.and_eq_true, Bool.not_eq_true', beq_eq_false_iff_ne,
    Option.any_eq_true]
  refine and_congr_right fun _ => exists_congr fun l => and_congr_right fun _ => ?_
  rw [← admits_iff, Bool.not_eq_true]

theorem rejects_eq_false_of_wanted {s : Scan} {a : Identity} {l : Location}
    (located : s.scope.locate a = some l) (admitted : s.Admitted l) : s.rejects a = false := by
  simp [rejects, located, admits_iff.mpr admitted]

/-- The exclusions that a list of ancestors leads to. -/
def exclusions (s : Scan) (ancestors : List Identity) : Tally :=
  ⟨0, 0, ancestors.countP s.rejects, 0⟩

theorem exclusions_append (s : Scan) (xs ys : List Identity) :
    s.exclusions (xs ++ ys) = s.exclusions xs + s.exclusions ys := by
  simp [exclusions, Tally.add_def]

theorem exclusions_reverse (s : Scan) (xs : List Identity) :
    s.exclusions xs.reverse = s.exclusions xs := by
  simp [exclusions]

theorem exclusions_cons_of_rejects {s : Scan} {a : Identity} (xs : List Identity)
    (h : s.rejects a = true) : s.exclusions (a :: xs) = ⟨0, 0, 1, 0⟩ + s.exclusions xs := by
  simp [exclusions, Tally.add_def, h, Nat.add_comm]

theorem exclusions_cons_of_not_rejects {s : Scan} {a : Identity} (xs : List Identity)
    (h : s.rejects a = false) : s.exclusions (a :: xs) = s.exclusions xs := by
  simp [exclusions, h]

/-- The counts of what became of some artifacts. -/
def worth (s : Scan) (opened : List (Identity × Location)) : Tally :=
  (opened.map fun e => .ofOutcome (s.outcome e.2)).sum

/-- Whether an artifact can be read. -/
def parses (s : Scan) (e : Identity × Location) : Bool :=
  match s.outcome e.2 with
  | .done _ => true
  | .failed _ | .panicked => false

theorem worth_append (s : Scan) (xs ys : List (Identity × Location)) :
    s.worth (xs ++ ys) = s.worth xs + s.worth ys := by
  simp [worth]

theorem worth_cons (s : Scan) (e : Identity × Location) (xs : List (Identity × Location)) :
    s.worth (e :: xs) = .ofOutcome (s.outcome e.2) + s.worth xs := by
  simp [worth]

theorem worth_total (s : Scan) (opened : List (Identity × Location)) :
    (s.worth opened).parsed + (s.worth opened).unreadable + (s.worth opened).failed =
      opened.length := by
  induction opened with
  | nil => rfl
  | cons e rest ih =>
    rw [worth_cons, List.length_cons, ← ih]
    cases s.outcome e.2 <;> simp only [Tally.ofOutcome, Tally.add_def] <;> omega

theorem worth_parsed (s : Scan) (opened : List (Identity × Location)) :
    (s.worth opened).parsed = (opened.filter s.parses).length := by
  induction opened with
  | nil => rfl
  | cons e rest ih =>
    cases houtcome : s.outcome e.2 <;>
      simp [worth_cons, parses, houtcome, Tally.ofOutcome, Tally.add_def, ih, Nat.add_comm]

theorem parses_iff {s : Scan} {e : Identity × Location} :
    s.parses e = true ↔ ∃ r, s.outcome e.2 = .done r := by
  rw [parses]
  cases s.outcome e.2 <;> simp

/-- What one identity that is read adds to the counts in the end. -/
def charge (s : Scan) (place : Identity → Location) (x : Identity) : Tally :=
  .ofOutcome (s.outcome (place x)) + s.exclusions (named (s.outcome (place x)))

/-- Reached identities are at admitted places, if the starting ones are. -/
theorem Reached.rejects_eq_false {s : Scan} {place : Identity → Location} {cs : List Candidate}
    (placed : s.Placed place cs) (admitted : ∀ c ∈ cs, s.Admitted c.location) {x : Identity}
    (h : Reached s place (starts cs) x) : s.rejects x = false := by
  cases hl : s.scope.locate x with
  | none => simp [rejects, hl]
  | some l =>
    refine rejects_eq_false_of_wanted hl ?_
    cases h with
    | start hx _ =>
      obtain ⟨c, hc, rfl⟩ := hx
      rw [placed.2 _ l hl, ← placed.1 c hc]
      exact admitted c hc
    | ancestor _ _ _ wanted =>
      obtain ⟨_, m, hm, hadmitted⟩ := wanted
      rw [hl] at hm
      cases hm
      exact hadmitted

end Scan

namespace WorkItem

open Scan

/-- The outcome that an item has stored and not counted. -/
def uncounted : WorkItem → Tally
  | counting outcome _ => .ofOutcome outcome
  | _ => 0

/-- What an item has still to count. -/
def owed (s : Scan) (item : WorkItem) : Tally := item.uncounted + s.exclusions item.todo

variable {s : Scan} {place : Identity → Location} {cs : List Candidate}
  {sh sh' : Shared} {item item' : WorkItem}

/-- A move keeps the counts and what its item has to count together, up to the charge of the
identity that it reads. -/
theorem Move.owed (move : Move s sh item sh' item') (ready : item.Ready s place cs)
    (claimed : ∀ a, sh.cache.contains a = true → s.rejects a = false) :
    ∃ added : List Identity, sh'.reads = added ++ sh.reads ∧
      sh'.tally + item'.owed s = sh.tally + item.owed s + (added.map (s.charge place)).sum := by
  cases move with
  | skip | begin | look | abandon | claim => exact ⟨[], rfl, rfl⟩
  | @pass id stack known =>
    have hkept : s.rejects id = false := by
      rcases known with hroot | hclaimed
      · simp [rejects, isRoot, hroot]
      · exact claimed id hclaimed
    refine ⟨[], rfl, ?_⟩
    simp [WorkItem.owed, uncounted, todo, exclusions_cons_of_not_rejects stack hkept]
  | @invisible id stack unlocated =>
    have hkept : s.rejects id = false := by simp [rejects, unlocated]
    refine ⟨[], rfl, ?_⟩
    simp [WorkItem.owed, uncounted, todo, exclusions_cons_of_not_rejects stack hkept]
  | @enter id l stack located admitted =>
    have hkept := rejects_eq_false_of_wanted located admitted
    refine ⟨[], rfl, ?_⟩
    simp [WorkItem.owed, uncounted, todo, exclusions_cons_of_not_rejects stack hkept]
  | @exclude id l stack located rejected =>
    have hcounted := rejects_iff.mpr ⟨ready, l, located, rejected⟩
    refine ⟨[], rfl, ?_⟩
    simp [WorkItem.owed, uncounted, todo, exclusions_cons_of_rejects stack hcounted,
      Tally.add_def, Nat.add_assoc]
  | @settle id l stack =>
    obtain ⟨_, rfl⟩ := ready
    refine ⟨[id], rfl, ?_⟩
    simp only [WorkItem.owed, uncounted, todo, exclusions_append, exclusions_reverse, charge,
      List.map_cons, List.map_nil, List.sum_cons, List.sum_nil]
    abel
  | parsed | unreadable | panicked =>
    refine ⟨[], rfl, ?_⟩
    simp [WorkItem.owed, uncounted, todo, named, Tally.ofOutcome, Tally.add_def, Nat.add_assoc]
  | push => exact ⟨[], rfl, rfl⟩

/-- A move keeps the counts and what its item has to count together, up to what it opens and to
exclusions. -/
theorem Move.counted (move : Move s sh item sh' item') : ∃ n,
    sh'.tally + item'.uncounted =
      sh.tally + item.uncounted + s.worth item.opens + ⟨0, 0, n, 0⟩ := by
  cases move with
  | exclude => exact ⟨1, rfl⟩
  | @settle id l stack =>
    refine ⟨0, ?_⟩
    simp [uncounted, opens, worth, Tally.add_def, Tally.zero_def]
  | parsed | unreadable | panicked =>
    refine ⟨0, ?_⟩
    simp [uncounted, opens, worth, Tally.ofOutcome, Tally.add_def, Tally.zero_def]
  | _ => exact ⟨0, rfl⟩

end WorkItem

namespace Pool

open Scan WorkItem

variable {s : Scan} {place : Identity → Location} {cs : List Candidate} {p q : Pool}

/-- The counts, with what the items have still to count, are the charges of what has been read. -/
def Accounted (s : Scan) (place : Identity → Location) (p : Pool) : Prop :=
  p.shared.tally + (p.items.map (owed s)).sum = (p.shared.reads.map (s.charge place)).sum

/-- What no item has before it begins, all of them together do not have. -/
theorem sum_waiting {f : WorkItem → Tally} (hf : ∀ c, f (.waiting c) = 0) (cs : List Candidate) :
    (((cs.map .waiting : List WorkItem) : Multiset WorkItem).map f).sum = 0 := by
  refine Multiset.sum_eq_zero ?_
  intro t ht
  obtain ⟨item, hitem, rfl⟩ := Multiset.mem_map.mp ht
  obtain ⟨c, _, rfl⟩ := List.mem_map.mp (Multiset.mem_coe.mp hitem)
  exact hf c

/-- What no item has at its end, a finished pool does not have. -/
theorem Finished.sum_map {f : WorkItem → Tally} (finished : p.Finished)
    (hf : f (.walking []) = 0) : (p.items.map f).sum = 0 := by
  refine Multiset.sum_eq_zero ?_
  intro t ht
  obtain ⟨item, hitem, rfl⟩ := Multiset.mem_map.mp ht
  rw [finished item hitem]
  exact hf

theorem accounted_start (s : Scan) (place : Identity → Location) (cs : List Candidate) :
    Accounted s place (start cs) := by
  rw [Accounted, start, sum_waiting fun _ => rfl]
  rfl

theorem Accounted.step (accounted : Accounted s place p) (sound : Sound s place cs p)
    (claimed : ∀ a, s.Reached place (starts cs) a → s.rejects a = false)
    (step : Step s p q) : Accounted s place q := by
  obtain ⟨rest, next⟩ := step
  rename_i sh sh' item item'
  have hclaimed : ∀ a, sh.cache.contains a = true → s.rejects a = false := by
    intro a ha
    obtain ⟨slot, hslot⟩ := Cache.contains_iff.mp ha
    exact claimed a (sound.slots a slot hslot).1
  obtain ⟨added, hreads, htally⟩ :=
    (move_of_step next).owed (sound.ready item (Multiset.mem_cons_self item rest)) hclaimed
  simp only [Accounted, Multiset.map_cons, Multiset.sum_cons] at accounted ⊢
  calc sh'.tally + (item'.owed s + (rest.map (owed s)).sum)
      = sh'.tally + item'.owed s + (rest.map (owed s)).sum := (add_assoc _ _ _).symm
    _ = sh.tally + (item.owed s + (rest.map (owed s)).sum) + (added.map (s.charge place)).sum := by
        rw [htally]
        abel
    _ = (sh'.reads.map (s.charge place)).sum := by
        rw [accounted, hreads, List.map_append, List.sum_append, add_comm]

theorem accounted_of_steps (placed : s.Placed place cs)
    (admitted : ∀ c ∈ cs, s.Admitted c.location) (steps : Steps s (start cs) p) :
    Accounted s place p := by
  induction steps with
  | refl => exact accounted_start s place cs
  | tail steps step ih =>
    exact ih.step (sound_of_steps placed steps) (fun _ h => h.rejects_eq_false placed admitted) step

/-- The counts of a finished pool are the charges of the identities read. -/
theorem tally_of_finished (placed : s.Placed place cs)
    (admitted : ∀ c ∈ cs, s.Admitted c.location) (steps : Steps s (start cs) p)
    (finished : p.Finished) :
    p.shared.tally = (p.shared.reads.map (s.charge place)).sum := by
  have accounted := accounted_of_steps placed admitted steps
  rwa [Accounted, finished.sum_map rfl, add_zero] at accounted

/-- A finished pool has read the reached identities and no others. -/
theorem mem_reads_of_finished (placed : s.Placed place cs) (steps : Steps s (start cs) p)
    (finished : p.Finished) {x : Identity} :
    x ∈ p.shared.reads ↔ s.Reached place (starts cs) x := by
  rw [(exclusive_of_steps steps).mem_reads x]
  simp only [slot?_of_finished placed steps finished]
  constructor
  · rintro ⟨_, _, h, _⟩
    exact h
  · intro h
    exact ⟨_, Cache.slotOf_ne_pending _, h, rfl⟩

/-! ## One result -/

/-- Finished interleavings of the same items have the same cache. -/
theorem cache_eq_of_finished (placed : s.Placed place cs) (hp : Steps s (start cs) p)
    (hq : Steps s (start cs) q) (pFinished : p.Finished) (qFinished : q.Finished) :
    p.shared.cache = q.shared.cache := by
  refine Cache.ext_slot? fun x => Option.ext fun slot => ?_
  exact (slot?_of_finished placed hp pFinished).trans (slot?_of_finished placed hq qFinished).symm

/-- Finished interleavings of the same items have the same counts, if the filter admits the
candidates. -/
theorem tally_eq_of_finished (placed : s.Placed place cs)
    (admitted : ∀ c ∈ cs, s.Admitted c.location) (hp : Steps s (start cs) p)
    (hq : Steps s (start cs) q) (pFinished : p.Finished) (qFinished : q.Finished) :
    p.shared.tally = q.shared.tally := by
  have hperm : p.shared.reads.Perm q.shared.reads := by
    rw [List.perm_ext_iff_of_nodup (exclusive_of_steps hp).reads_nodup
      (exclusive_of_steps hq).reads_nodup]
    intro x
    rw [mem_reads_of_finished placed hp pFinished, mem_reads_of_finished placed hq qFinished]
  rw [tally_of_finished placed admitted hp pFinished,
    tally_of_finished placed admitted hq qFinished]
  exact (hperm.map _).sum_eq

/-! ## Counts on any cache -/

variable {c : Cache} {opened : List (Identity × Location)} {sh sh' : Shared}
  {item item' : WorkItem} {rest : Multiset WorkItem}

/-- The counts, with what the items have still to count, are what the opened artifacts are worth,
up to exclusions. -/
def Balanced (s : Scan) (opened : List (Identity × Location)) (p : Pool) : Prop :=
  ∃ n, p.shared.tally + (p.items.map uncounted).sum = s.worth opened + ⟨0, 0, n, 0⟩

theorem Balanced.step (next : item.step s sh = some (sh', item'))
    (balanced : Balanced s opened ⟨sh, item ::ₘ rest⟩) :
    Balanced s (opened ++ item.opens) ⟨sh', item' ::ₘ rest⟩ := by
  obtain ⟨m, hm⟩ := balanced
  obtain ⟨n, hn⟩ := (move_of_step next).counted
  refine ⟨m + n, ?_⟩
  simp only [Multiset.map_cons, Multiset.sum_cons] at hm ⊢
  calc sh'.tally + (item'.uncounted + (rest.map uncounted).sum)
      = sh'.tally + item'.uncounted + (rest.map uncounted).sum := (add_assoc _ _ _).symm
    _ = sh.tally + (item.uncounted + (rest.map uncounted).sum) + s.worth item.opens +
          ⟨0, 0, n, 0⟩ := by
        rw [hn]
        abel
    _ = s.worth opened + s.worth item.opens + (⟨0, 0, m, 0⟩ + ⟨0, 0, n, 0⟩) := by
        rw [hm]
        abel
    _ = s.worth (opened ++ item.opens) + ⟨0, 0, m + n, 0⟩ := by
        rw [worth_append]
        rfl

theorem balanced_start (s : Scan) (c : Cache) (cs : List Candidate) :
    Balanced s [] (startOn c cs) := by
  refine ⟨0, ?_⟩
  rw [startOn, sum_waiting fun _ => rfl]
  rfl

theorem balanced_of_run (run : Run s (startOn c cs) opened q) : Balanced s opened q :=
  run.keeps (fun _ _ _ _ _ _ next balanced => balanced.step next) (balanced_start s c cs)

end Pool

end TypeDiscovery
