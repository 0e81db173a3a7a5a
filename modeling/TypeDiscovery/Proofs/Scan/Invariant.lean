import Mathlib.Data.Multiset.Bind
import TypeDiscovery.Proofs.Scan.Closure
import TypeDiscovery.Scan.Interleaving

/-!
# What every interleaving keeps

Two families of facts hold in every pool that the steps of work items lead to: claimed keys are
reached identities with the right slots (`Sound`), and what has still to be claimed is in the hands
of some item (`Covering`).
-/

namespace TypeDiscovery

namespace WorkItem

/-- The ancestors that an item has still to look at. -/
def todo : WorkItem → List Identity
  | waiting _ => []
  | walking stack | claiming _ _ stack | reading _ _ stack => stack
  | locating id stack => id :: stack
  | counting outcome stack => (Scan.named outcome).reverse ++ stack
  | pushing r stack => (Scan.ancestorsOf r).reverse ++ stack

/-- The key that an item is going to look up whatever the scope says of it. -/
def opening? : WorkItem → Option Identity
  | waiting c => some c.identity
  | claiming id _ _ => some id
  | _ => none

/-- The key whose claim an item holds. -/
def held : WorkItem → Multiset Identity
  | reading id _ _ => {id}
  | _ => 0

@[simp] theorem held_reading {id : Identity} {l : Location} {stack : List Identity} :
    (reading id l stack).held = {id} := rfl

@[simp] theorem held_claiming {id : Identity} {l : Location} {stack : List Identity} :
    (claiming id l stack).held = 0 := rfl

@[simp] theorem held_counting {outcome : Outcome Record} {stack : List Identity} :
    (counting outcome stack).held = 0 := rfl

/-- What an item is about to do is in order, apart from its stack. -/
def Ready (s : Scan) (place : Identity → Location) (cs : List Candidate) : WorkItem → Prop
  | waiting c => c ∈ cs
  | locating id _ => id.name ≠ s.reader.root
  | claiming id l _ | reading id l _ => s.Reached place (Scan.starts cs) id ∧ l = place id
  | _ => True

/-- An identity that an item claims unless another one does. -/
def Due (s : Scan) (item : WorkItem) (a : Identity) : Prop :=
  a.name ≠ s.reader.root ∧ (item.opening? = some a ∨ (s.Wanted a ∧ a ∈ item.todo))

end WorkItem

namespace Pool

open Scan WorkItem

/-- Claimed keys are reached and hold what reading them gives, once they are read; and items work
on reached identities and on names in their records only. -/
structure Sound (s : Scan) (place : Identity → Location) (cs : List Candidate) (p : Pool) :
    Prop where
  slots : ∀ x slot, p.shared.cache.slot? x = some slot →
    s.Reached place (starts cs) x ∧
      (slot = .pending ∨ slot = Cache.slotOf (s.outcome (place x)))
  offered : ∀ item ∈ p.items, ∀ a ∈ item.todo, s.Offered place (starts cs) a
  ready : ∀ item ∈ p.items, item.Ready s place cs

/-- A key that is claimed or that some item is going to claim. -/
def Covered (s : Scan) (p : Pool) (a : Identity) : Prop :=
  p.shared.cache.contains a = true ∨ ∃ item ∈ p.items, item.Due s a

/-- Candidates and the wanted ancestors in stored records are covered. -/
structure Covering (s : Scan) (cs : List Candidate) (p : Pool) : Prop where
  candidates : ∀ c ∈ cs, c.identity.name ≠ s.reader.root → Covered s p c.identity
  ancestors : ∀ x r, p.shared.cache.slot? x = some (.ready r) →
    ∀ a : Identity, a.name ∈ r.ancestors → s.Wanted a → Covered s p a

end Pool

/-! ## What one step does -/

namespace WorkItem

open Scan

/-- The steps of an item one by one, each with what makes the item take it. -/
inductive Move (s : Scan) : Shared → WorkItem → Shared → WorkItem → Prop where
  | skip {sh : Shared} {c : Candidate} (root : c.identity.name = s.reader.root) :
    Move s sh (waiting c) sh (walking [])
  | begin {sh : Shared} {c : Candidate} (notRoot : c.identity.name ≠ s.reader.root) :
    Move s sh (waiting c) sh (claiming c.identity c.location [])
  | pass {sh : Shared} {id : Identity} {stack : List Identity}
    (known : id.name = s.reader.root ∨ sh.cache.contains id = true) :
    Move s sh (walking (id :: stack)) sh (walking stack)
  | look {sh : Shared} {id : Identity} {stack : List Identity}
    (notRoot : id.name ≠ s.reader.root) :
    Move s sh (walking (id :: stack)) sh (locating id stack)
  | invisible {sh : Shared} {id : Identity} {stack : List Identity}
    (unlocated : s.scope.locate id = none) :
    Move s sh (locating id stack) sh (walking stack)
  | enter {sh : Shared} {id : Identity} {l : Location} {stack : List Identity}
    (located : s.scope.locate id = some l) (admitted : s.Admitted l) :
    Move s sh (locating id stack) sh (claiming id l stack)
  | exclude {sh : Shared} {id : Identity} {l : Location} {stack : List Identity}
    (located : s.scope.locate id = some l) (rejected : ¬ s.Admitted l) :
    Move s sh (locating id stack)
      { sh with tally := { sh.tally with excluded := sh.tally.excluded + 1 } } (walking stack)
  | abandon {sh : Shared} {id : Identity} {l : Location} {stack : List Identity} {slot : Slot}
    (taken : sh.cache.slot? id = some slot) :
    Move s sh (claiming id l stack) sh (walking stack)
  | claim {sh : Shared} {id : Identity} {l : Location} {stack : List Identity}
    (vacant : sh.cache.slot? id = none) :
    Move s sh (claiming id l stack) { sh with cache := sh.cache.set id .pending }
      (reading id l stack)
  | settle {sh : Shared} {id : Identity} {l : Location} {stack : List Identity} :
    Move s sh (reading id l stack)
      { sh with
        cache := sh.cache.set id (Cache.slotOf (s.outcome l))
        reads := id :: sh.reads } (counting (s.outcome l) stack)
  | parsed {sh : Shared} {r : Record} {stack : List Identity} :
    Move s sh (counting (.done r) stack)
      { sh with tally := { sh.tally with parsed := sh.tally.parsed + 1 } } (pushing r stack)
  | unreadable {sh : Shared} {reason : String} {stack : List Identity} :
    Move s sh (counting (.failed reason) stack)
      { sh with tally := { sh.tally with unreadable := sh.tally.unreadable + 1 } }
      (walking stack)
  | panicked {sh : Shared} {stack : List Identity} :
    Move s sh (counting .panicked stack)
      { sh with tally := { sh.tally with failed := sh.tally.failed + 1 } } (walking stack)
  | push {sh : Shared} {r : Record} {stack : List Identity} :
    Move s sh (pushing r stack) sh (walking ((ancestorsOf r).reverse ++ stack))

variable {s : Scan} {place : Identity → Location} {cs : List Candidate}
  {sh sh' : Shared} {item item' : WorkItem}

theorem move_of_step (next : item.step s sh = some (sh', item')) : Move s sh item sh' item' := by
  cases item with
  | waiting c =>
    by_cases hroot : c.identity.name = s.reader.root
    · simp only [step, isRoot, hroot, beq_self_eq_true, if_true] at next
      cases next
      exact .skip hroot
    · simp only [step, isRoot_eq_false_iff.mpr hroot, Bool.false_eq_true, if_false] at next
      cases next
      exact .begin hroot
  | walking stack =>
    cases stack with
    | nil => simp [step] at next
    | cons id stack =>
      simp only [step] at next
      cases next
      split
      · rename_i h
        exact .pass (by simpa [isRoot] using h)
      · rename_i h
        exact .look (by simp_all [isRoot])
  | locating id stack =>
    cases hl : s.scope.locate id with
    | none =>
      simp only [step, hl] at next
      cases next
      exact .invisible hl
    | some l =>
      by_cases hadmits : s.admits l = true
      · simp only [step, hl, hadmits, if_true] at next
        cases next
        exact .enter hl (admits_iff.mp hadmits)
      · simp only [step, hl, hadmits] at next
        cases next
        exact .exclude hl (fun h => hadmits (admits_iff.mpr h))
  | claiming id l stack =>
    cases hslot : sh.cache.slot? id with
    | none =>
      simp only [step, hslot] at next
      cases next
      exact .claim hslot
    | some slot =>
      simp only [step, hslot] at next
      cases next
      exact .abandon hslot
  | reading id l stack =>
    simp only [step] at next
    cases next
    exact .settle
  | counting outcome stack =>
    cases outcome with
    | done r =>
      simp only [step] at next
      cases next
      exact .parsed
    | failed reason =>
      simp only [step] at next
      cases next
      exact .unreadable
    | panicked =>
      simp only [step] at next
      cases next
      exact .panicked
  | pushing r stack =>
    simp only [step] at next
    cases next
    exact .push

/-- Seen from the cache, a move is one of three: it leaves the cache alone, or it claims a vacant
key, or it stores what became of a claimed one. -/
theorem Move.cache_cases (move : Move s sh item sh' item') :
    (sh'.cache = sh.cache ∧ sh'.reads = sh.reads ∧ item.held = 0 ∧ item'.held = 0) ∨
    (∃ id l stack, item = claiming id l stack ∧ item' = reading id l stack ∧
      sh.cache.slot? id = none ∧ sh' = { sh with cache := sh.cache.set id .pending }) ∨
    (∃ id l stack, item = reading id l stack ∧ item' = counting (s.outcome l) stack ∧
      sh' = { sh with
        cache := sh.cache.set id (Cache.slotOf (s.outcome l)), reads := id :: sh.reads }) := by
  cases move with
  | claim vacant => exact .inr (.inl ⟨_, _, _, rfl, rfl, vacant, rfl⟩)
  | settle => exact .inr (.inr ⟨_, _, _, rfl, rfl, rfl⟩)
  | _ => exact .inl ⟨rfl, rfl, rfl, rfl⟩

theorem Move.contains_mono (move : Move s sh item sh' item') {a : Identity}
    (h : sh.cache.contains a = true) : sh'.cache.contains a = true := by
  rcases move.cache_cases with ⟨hcache, _⟩ | ⟨id, l, stack, _, _, _, rfl⟩ |
    ⟨id, l, stack, _, _, rfl⟩
  · rw [hcache]
    exact h
  · simp [Cache.contains_set, h]
  · simp [Cache.contains_set, h]

/-- Names come onto a stack from there or from the record just read. -/
theorem Move.mem_todo (move : Move s sh item sh' item') {a : Identity} (h : a ∈ item'.todo) :
    a ∈ item.todo ∨ ∃ id l stack, item = reading id l stack ∧ a ∈ named (s.outcome l) := by
  cases move with
  | skip | begin => cases h
  | look | parsed | push => exact .inl h
  | pass | invisible | enter | exclude => exact .inl (List.mem_cons_of_mem _ h)
  | abandon | claim => exact .inl h
  | unreadable | panicked => exact .inl (by simpa [todo, named] using h)
  | @settle id l stack =>
    simp only [todo, List.mem_append, List.mem_reverse] at h
    exact h.symm.imp_right fun ha => ⟨id, l, stack, rfl, ha⟩

theorem Move.offered (move : Move s sh item sh' item')
    (ready : item.Ready s place cs)
    (offered : ∀ a ∈ item.todo, s.Offered place (starts cs) a) :
    ∀ a ∈ item'.todo, s.Offered place (starts cs) a := by
  intro a ha
  rcases move.mem_todo ha with hold | ⟨id, l, stack, rfl, hnew⟩
  · exact offered a hold
  · obtain ⟨hid, rfl⟩ := ready
    exact ⟨id, hid, hnew⟩

theorem Move.ready (move : Move s sh item sh' item') (placed : s.Placed place cs)
    (ready : item.Ready s place cs)
    (offered : ∀ a ∈ item.todo, s.Offered place (starts cs) a) : item'.Ready s place cs := by
  cases move with
  | @begin c notRoot => exact ⟨.start ⟨c, ready, rfl⟩ notRoot, placed.1 c ready⟩
  | look notRoot => exact notRoot
  | @enter id l stack located admitted =>
    have hoffer : s.Offered place (starts cs) id := offered id (by simp [todo])
    exact ⟨hoffer.reached ⟨ready, l, located, admitted⟩, placed.2 id l located⟩
  | claim => exact ready
  | _ => trivial

/-- What an item is due to claim it claims or remains due to claim, unless it finds it claimed. -/
theorem Move.due (move : Move s sh item sh' item') {a : Identity} (h : item.Due s a) :
    sh'.cache.contains a = true ∨ item'.Due s a := by
  obtain ⟨hroot, h⟩ := h
  cases move with
  | skip root =>
    exfalso
    simp_all [opening?, todo]
  | begin =>
    refine .inr ⟨hroot, .inl ?_⟩
    simpa [opening?, todo] using h
  | @pass id stack known =>
    simp only [opening?, reduceCtorEq, todo, List.mem_cons, false_or] at h
    obtain ⟨hwanted, rfl | hmem⟩ := h
    · exact .inl (known.resolve_left hroot)
    · exact .inr ⟨hroot, .inr ⟨hwanted, hmem⟩⟩
  | look => exact .inr ⟨hroot, h⟩
  | invisible unlocated | exclude =>
    simp only [opening?, reduceCtorEq, todo, List.mem_cons, false_or] at h
    obtain ⟨hwanted, rfl | hmem⟩ := h
    · obtain ⟨_, l, hl, hadmitted⟩ := hwanted
      simp_all
    · exact .inr ⟨hroot, .inr ⟨hwanted, hmem⟩⟩
  | enter =>
    simp only [opening?, reduceCtorEq, todo, List.mem_cons, false_or] at h
    obtain ⟨hwanted, rfl | hmem⟩ := h
    · exact .inr ⟨hroot, .inl rfl⟩
    · exact .inr ⟨hroot, .inr ⟨hwanted, hmem⟩⟩
  | abandon taken =>
    simp only [opening?, Option.some.injEq] at h
    rcases h with rfl | h
    · exact .inl (Cache.contains_iff.mpr ⟨_, taken⟩)
    · exact .inr ⟨hroot, .inr h⟩
  | claim =>
    simp only [opening?, Option.some.injEq] at h
    rcases h with rfl | h
    · exact .inl (by simp [Cache.contains_set])
    · exact .inr ⟨hroot, .inr h⟩
  | @settle id l stack =>
    simp only [opening?, reduceCtorEq, todo, false_or] at h
    exact .inr ⟨hroot, .inr ⟨h.1, by simp [todo, h.2]⟩⟩
  | parsed | unreadable | panicked | push =>
    exact .inr ⟨hroot, h⟩

end WorkItem

/-! ## What a pool keeps -/

namespace Pool

open Scan WorkItem

variable {s : Scan} {place : Identity → Location} {cs : List Candidate} {p q : Pool}

theorem sound_start (s : Scan) (place : Identity → Location) (cs : List Candidate) :
    Sound s place cs (start cs) where
  slots x slot h := by simp [start] at h
  offered item hitem a ha := by
    obtain ⟨c, _, rfl⟩ := List.mem_map.mp (Multiset.mem_coe.mp hitem)
    simp [todo] at ha
  ready item hitem := by
    obtain ⟨c, hc, rfl⟩ := List.mem_map.mp (Multiset.mem_coe.mp hitem)
    exact hc

theorem Sound.step (placed : s.Placed place cs) (sound : Sound s place cs p)
    (step : Step s p q) : Sound s place cs q := by
  obtain ⟨rest, next⟩ := step
  rename_i sh sh' item item'
  have move := move_of_step next
  have hready := sound.ready item (Multiset.mem_cons_self item rest)
  have hoffered := sound.offered item (Multiset.mem_cons_self item rest)
  refine ⟨?_, ?_, ?_⟩
  · intro x slot hslot
    rcases move.cache_cases with ⟨hcache, _⟩ | ⟨id, l, stack, rfl, _, _, rfl⟩ |
      ⟨id, l, stack, rfl, _, rfl⟩
    · exact sound.slots x slot (by simpa [hcache] using hslot)
    · by_cases hx : x = id
      · subst hx
        rw [Cache.slot?_set_self] at hslot
        exact ⟨hready.1, .inl (Option.some.inj hslot).symm⟩
      · exact sound.slots x slot (by simpa [Cache.slot?_set_of_ne hx] using hslot)
    · obtain ⟨hid, rfl⟩ := hready
      by_cases hx : x = id
      · subst hx
        rw [Cache.slot?_set_self] at hslot
        exact ⟨hid, .inr (Option.some.inj hslot).symm⟩
      · exact sound.slots x slot (by simpa [Cache.slot?_set_of_ne hx] using hslot)
  · intro other hother
    rcases Multiset.mem_cons.mp hother with rfl | hmem
    · exact move.offered hready hoffered
    · exact sound.offered other (Multiset.mem_cons_of_mem hmem)
  · intro other hother
    rcases Multiset.mem_cons.mp hother with rfl | hmem
    · exact move.ready placed hready hoffered
    · exact sound.ready other (Multiset.mem_cons_of_mem hmem)

/-- Items that have not begun hold no key. -/
theorem bind_held_waiting (cs : List Candidate) :
    ((cs.map .waiting : List WorkItem) : Multiset WorkItem).bind held = 0 := by
  refine Multiset.eq_zero_of_forall_notMem ?_
  intro x hx
  obtain ⟨item, hitem, hx⟩ := Multiset.mem_bind.mp hx
  obtain ⟨c, _, rfl⟩ := List.mem_map.mp (Multiset.mem_coe.mp hitem)
  simp [held] at hx

/-- Items that are done hold no key. -/
theorem Finished.bind_held (finished : p.Finished) : p.items.bind held = 0 := by
  refine Multiset.eq_zero_of_forall_notMem ?_
  intro x hx
  obtain ⟨item, hitem, hx⟩ := Multiset.mem_bind.mp hx
  rw [finished item hitem] at hx
  simp [held] at hx

theorem Covered.step {a : Identity} (covered : Covered s p a) (step : Step s p q) :
    Covered s q a := by
  obtain ⟨rest, next⟩ := step
  have move := move_of_step next
  rcases covered with hclaimed | ⟨other, hother, hdue⟩
  · exact .inl (move.contains_mono hclaimed)
  · rcases Multiset.mem_cons.mp hother with rfl | hmem
    · rcases move.due hdue with hclaimed | hdue
      · exact .inl hclaimed
      · exact .inr ⟨_, Multiset.mem_cons_self _ _, hdue⟩
    · exact .inr ⟨other, Multiset.mem_cons_of_mem hmem, hdue⟩

theorem covering_start (s : Scan) (cs : List Candidate) : Covering s cs (start cs) where
  candidates c hc hroot :=
    .inr ⟨.waiting c, Multiset.mem_coe.mpr (List.mem_map.mpr ⟨c, hc, rfl⟩), hroot, .inl rfl⟩
  ancestors x r h := by simp [start] at h

theorem Covering.step (covering : Covering s cs p) (step : Step s p q) : Covering s cs q := by
  refine ⟨fun c hc hroot => (covering.candidates c hc hroot).step step, ?_⟩
  intro x r hx a hname hwanted
  have hstep := step
  obtain ⟨rest, next⟩ := step
  rename_i sh sh' item item'
  rcases (move_of_step next).cache_cases with ⟨hcache, _⟩ | ⟨id, l, stack, rfl, _, _, rfl⟩ |
    ⟨id, l, stack, rfl, rfl, rfl⟩
  · exact (covering.ancestors x r (by simpa [hcache] using hx) a hname hwanted).step hstep
  · by_cases hid : x = id
    · subst hid
      simp at hx
    · rw [Cache.slot?_set_of_ne hid] at hx
      exact (covering.ancestors x r hx a hname hwanted).step hstep
  · by_cases hid : x = id
    · -- the record has just been stored, and the item that did it holds its ancestors
      subst hid
      have hread : s.outcome l = .done r := by
        rw [Cache.slot?_set_self] at hx
        cases ho : s.outcome l <;> simp [ho, Cache.slotOf] at hx
        rw [hx]
      refine .inr ⟨_, Multiset.mem_cons_self _ _, hwanted.1, .inr ⟨hwanted, ?_⟩⟩
      simp [hread, todo, named, mem_ancestorsOf, hname]
    · rw [Cache.slot?_set_of_ne hid] at hx
      exact (covering.ancestors x r hx a hname hwanted).step hstep

theorem sound_of_steps (placed : s.Placed place cs) (steps : Steps s (start cs) p) :
    Sound s place cs p := by
  induction steps with
  | refl => exact sound_start s place cs
  | tail _ step ih => exact ih.step placed step

theorem covering_of_steps (steps : Steps s (start cs) p) : Covering s cs p := by
  induction steps with
  | refl => exact covering_start s cs
  | tail _ step ih => exact ih.step step

theorem Finished.contains_of_covered (finished : p.Finished) {a : Identity}
    (covered : Covered s p a) : p.shared.cache.contains a = true := by
  rcases covered with hclaimed | ⟨item, hitem, _, hdue⟩
  · exact hclaimed
  · rw [finished item hitem] at hdue
    simp [opening?, todo] at hdue

end Pool

end TypeDiscovery
