import Mathlib.Tactic.Abel
import TypeDiscovery.Proofs.Scan.Invariant

/-!
# The ledger of an interleaving

A run is an interleaving with the artifacts that it opens. Whatever the scope and the reader answer
and whatever the cache holds at first, a key that is claimed on the way is in the hand of one item
while it is pending, and then it has been opened once and holds what came of that (`Ledger`). In a
finished pool the invariants leave one possible cache (`slot?_of_finished`).
-/

namespace TypeDiscovery

/-- The artifact that the next step of an item opens. -/
def WorkItem.opens : WorkItem → List (Identity × Location)
  | reading id l _ => [(id, l)]
  | _ => []

@[simp] theorem WorkItem.opens_reading {id : Identity} {l : Location} {stack : List Identity} :
    (reading id l stack).opens = [(id, l)] := rfl

@[simp] theorem WorkItem.opens_claiming {id : Identity} {l : Location} {stack : List Identity} :
    (claiming id l stack).opens = [] := rfl

theorem WorkItem.opens_of_held {item : WorkItem} (h : item.held = 0) : item.opens = [] := by
  cases item <;> simp [held] at h <;> rfl

theorem WorkItem.reads_step {s : Scan} {sh sh' : Shared} {item item' : WorkItem}
    (next : item.step s sh = some (sh', item')) :
    sh'.reads = (item.opens.map (·.1)).reverse ++ sh.reads := by
  rcases (move_of_step next).cache_cases with ⟨_, hreads, hold, _⟩ |
    ⟨id, l, stack, rfl, _, _, rfl⟩ | ⟨id, l, stack, rfl, _, rfl⟩
  · rw [hreads, opens_of_held hold]
    rfl
  · rfl
  · rfl

namespace Pool

open Scan WorkItem

/-- One item for every candidate, on a cache. -/
def startOn (c : Cache) (cs : List Candidate) : Pool :=
  ⟨⟨c, .zero, []⟩, (cs.map .waiting : List WorkItem)⟩

/-- An interleaving with the artifacts that it opens, the first one first. -/
inductive Run (s : Scan) : Pool → List (Identity × Location) → Pool → Prop where
  | refl (p : Pool) : Run s p [] p
  | head {sh sh' : Shared} {item item' : WorkItem} {opened : List (Identity × Location)} {q : Pool}
    (rest : Multiset WorkItem) (next : item.step s sh = some (sh', item'))
    (run : Run s ⟨sh', item' ::ₘ rest⟩ opened q) :
    Run s ⟨sh, item ::ₘ rest⟩ (item.opens ++ opened) q

variable {s : Scan}

namespace Run

variable {p q r : Pool} {sh sh' : Shared} {item item' : WorkItem}
  {first second : List (Identity × Location)}

theorem single (rest : Multiset WorkItem) (next : item.step s sh = some (sh', item')) :
    Run s ⟨sh, item ::ₘ rest⟩ item.opens ⟨sh', item' ::ₘ rest⟩ := by
  simpa using head rest next (.refl _)

theorem trans (run : Run s p first q) (further : Run s q second r) :
    Run s p (first ++ second) r := by
  induction run with
  | refl p => exact further
  | head rest next _ ih =>
    rw [List.append_assoc]
    exact .head rest next (ih further)

theorem steps (run : Run s p first q) : Steps s p q := by
  induction run with
  | refl p => exact .refl
  | head rest next _ ih => exact .head (.item rest next) ih

theorem reads (run : Run s p first q) :
    q.shared.reads = (first.map (·.1)).reverse ++ p.shared.reads := by
  induction run with
  | refl p => rfl
  | head rest next _ ih =>
    rw [ih, reads_step next, List.map_append, List.reverse_append, List.append_assoc]

/-- What every step keeps, of the pool and of what has been opened so far, a run keeps. -/
theorem keeps {P : List (Identity × Location) → Pool → Prop}
    (step : ∀ opened (sh sh' : Shared) (item item' : WorkItem) (rest : Multiset WorkItem),
      item.step s sh = some (sh', item') → P opened ⟨sh, item ::ₘ rest⟩ →
      P (opened ++ item.opens) ⟨sh', item' ::ₘ rest⟩)
    (run : Run s p second q) (start : P first p) : P (first ++ second) q := by
  induction run generalizing first with
  | refl p =>
    rw [List.append_nil]
    exact start
  | head rest next _ ih =>
    rw [← List.append_assoc]
    exact ih (step _ _ _ _ _ rest next start)

end Run

theorem exists_run_of_steps {p q : Pool} (steps : Steps s p q) :
    ∃ opened, Run s p opened q := by
  induction steps with
  | refl => exact ⟨[], .refl p⟩
  | tail _ step ih =>
    obtain ⟨opened, run⟩ := ih
    obtain ⟨rest, next⟩ := step
    exact ⟨_, run.trans (.single rest next)⟩

/-! ## Which keys are taken -/

/-- The keys that the items hold or have opened. -/
def taken (opened : List (Identity × Location)) (p : Pool) : Multiset Identity :=
  p.items.bind held + (opened.map (·.1) : List Identity)

/-- What holds of the keys of a pool that started on a cache and has opened some artifacts. -/
structure Ledger (s : Scan) (c : Cache) (opened : List (Identity × Location)) (p : Pool) :
    Prop where
  once : (taken opened p).Nodup
  vacant : ∀ x ∈ taken opened p, c.contains x = false
  claimed : ∀ x, p.shared.cache.contains x = true ↔ c.contains x = true ∨ x ∈ taken opened p
  kept : ∀ x, c.contains x = true → p.shared.cache.slot? x = c.slot? x
  pending : ∀ x ∈ p.items.bind held, p.shared.cache.slot? x = some .pending
  stored : ∀ x l, (x, l) ∈ opened → p.shared.cache.slot? x = some (Cache.slotOf (s.outcome l))

variable {c : Cache} {cs : List Candidate} {opened : List (Identity × Location)}
  {p q : Pool} {sh sh' : Shared} {item item' : WorkItem} {rest : Multiset WorkItem}

theorem mem_taken {x : Identity} :
    x ∈ taken opened p ↔ x ∈ p.items.bind held ∨ x ∈ opened.map (·.1) := by
  rw [taken, Multiset.mem_add, Multiset.mem_coe]

namespace Ledger

theorem quiet (ledger : Ledger s c opened ⟨sh, item ::ₘ rest⟩) (hcache : sh'.cache = sh.cache)
    (hold : item.held = 0) (hnew : item'.held = 0) :
    Ledger s c opened ⟨sh', item' ::ₘ rest⟩ := by
  have hheld : (item' ::ₘ rest).bind held = (item ::ₘ rest).bind held := by
    rw [Multiset.cons_bind, Multiset.cons_bind, hold, hnew]
  have htaken : taken opened ⟨sh', item' ::ₘ rest⟩ = taken opened ⟨sh, item ::ₘ rest⟩ := by
    rw [taken, taken, hheld]
  obtain ⟨once, vacant, claimed, kept, pending, stored⟩ := ledger
  refine ⟨?_, ?_, ?_, ?_, ?_, ?_⟩
  · rwa [htaken]
  · rwa [htaken]
  · rwa [htaken, hcache]
  · rwa [hcache]
  · rwa [hheld, hcache]
  · rwa [hcache]

variable {id : Identity} {l : Location} {stack : List Identity}

theorem claim (ledger : Ledger s c opened ⟨sh, claiming id l stack ::ₘ rest⟩)
    (free : sh.cache.slot? id = none) :
    Ledger s c opened
      ⟨{ sh with cache := sh.cache.set id .pending }, reading id l stack ::ₘ rest⟩ := by
  have htaken : taken opened
      ⟨{ sh with cache := sh.cache.set id .pending }, reading id l stack ::ₘ rest⟩ =
      id ::ₘ taken opened ⟨sh, claiming id l stack ::ₘ rest⟩ := by
    simp [taken]
  have hclaimed : ∀ x, sh.cache.contains x = true → x ≠ id := by
    rintro x hx rfl
    rw [Cache.contains_eq_false_iff.mpr free] at hx
    cases hx
  have hold : ∀ x, c.contains x = true → x ≠ id :=
    fun x hx => hclaimed x ((ledger.claimed x).mpr (.inl hx))
  have htook : ∀ x ∈ taken opened ⟨sh, claiming id l stack ::ₘ rest⟩, x ≠ id :=
    fun x hx => hclaimed x ((ledger.claimed x).mpr (.inr hx))
  refine ⟨?_, ?_, ?_, ?_, ?_, ?_⟩
  · rw [htaken]
    exact Multiset.nodup_cons.mpr ⟨fun h => htook id h rfl, ledger.once⟩
  · intro x hx
    rw [htaken] at hx
    rcases Multiset.mem_cons.mp hx with rfl | hx
    · exact Bool.eq_false_iff.mpr fun h => hold x h rfl
    · exact ledger.vacant x hx
  · intro x
    rw [htaken, Multiset.mem_cons, Cache.contains_set, Bool.or_eq_true, beq_iff_eq,
      ledger.claimed x]
    exact or_left_comm
  · intro x hx
    exact (Cache.slot?_set_of_ne (hold x hx)).trans (ledger.kept x hx)
  · intro x hx
    rw [Multiset.cons_bind, held_reading, Multiset.singleton_add] at hx
    rcases Multiset.mem_cons.mp hx with rfl | hx
    · exact Cache.slot?_set_self
    · have hheld : x ∈ (claiming id l stack ::ₘ rest).bind held := by
        simpa using hx
      exact (Cache.slot?_set_of_ne (htook x (mem_taken.mpr (.inl hheld)))).trans
        (ledger.pending x hheld)
  · intro x m hx
    have hne := htook x (mem_taken.mpr (.inr (List.mem_map_of_mem hx)))
    exact (Cache.slot?_set_of_ne hne).trans (ledger.stored x m hx)

theorem settle (ledger : Ledger s c opened ⟨sh, reading id l stack ::ₘ rest⟩) :
    Ledger s c (opened ++ [(id, l)])
      ⟨{ sh with
          cache := sh.cache.set id (Cache.slotOf (s.outcome l)), reads := id :: sh.reads },
        counting (s.outcome l) stack ::ₘ rest⟩ := by
  have htaken : taken (opened ++ [(id, l)])
      ⟨{ sh with
          cache := sh.cache.set id (Cache.slotOf (s.outcome l)), reads := id :: sh.reads },
        counting (s.outcome l) stack ::ₘ rest⟩ =
      taken opened ⟨sh, reading id l stack ::ₘ rest⟩ := by
    simp only [taken, Multiset.cons_bind, held_counting, held_reading, List.map_append,
      ← Multiset.coe_add, List.map_cons, List.map_nil, Multiset.coe_singleton]
    abel
  have hid : id ∈ taken opened ⟨sh, reading id l stack ::ₘ rest⟩ :=
    mem_taken.mpr (.inl (by simp))
  -- the key is in no other hand and has not been opened
  have hfresh := ledger.once
  simp only [taken, Multiset.cons_bind, held_reading, Multiset.singleton_add, Multiset.cons_add,
    Multiset.nodup_cons, Multiset.mem_add, Multiset.mem_coe, not_or] at hfresh
  obtain ⟨⟨hunheld, hunopened⟩, _⟩ := hfresh
  refine ⟨?_, ?_, ?_, ?_, ?_, ?_⟩
  · rw [htaken]
    exact ledger.once
  · rw [htaken]
    exact ledger.vacant
  · intro x
    rw [htaken, Cache.contains_set, Bool.or_eq_true, beq_iff_eq, ← ledger.claimed x,
      or_iff_right_iff_imp]
    rintro rfl
    exact (ledger.claimed x).mpr (.inr hid)
  · intro x hx
    have hne : x ≠ id := by
      rintro rfl
      rw [ledger.vacant x hid] at hx
      cases hx
    exact (Cache.slot?_set_of_ne hne).trans (ledger.kept x hx)
  · intro x hx
    rw [Multiset.cons_bind, held_counting, zero_add] at hx
    have hne : x ≠ id := by
      rintro rfl
      exact hunheld hx
    exact (Cache.slot?_set_of_ne hne).trans
      (ledger.pending x (by simp only [Multiset.cons_bind, Multiset.mem_add, hx, or_true]))
  · intro x m hx
    rcases List.mem_append.mp hx with hold | hnew
    · have hne : x ≠ id := by
        rintro rfl
        exact hunopened (List.mem_map_of_mem hold)
      exact (Cache.slot?_set_of_ne hne).trans (ledger.stored x m hold)
    · cases List.mem_singleton.mp hnew
      exact Cache.slot?_set_self

theorem step (next : item.step s sh = some (sh', item'))
    (ledger : Ledger s c opened ⟨sh, item ::ₘ rest⟩) :
    Ledger s c (opened ++ item.opens) ⟨sh', item' ::ₘ rest⟩ := by
  rcases (move_of_step next).cache_cases with ⟨hcache, _, hold, hnew⟩ |
    ⟨id, l, stack, rfl, rfl, free, rfl⟩ | ⟨id, l, stack, rfl, rfl, rfl⟩
  · rw [opens_of_held hold, List.append_nil]
    exact ledger.quiet hcache hold hnew
  · rw [opens_claiming, List.append_nil]
    exact ledger.claim free
  · exact ledger.settle

end Ledger

theorem ledger_start (s : Scan) (c : Cache) (cs : List Candidate) :
    Ledger s c [] (startOn c cs) := by
  have hheld : (startOn c cs).items.bind held = 0 := bind_held_waiting cs
  have htaken : taken [] (startOn c cs) = 0 := by
    rw [taken, hheld]
    rfl
  refine ⟨?_, ?_, ?_, fun x _ => rfl, ?_, ?_⟩
  · rw [htaken]
    exact Multiset.nodup_zero
  · simp [htaken]
  · intro x
    rw [htaken]
    simp [startOn]
  · simp [hheld]
  · simp

theorem ledger_of_run (run : Run s (startOn c cs) opened q) : Ledger s c opened q :=
  run.keeps (fun _ _ _ _ _ _ next ledger => ledger.step next) (ledger_start s c cs)

/-! ## One item at a time -/

/-- No key is held twice or read twice; the keys held are those pending, and the others that are
claimed have been read. -/
structure Exclusive (p : Pool) : Prop where
  held_nodup : (p.items.bind held).Nodup
  mem_held : ∀ x, x ∈ p.items.bind held ↔ p.shared.cache.slot? x = some .pending
  reads_nodup : p.shared.reads.Nodup
  mem_reads : ∀ x, x ∈ p.shared.reads ↔
    ∃ slot, slot ≠ .pending ∧ p.shared.cache.slot? x = some slot

theorem Ledger.exclusive (ledger : Ledger s .empty opened p)
    (reads : p.shared.reads = (opened.map (·.1)).reverse) : Exclusive p := by
  have hclaimed : ∀ x slot, p.shared.cache.slot? x = some slot → x ∈ taken opened p := by
    intro x slot hslot
    refine ((ledger.claimed x).mp (Cache.contains_iff.mpr ⟨slot, hslot⟩)).resolve_left ?_
    simp [Cache.contains_iff]
  have hread : ∀ x, x ∈ p.shared.reads ↔ x ∈ opened.map (·.1) := by
    intro x
    rw [reads, List.mem_reverse]
  have hstored : ∀ x ∈ opened.map (·.1),
      ∃ slot, slot ≠ .pending ∧ p.shared.cache.slot? x = some slot := by
    intro x hx
    obtain ⟨⟨_, l⟩, hopened, rfl⟩ := List.mem_map.mp hx
    exact ⟨_, Cache.slotOf_ne_pending _, ledger.stored _ l hopened⟩
  obtain ⟨heldOnce, openedOnce, _⟩ := Multiset.nodup_add.mp ledger.once
  refine ⟨heldOnce, fun x => ⟨ledger.pending x, ?_⟩, ?_, fun x => ?_⟩
  · intro hpending
    refine (mem_taken.mp (hclaimed x _ hpending)).resolve_right fun hopened => ?_
    obtain ⟨slot, hslot, hx⟩ := hstored x hopened
    rw [hpending, Option.some.injEq] at hx
    exact hslot hx.symm
  · rw [reads, List.nodup_reverse]
    exact Multiset.coe_nodup.mp openedOnce
  · rw [hread]
    refine ⟨hstored x, ?_⟩
    rintro ⟨slot, hslot, hx⟩
    refine (mem_taken.mp (hclaimed x _ hx)).resolve_left fun hheld => ?_
    rw [ledger.pending x hheld, Option.some.injEq] at hx
    exact hslot hx.symm

theorem exclusive_of_steps (steps : Steps s (start cs) p) : Exclusive p := by
  obtain ⟨opened, run⟩ := exists_run_of_steps steps
  have ledger : Ledger s .empty opened p := ledger_of_run run
  refine ledger.exclusive ?_
  rw [run.reads]
  exact List.append_nil _

/-! ## What every interleaving arrives at -/

variable {place : Identity → Location}

theorem Finished.slot?_ne_pending (finished : p.Finished) (exclusive : Exclusive p)
    (x : Identity) : p.shared.cache.slot? x ≠ some .pending := by
  rw [Ne, ← exclusive.mem_held x, finished.bind_held]
  exact Multiset.notMem_zero x

/-- A finished pool has claimed the reached identities, no others, and stored for each of them what
reading it gives. -/
theorem slot?_of_finished (placed : s.Placed place cs) (steps : Steps s (start cs) p)
    (finished : p.Finished) {x : Identity} {slot : Slot} :
    p.shared.cache.slot? x = some slot ↔
      s.Reached place (starts cs) x ∧ slot = Cache.slotOf (s.outcome (place x)) := by
  have sound := sound_of_steps placed steps
  have exclusive := exclusive_of_steps steps
  have covering := covering_of_steps steps
  have stored : ∀ {x slot}, p.shared.cache.slot? x = some slot →
      s.Reached place (starts cs) x ∧ slot = Cache.slotOf (s.outcome (place x)) := by
    intro x slot h
    obtain ⟨hreached, hslot⟩ := sound.slots x slot h
    refine ⟨hreached, hslot.resolve_left ?_⟩
    rintro rfl
    exact finished.slot?_ne_pending exclusive x h
  have closed : Closed s place (starts cs) {x | p.shared.cache.contains x = true} := by
    refine ⟨?_, ?_⟩
    · rintro _ ⟨c, hc, rfl⟩ hroot
      exact finished.contains_of_covered (covering.candidates c hc hroot)
    · intro x hx r hr a hname hwanted
      obtain ⟨slot, hslot⟩ := Cache.contains_iff.mp hx
      obtain ⟨_, rfl⟩ := stored hslot
      rw [hr] at hslot
      exact finished.contains_of_covered (covering.ancestors x r hslot a hname hwanted)
  refine ⟨stored, ?_⟩
  rintro ⟨hreached, rfl⟩
  obtain ⟨slot, hslot⟩ := Cache.contains_iff.mp (hreached.mem_of_closed closed)
  rw [hslot, (stored hslot).2]

end Pool

end TypeDiscovery
