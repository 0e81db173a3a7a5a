import Mathlib.Data.Set.Card
import TypeDiscovery.Cache.Script

/-!
# A cache is written once per key

The answers that nested steps get tell moment by moment what happened: which producers began and
ended, and what was answered in between (`moments`). Only beginnings and endings store something, so
that what every key holds at a moment follows from what happened before it (`replay`). A moment fits
if it is what a cache with these slots answers (`Moment.Fits`): a producer begins on a vacant key
only and ends on a pending one only. Steps on any cache lead through moments that all fit
(`runSteps_course`), and wherever all moments fit no settled key changes (`Course.keeps`).
-/

namespace TypeDiscovery.Cache

/-! ## Moments -/

inductive Moment where
  | contained (id : Identity) (b : Bool)
  | got (id : Identity) (r : Option Record)
  | sized (n : Nat)
  | listed (rs : List (Identity × Record))
  /-- A lookup that ran no producer answered. -/
  | answered (id : Identity) (l : Lookup)
  /-- A lookup claimed its key, and its producer began. -/
  | began (id : Identity)
  /-- The producer of a key ended, and its lookup answered so. -/
  | ended (id : Identity) (outcome : Outcome Record)
  /-- An answer that its step cannot have. -/
  | mismatch
  deriving DecidableEq

/-- Whether a step answered with a panic that ends the producer it belongs to. -/
def Step.escapes : Step → Answer → Bool
  | .getOrCreate _ _ _ caught, .lookup .panicked _ => !caught
  | _, _ => false

/-- Whether one of some steps did. -/
def escape (steps : List Step) (answers : List Answer) : Bool :=
  (steps.zip answers).any fun (step, answer) => step.escapes answer

/-- A producer ends as it is told to, unless a panic of one of its steps ends it. -/
def endOf (before : List Step) (inner : List Answer) (ending : Outcome Record) : Outcome Record :=
  if escape before inner then .panicked else ending

mutual

/-- What happened in the course of a step, by its answer. -/
def Step.moments : Step → Answer → List Moment
  | .contains id, .contained b => [.contained id b]
  | .get id, .record r => [.got id r]
  | .size, .size n => [.sized n]
  | .records, .records rs => [.listed rs]
  | .getOrCreate id _ _ _, .lookup l none => [.answered id l]
  | .getOrCreate id before ending _, .lookup l (some inner) =>
    .began id :: (moments before inner ++
      [if l = lookupOf (endOf before inner ending) then .ended id (endOf before inner ending)
        else .mismatch])
  | _, _ => [.mismatch]

/-- What happened in the course of steps that end with the first panic that escapes. -/
def moments : List Step → List Answer → List Moment
  | [], [] => []
  | step :: rest, answer :: answers =>
    step.moments answer ++
      if step.escapes answer then (if answers.isEmpty then [] else [.mismatch])
      else moments rest answers
  | _, _ => [.mismatch]

end

/-- What every key holds. -/
abbrev View := Identity → Option Slot

def View.store (v : View) (id : Identity) (s : Slot) : View :=
  fun x => if x = id then some s else v x

namespace Moment

/-- What every key holds after a moment. -/
def apply (v : View) : Moment → View
  | began id => v.store id .pending
  | ended id outcome => v.store id (slotOf outcome)
  | _ => v

/-- What a cache may do or answer while its keys hold what they do. -/
def Fits (v : View) : Moment → Prop
  | contained id b => b = true ↔ ∃ s, v id = some s
  | got id r => ∀ record, r = some record ↔ v id = some (.ready record)
  | sized n => n = {id | ∃ record, v id = some (.ready record)}.ncard
  | listed rs =>
    (rs.map (·.1)).Nodup ∧ ∀ id record, (id, record) ∈ rs ↔ v id = some (.ready record)
  | answered id l => ∃ s, v id = some s ∧ l = Slot.lookup s
  | began id => v id = none
  | ended id _ => v id = some .pending
  | mismatch => False

end Moment

/-- What every key holds after some moments. -/
def replay (v : View) (h : List Moment) : View := h.foldl Moment.apply v

/-- Moments each of which fits what happened before it. -/
def Course (v : View) : List Moment → Prop
  | [] => True
  | e :: h => e.Fits v ∧ Course (e.apply v) h

namespace Moment

variable {v : View} {e : Moment} {id : Identity}

theorem Fits.keeps {s : Slot} (fits : e.Fits v) (settled : s ≠ .pending) (h : v id = some s) :
    e.apply v id = some s := by
  cases e with
  | began x =>
    by_cases hx : id = x
    · subst hx
      have hvacant : v id = none := fits
      rw [hvacant] at h
      cases h
    · simpa [apply, View.store, hx] using h
  | ended x outcome =>
    by_cases hx : id = x
    · subst hx
      have hpending : v id = some .pending := fits
      rw [hpending] at h
      exact absurd (Option.some.inj h).symm settled
    · simpa [apply, View.store, hx] using h
  | _ => exact h

theorem apply_ne_none (h : v id ≠ none) : e.apply v id ≠ none := by
  cases e with
  | began x | ended x outcome =>
    by_cases hx : id = x
    · simp [apply, View.store, hx]
    · simpa [apply, View.store, hx] using h
  | _ => exact h

/-- Only its own end changes what a pending key holds. -/
theorem Fits.pending (fits : e.Fits v) (h : v id = some .pending)
    (running : ∀ outcome, e ≠ ended id outcome) : e.apply v id = some .pending := by
  cases e with
  | began x =>
    by_cases hx : id = x
    · simp [apply, View.store, hx]
    · simpa [apply, View.store, hx] using h
  | ended x outcome =>
    by_cases hx : id = x
    · subst hx
      exact absurd rfl (running outcome)
    · simpa [apply, View.store, hx] using h
  | _ => exact h

end Moment

namespace Course

variable {v : View} {h h' : List Moment} {id : Identity}

theorem append_iff : Course v (h ++ h') ↔ Course v h ∧ Course (replay v h) h' := by
  induction h generalizing v with
  | nil => simp [Course, replay]
  | cons e h ih => simp [Course, replay, ih, and_assoc]

theorem fits {past future : List Moment} {e : Moment} (course : Course v (past ++ e :: future)) :
    e.Fits (replay v past) :=
  (append_iff.mp course).2.1

/-- A settled key holds the same ever after. -/
theorem keeps (course : Course v h) {s : Slot} (settled : s ≠ .pending) (hs : v id = some s) :
    replay v h id = some s := by
  induction h generalizing v with
  | nil => exact hs
  | cons e h ih => exact ih course.2 (course.1.keeps settled hs)

theorem pending (course : Course v h) (hs : v id = some .pending)
    (running : ∀ outcome, .ended id outcome ∉ h) : replay v h id = some .pending := by
  induction h generalizing v with
  | nil => exact hs
  | cons e h ih =>
    have hend : ∀ outcome, e ≠ .ended id outcome :=
      fun outcome he => running outcome (he ▸ List.mem_cons_self)
    refine ih course.2 (course.1.pending hs hend) ?_
    exact fun outcome hmem => running outcome (List.mem_cons_of_mem e hmem)

theorem began_not_mem (course : Course v h) (claimed : v id ≠ none) : .began id ∉ h := by
  induction h generalizing v with
  | nil => exact List.not_mem_nil
  | cons e h ih =>
    rw [List.mem_cons, not_or]
    refine ⟨?_, ih course.2 (Moment.apply_ne_none claimed)⟩
    rintro rfl
    exact claimed course.1

theorem count_began_le_one (course : Course v h) (id : Identity) : h.count (.began id) ≤ 1 := by
  induction h generalizing v with
  | nil => exact Nat.zero_le 1
  | cons e h ih =>
    by_cases he : e = .began id
    · subst he
      have hclaimed : (Moment.began id).apply v id ≠ none := by simp [Moment.apply, View.store]
      have hlater : h.count (.began id) = 0 :=
        List.count_eq_zero.mpr (course.2.began_not_mem hclaimed)
      rw [List.count_cons_self, hlater]
    · rw [List.count_cons_of_ne he]
      exact ih course.2

end Course

/-! ## What steps lead through -/

/-- Moments that lead from one cache to another. The slots of claimed keys are the same in the end,
and no other key is left pending. -/
structure Leads (c : Cache) (h : List Moment) (d : Cache) : Prop where
  course : Course c.slot? h
  replay : replay c.slot? h = d.slot?
  kept : ∀ id s, c.slot? id = some s → d.slot? id = some s
  settled : ∀ id, c.slot? id = none → d.slot? id ≠ some .pending

namespace Leads

variable {c d : Cache} {h h' : List Moment}

theorem nil (c : Cache) : Leads c [] c :=
  ⟨trivial, rfl, fun _ _ hs => hs, fun _ hs => by simp [hs]⟩

theorem append {c' : Cache} (first : Leads c h c') (next : Leads c' h' d) :
    Leads c (h ++ h') d := by
  refine ⟨?_, ?_, ?_, ?_⟩
  · rw [Course.append_iff, first.replay]
    exact ⟨first.course, next.course⟩
  · rw [Cache.replay, List.foldl_append]
    change Cache.replay (Cache.replay c.slot? h) h' = d.slot?
    rw [first.replay, next.replay]
  · exact fun id s hs => next.kept id s (first.kept id s hs)
  · intro id hvacant hpending
    cases hs : c'.slot? id with
    | none => exact next.settled id hs hpending
    | some s =>
      rw [next.kept id s hs] at hpending
      exact first.settled id hvacant (hs.trans hpending)

/-- A moment that stores nothing. -/
theorem observation {e : Moment} (fits : e.Fits c.slot?) (idle : e.apply c.slot? = c.slot?) :
    Leads c [e] c :=
  ⟨⟨fits, trivial⟩, idle, (nil c).kept, (nil c).settled⟩

theorem slot?_set_eq_store (c : Cache) (id : Identity) (s : Slot) :
    (c.set id s).slot? = View.store c.slot? id s :=
  funext fun _ => slot?_set

/-- A producer and what it does before it ends. -/
theorem call {id : Identity} (vacant : c.slot? id = none)
    (inner : Leads (c.set id .pending) h d) (outcome : Outcome Record) :
    Leads c (.began id :: (h ++ [.ended id outcome])) (d.set id (slotOf outcome)) := by
  have hpending : d.slot? id = some .pending := inner.kept id .pending slot?_set_self
  have happly : (Moment.began id).apply c.slot? = (c.set id .pending).slot? :=
    (slot?_set_eq_store c id .pending).symm
  refine ⟨?_, ?_, ?_, ?_⟩
  · refine ⟨vacant, ?_⟩
    rw [happly, Course.append_iff, inner.replay]
    exact ⟨inner.course, hpending, trivial⟩
  · rw [slot?_set_eq_store, ← inner.replay, ← happly]
    simp [Cache.replay, Moment.apply]
  · intro x s hs
    have hx : x ≠ id := by
      rintro rfl
      rw [vacant] at hs
      cases hs
    rw [slot?_set_of_ne hx]
    exact inner.kept x s ((slot?_set_of_ne hx).trans hs)
  · intro x hs
    by_cases hx : x = id
    · subst hx
      rw [slot?_set_self]
      cases outcome <;> simp [slotOf]
    · rw [slot?_set_of_ne hx]
      exact inner.settled x ((slot?_set_of_ne hx).trans hs)

end Leads

theorem size_eq_ncard (c : Cache) :
    c.size = {id | ∃ record, c.slot? id = some (.ready record)}.ncard := by
  have hkeys : {id | ∃ record, c.slot? id = some (.ready record)} =
      ((c.records.map (·.1)).toFinset : Set Identity) := by
    ext id
    simp [mem_records]
  rw [hkeys, Set.ncard_coe_finset, List.toFinset_card_of_nodup nodup_keys_records, List.length_map,
    size]

theorem getOrCreate_of_vacant {c : Cache} {id : Identity} (vacant : c.slot? id = none)
    (produce : Cache → Outcome Record × Cache) : c.getOrCreate id produce =
      (lookupOf (produce (c.set id .pending)).1,
        (produce (c.set id .pending)).2.set id (slotOf (produce (c.set id .pending)).1)) := by
  rw [getOrCreate, vacant]

/-- The producer of a lookup that is one of nested steps. -/
def producer (before : List Step) (ending : Outcome Record) (c : Cache) :
    Outcome Record × Cache :=
  (if (runSteps c before).2.2 then .panicked else ending, (runSteps c before).2.1)

/-- A lookup among nested steps looks its key up in the cache. It tells what its producer did if
the key was vacant. -/
theorem Step.run_getOrCreate (c : Cache) (id : Identity) (before : List Step)
    (ending : Outcome Record) (caught : Bool) :
    (Step.getOrCreate id before ending caught).run c =
      (.lookup (c.getOrCreate id (producer before ending)).1
          (if (c.slot? id).isSome then none else some (runSteps (c.set id .pending) before).1),
        (c.getOrCreate id (producer before ending)).2,
        (c.getOrCreate id (producer before ending)).1 = .panicked && !caught) := by
  cases hslot : c.slot? id with
  | some s =>
    rw [getOrCreate_of_slot? hslot]
    cases s <;> simp [Step.run, hslot, Slot.lookup]
  | none =>
    rw [getOrCreate_of_vacant hslot]
    have hpanic : ∀ o : Outcome Record, lookupOf o = .panicked ↔ o = .panicked := by
      intro o
      cases o <;> simp [lookupOf]
    simp [Step.run, hslot, producer, hpanic]

mutual

theorem Step.leads (c : Cache) (step : Step) :
    Leads c (step.moments (step.run c).1) (step.run c).2.1 ∧
      (step.run c).2.2 = step.escapes (step.run c).1 := by
  cases step with
  | contains id => exact ⟨.observation contains_iff rfl, rfl⟩
  | get id => exact ⟨.observation (fun _ => get?_eq_some_iff) rfl, rfl⟩
  | size => exact ⟨.observation (size_eq_ncard c) rfl, rfl⟩
  | records => exact ⟨.observation ⟨nodup_keys_records, fun _ _ => mem_records⟩ rfl, rfl⟩
  | getOrCreate id before ending caught =>
    rw [Step.run_getOrCreate]
    cases hslot : c.slot? id with
    | some s =>
      rw [getOrCreate_of_slot? hslot]
      refine ⟨.observation ⟨s, hslot, rfl⟩ rfl, ?_⟩
      cases s <;> rfl
    | none =>
      obtain ⟨hinner, hescape⟩ := runSteps_leads (c.set id .pending) before
      have hend : (producer before ending (c.set id .pending)).1 =
          endOf before (runSteps (c.set id .pending) before).1 ending := by
        rw [producer, endOf, hescape]
      rw [getOrCreate_of_vacant hslot, hend]
      constructor
      · simp only [Option.isSome_none, Bool.false_eq_true, if_false, Step.moments, if_true]
        exact .call hslot hinner _
      · generalize endOf before (runSteps (c.set id .pending) before).1 ending = outcome
        cases outcome <;> rfl

theorem runSteps_leads (c : Cache) (steps : List Step) :
    Leads c (moments steps (runSteps c steps).1) (runSteps c steps).2.1 ∧
      (runSteps c steps).2.2 = escape steps (runSteps c steps).1 := by
  cases steps with
  | nil => exact ⟨.nil c, rfl⟩
  | cons step rest =>
    obtain ⟨hstep, hescape⟩ := Step.leads c step
    generalize hresult : step.run c = result at hstep hescape
    obtain ⟨answer, d, escaped⟩ := result
    cases escaped with
    | true =>
      have hrun : runSteps c (step :: rest) = ([answer], d, true) := by
        simp [runSteps, hresult]
      rw [hrun]
      constructor
      · simpa [moments, ← hescape] using hstep
      · simp [escape, ← hescape]
    | false =>
      obtain ⟨hrest, hescapes⟩ := runSteps_leads d rest
      have hrun : runSteps c (step :: rest) = (answer :: (runSteps d rest).1,
          (runSteps d rest).2.1, (runSteps d rest).2.2) := by
        simp [runSteps, hresult]
      rw [hrun]
      constructor
      · simpa [moments, ← hescape] using hstep.append hrest
      · simp [escape, ← hescape, hescapes]

end

/-! ## Written once -/

/-- The course of steps on a cache, seen from what its keys held before. -/
structure WriteOnce (v : View) (h : List Moment) : Prop where
  /-- A lookup begins its producer exactly when its key is vacant, and whatever is answered is what
  the keys hold at that moment. -/
  fits : ∀ past e future, h = past ++ e :: future → e.Fits (replay v past)
  /-- No key has two producers. -/
  once : ∀ id, h.count (.began id) ≤ 1
  /-- Lookups of a key whose producer is running find it pending. -/
  running : ∀ past id inside l future,
    h = past ++ .began id :: (inside ++ .answered id l :: future) →
      (∀ outcome, .ended id outcome ∉ inside) → l = .pending
  /-- How a producer ended is what its key answers from then on. -/
  decided : ∀ past id outcome between l future,
    h = past ++ .ended id outcome :: (between ++ .answered id l :: future) →
      l = Slot.lookup (slotOf outcome)
  /-- A key that answered anything but that it is pending answers the same ever after. -/
  forever : ∀ past id l between l' future,
    h = past ++ .answered id l :: (between ++ .answered id l' :: future) → l ≠ .pending → l' = l

namespace Course

variable {v : View} {between future : List Moment} {id : Identity} {l : Lookup} {s : Slot}

theorem answer_of_settled (course : Course v (between ++ .answered id l :: future))
    (settled : s ≠ .pending) (hs : v id = some s) : l = Slot.lookup s := by
  obtain ⟨held, hheld, hl⟩ := course.fits
  rw [(append_iff.mp course).1.keeps settled hs, Option.some.injEq] at hheld
  rw [hl, hheld]

theorem answer_of_running (course : Course v (between ++ .answered id l :: future))
    (hs : v id = some .pending) (running : ∀ outcome, .ended id outcome ∉ between) :
    l = .pending := by
  obtain ⟨held, hheld, hl⟩ := course.fits
  rw [(append_iff.mp course).1.pending hs running, Option.some.injEq] at hheld
  rw [hl, ← hheld]
  rfl

theorem writeOnce {h : List Moment} (course : Course v h) : WriteOnce v h where
  fits := by
    rintro past e future rfl
    exact course.fits
  once := course.count_began_le_one
  running := by
    rintro past id inside l future rfl hrunning
    have hpending : (Moment.began id).apply (replay v past) id = some .pending := by
      simp [Moment.apply, View.store]
    exact (append_iff.mp course).2.2.answer_of_running hpending hrunning
  decided := by
    rintro past id outcome between l future rfl
    have hstored : (Moment.ended id outcome).apply (replay v past) id = some (slotOf outcome) := by
      simp [Moment.apply, View.store]
    exact (append_iff.mp course).2.2.answer_of_settled (slotOf_ne_pending outcome) hstored
  forever := by
    rintro past id l between l' future rfl hl
    obtain ⟨⟨s, hs, rfl⟩, hlater⟩ := (append_iff.mp course).2
    have hsettled : s ≠ .pending := by
      rintro rfl
      exact hl rfl
    exact hlater.answer_of_settled hsettled hs

theorem replay_of_ended {h : List Moment} (course : Course v h) {outcome : Outcome Record}
    (ended : .ended id outcome ∈ h) : replay v h id = some (slotOf outcome) := by
  obtain ⟨past, future, rfl⟩ := List.append_of_mem ended
  have hstored : (Moment.ended id outcome).apply (replay v past) id = some (slotOf outcome) := by
    simp [Moment.apply, View.store]
  have hkept := (append_iff.mp course).2.2.keeps (slotOf_ne_pending outcome) hstored
  simpa [replay] using hkept

end Course

/-- Whatever steps are taken on a cache, nested in any way and with any panics, it is written once:
on new caches and on such in which the keys of enclosing producers are pending. Afterwards each key
holds what became of it on the way. No key that the steps claimed is pending, whether they came to
their end or a panic escaped, and every key that was claimed before holds what it held. -/
theorem runSteps_writeOnce (c : Cache) (steps : List Step) :
    WriteOnce c.slot? (moments steps (runSteps c steps).1) ∧
    (runSteps c steps).2.1.slot? = replay c.slot? (moments steps (runSteps c steps).1) ∧
    (∀ id, c.slot? id = none → (runSteps c steps).2.1.slot? id ≠ some .pending) ∧
    (∀ id s, c.slot? id = some s → (runSteps c steps).2.1.slot? id = some s) ∧
    ∀ id outcome, .ended id outcome ∈ moments steps (runSteps c steps).1 →
      (runSteps c steps).2.1.slot? id = some (slotOf outcome) := by
  have leads := (runSteps_leads c steps).1
  refine ⟨leads.course.writeOnce, leads.replay.symm, leads.settled, leads.kept, ?_⟩
  intro id outcome ended
  rw [← leads.replay]
  exact leads.course.replay_of_ended ended

/-- A producer that looks its own key up and another one whose producer panics. -/
example :
    let steps := [.getOrCreate ⟨"a"⟩ [.getOrCreate ⟨"a"⟩ [] (.failed "") true,
      .getOrCreate ⟨"b"⟩ [.contains ⟨"b"⟩] .panicked true] (.failed "no") true,
      .getOrCreate ⟨"b"⟩ [] (.failed "") true, .size]
    moments steps (run steps) =
      [.began ⟨"a"⟩, .answered ⟨"a"⟩ .pending, .began ⟨"b"⟩, .contained ⟨"b"⟩ true,
        .ended ⟨"b"⟩ .panicked, .ended ⟨"a"⟩ (.failed "no"), .answered ⟨"b"⟩ .unreadable,
        .sized 0] := by
  cbv

end TypeDiscovery.Cache
