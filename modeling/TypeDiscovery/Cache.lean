import TypeDiscovery.Identity
import TypeDiscovery.Outcome
import TypeDiscovery.Record
import Std.Data.ExtTreeMap

/-!
# The scan cache

A map from identities to what became of reading them. A key is claimed before its artifact is
read and never claimed again, so the claimed keys are also the identities already visited.
`contains_getOrCreate` says which keys a lookup claims; `slot?` is the view that fixes a cache
(`ext_slot?`).
-/

namespace TypeDiscovery

/-- What became of a claimed key. -/
inductive Slot where
  /-- Claimed and being read. -/
  | pending
  | ready (record : Record)
  /-- Read once and failed; never tried again. -/
  | unreadable
  deriving DecidableEq

/-- The answer to a lookup that may read. -/
inductive Lookup where
  /-- This lookup read the artifact. -/
  | fresh (record : Record)
  /-- An earlier lookup read it. -/
  | cached (record : Record)
  /-- An enclosing lookup is reading it. -/
  | pending
  /-- An earlier attempt failed. -/
  | unreadable
  /-- This lookup tried to read and failed. -/
  | failed (reason : String)
  /-- This lookup tried to read and the reading panicked. -/
  | panicked
  deriving DecidableEq

structure Cache where
  slots : Std.ExtTreeMap Identity Slot

namespace Cache

def empty : Cache := ⟨∅⟩

instance : Inhabited Cache := ⟨empty⟩

/-- Whether a key has been claimed, whatever became of it. -/
def contains (c : Cache) (id : Identity) : Bool := c.slots.contains id

def slot? (c : Cache) (id : Identity) : Option Slot := c.slots[id]?

def set (c : Cache) (id : Identity) (s : Slot) : Cache := ⟨c.slots.insert id s⟩

/-- The record of a key that was read. -/
def get? (c : Cache) (id : Identity) : Option Record :=
  match c.slot? id with
  | some (.ready r) => some r
  | _ => none

/-- The keys that were read and their records, in the order of the keys. -/
def records (c : Cache) : List (Identity × Record) :=
  c.slots.toList.filterMap fun
    | (id, .ready r) => some (id, r)
    | _ => none

/-- The number of keys that were read. -/
def size (c : Cache) : Nat := c.records.length

/-- What a key that was claimed earlier answers. -/
def Slot.lookup : Slot → Lookup
  | .pending => .pending
  | .ready r => .cached r
  | .unreadable => .unreadable

/-- The slot that reading leaves. -/
def slotOf : Outcome Record → Slot
  | .done r => .ready r
  | .failed _ | .panicked => .unreadable

theorem slotOf_ne_pending (outcome : Outcome Record) : slotOf outcome ≠ .pending := by
  cases outcome <;> simp [slotOf]

theorem slotOf_eq_ready_iff {outcome : Outcome Record} {r : Record} :
    Slot.ready r = slotOf outcome ↔ outcome = .done r := by
  cases outcome <;> simp [slotOf, eq_comm]

/-- The answer that reading gives. -/
def lookupOf : Outcome Record → Lookup
  | .done r => .fresh r
  | .failed reason => .failed reason
  | .panicked => .panicked

/-- Looks a key up. A key that is not claimed is claimed, and `produce` reads its artifact; it may
use the cache, in which the key is then pending. -/
def getOrCreate (c : Cache) (id : Identity) (produce : Cache → Outcome Record × Cache) :
    Lookup × Cache :=
  match c.slot? id with
  | some s => (Slot.lookup s, c)
  | none =>
    let (outcome, c) := produce (c.set id .pending)
    (lookupOf outcome, c.set id (slotOf outcome))

theorem contains_set {c : Cache} {id x : Identity} {s : Slot} :
    (c.set id s).contains x = (x == id || c.contains x) := by
  simp only [set, contains, Std.ExtTreeMap.contains_insert]
  congr 1
  rw [Bool.eq_iff_iff, beq_iff_eq, beq_iff_eq, Std.LawfulEqOrd.compare_eq_iff_eq]
  exact eq_comm

theorem contains_eq_isSome_slot? {c : Cache} {id : Identity} :
    c.contains id = (c.slot? id).isSome := by
  simp only [contains, slot?]
  exact Std.ExtTreeMap.contains_eq_isSome_getElem?

/-- A producer that leaves the cache alone adds the key to the claimed ones. -/
theorem contains_getOrCreate {c : Cache} {id x : Identity} {outcome : Outcome Record} :
    (c.getOrCreate id fun c => (outcome, c)).2.contains x = (x == id || c.contains x) := by
  unfold getOrCreate
  cases h : c.slot? id with
  | none =>
    simp only [contains_set]
    cases x == id <;> simp
  | some s =>
    have : c.contains id = true := by simp [contains_eq_isSome_slot?, h]
    by_cases hx : x = id
    · simp [hx, this]
    · simp [hx]

@[simp] theorem slot?_empty {id : Identity} : empty.slot? id = none :=
  Std.ExtTreeMap.getElem?_empty

theorem slot?_set {c : Cache} {id x : Identity} {s : Slot} :
    (c.set id s).slot? x = if x = id then some s else c.slot? x := by
  simp only [set, slot?, Std.ExtTreeMap.getElem?_insert,
    Std.LawfulEqOrd.compare_eq_iff_eq (α := Identity), eq_comm]

@[simp] theorem slot?_set_self {c : Cache} {id : Identity} {s : Slot} :
    (c.set id s).slot? id = some s := by
  simp [slot?_set]

theorem slot?_set_of_ne {c : Cache} {id x : Identity} {s : Slot} (h : x ≠ id) :
    (c.set id s).slot? x = c.slot? x := by
  simp [slot?_set, h]

/-- Caches with the same slots are the same. -/
theorem ext_slot? {c d : Cache} (h : ∀ id, c.slot? id = d.slot? id) : c = d := by
  cases c
  cases d
  exact congrArg mk (Std.ExtTreeMap.ext_getElem? h)

theorem contains_iff {c : Cache} {id : Identity} :
    c.contains id = true ↔ ∃ s, c.slot? id = some s := by
  rw [contains_eq_isSome_slot?, Option.isSome_iff_exists]

theorem contains_eq_false_iff {c : Cache} {id : Identity} :
    c.contains id = false ↔ c.slot? id = none := by
  rw [contains_eq_isSome_slot?, Option.isSome_eq_false_iff, Option.isNone_iff_eq_none]

theorem get?_eq_some_iff {c : Cache} {id : Identity} {r : Record} :
    c.get? id = some r ↔ c.slot? id = some (.ready r) := by
  rw [get?]
  cases c.slot? id with
  | none => simp
  | some s => cases s <;> simp

theorem mem_records {c : Cache} {id : Identity} {r : Record} :
    (id, r) ∈ c.records ↔ c.slot? id = some (.ready r) := by
  simp only [records, List.mem_filterMap, slot?]
  constructor
  · rintro ⟨⟨x, s⟩, hmem, hs⟩
    cases s <;> simp at hs
    obtain ⟨rfl, rfl⟩ := hs
    exact Std.ExtTreeMap.mem_toList_iff_getElem?_eq_some.mp hmem
  · intro h
    exact ⟨(id, .ready r), Std.ExtTreeMap.mem_toList_iff_getElem?_eq_some.mpr h, rfl⟩

/-- Every key has at most one record. -/
theorem nodup_keys_records {c : Cache} : (c.records.map (·.1)).Nodup := by
  have hkeys : c.slots.toList.Pairwise fun a b => a.1 ≠ b.1 := by
    refine Std.ExtTreeMap.distinct_keys_toList.imp ?_
    intro a b h hab
    exact h (by rw [hab]; exact Std.ReflOrd.compare_self)
  rw [List.Nodup, List.pairwise_map, records, List.pairwise_filterMap]
  refine hkeys.imp ?_
  rintro ⟨x, s⟩ ⟨y, t⟩ hne p hp q hq
  cases s <;> cases t <;> simp at hp hq
  simpa [← hp, ← hq] using hne

/-- A claimed key answers from its slot and leaves the cache as it is. -/
theorem getOrCreate_of_slot? {c : Cache} {id : Identity} {s : Slot} (h : c.slot? id = some s)
    (produce : Cache → Outcome Record × Cache) : c.getOrCreate id produce = (Slot.lookup s, c) := by
  simp [getOrCreate, h]

end Cache

end TypeDiscovery
