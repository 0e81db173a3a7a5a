import Mathlib.Data.List.Basic
import TypeDiscovery.Pattern.Regex
import TypeDiscovery.Proofs.Path.Spelling
import TypeDiscovery.Query.Resources
import TypeDiscovery.Scope.Memory

/-!
# What a lookup of resources finds

A lookup finds once each place at which a qualifying resource is listed. Resources are brought
together by name on the way, so that the places come in the order of the listing only if no
resource qualifies after one whose name was first listed later (`Orderly`). If names come back in
between, the order is another one (`evaluate_not_inScopeOrder`).
-/

namespace TypeDiscovery

namespace Location

/-- What tells locations apart: the kind, the components of the path, and the entry or key. -/
def key : Location → Nat × List Path.Component × String
  | .file path => (0, path.components, "")
  | .archive path entry => (1, path.components, entry)
  | .memory key => (2, [], key)

theorem same_eq_key : Location.same = fun a b => a.key == b.key := by
  funext a b
  rw [Bool.eq_iff_iff]
  cases a <;> cases b <;> simp [same, key, Path.same_iff]

end Location

namespace ResourceQuery

/-- The locations of the qualifying resources in the order of the listing, each one where it first
comes. -/
def inScopeOrder (q : ResourceQuery) (resources : List Resource) : List Location :=
  Distinct.firsts Location.same ((resources.filter q.qualifies).map (·.location))

/-- No resource qualifies after one whose name was first listed later. -/
def Orderly (q : ResourceQuery) (resources : List Resource) : Prop :=
  (resources.filter q.qualifies).Pairwise fun r s =>
    (resources.map (·.name)).idxOf r.name ≤ (resources.map (·.name)).idxOf s.name

instance (q : ResourceQuery) (resources : List Resource) : Decidable (q.Orderly resources) :=
  inferInstanceAs (Decidable (List.Pairwise _ _))

/-! ## Bringing together by name -/

/-- If what has the first name comes first, it can be taken out in front. -/
theorem filter_name_append {name : String} {names : List String} {xs : List Resource}
    (sorted : xs.Pairwise fun r s => (name :: names).idxOf r.name ≤ (name :: names).idxOf s.name) :
    xs.filter (·.name == name) ++ xs.filter (·.name != name) = xs := by
  induction xs with
  | nil => rfl
  | cons r rest ih =>
    obtain ⟨hfirst, hrest⟩ := List.pairwise_cons.mp sorted
    by_cases hr : r.name = name
    · rw [List.filter_cons_of_pos (by simpa using hr), List.filter_cons_of_neg (by simpa using hr),
        List.cons_append, ih hrest]
    · -- nothing after `r` has the first name
      have hnone : ∀ s ∈ rest, s.name ≠ name := by
        intro s hs hsame
        have hle := hfirst s hs
        rw [hsame, List.idxOf_cons_self, List.idxOf_cons_ne _ (Ne.symm hr)] at hle
        exact absurd hle (Nat.not_succ_le_zero _)
      rw [List.filter_eq_nil_iff.mpr, List.filter_eq_self.mpr, List.nil_append]
      · intro s hs
        rcases List.mem_cons.mp hs with rfl | hs
        · simpa using hr
        · simpa using hnone s hs
      · intro s hs
        rcases List.mem_cons.mp hs with rfl | hs
        · simpa using hr
        · simpa using hnone s hs

/-- Resources that come in the order of their names are not moved when those of each name are
brought together in that order. -/
theorem flatMap_filter_name {names : List String} (nodup : names.Nodup) {xs : List Resource}
    (named : ∀ r ∈ xs, r.name ∈ names)
    (sorted : xs.Pairwise fun r s => names.idxOf r.name ≤ names.idxOf s.name) :
    (names.flatMap fun name => xs.filter (·.name == name)) = xs := by
  induction names generalizing xs with
  | nil =>
    cases xs with
    | nil => rfl
    | cons r rest => cases named r List.mem_cons_self
  | cons name names ih =>
    obtain ⟨hnew, hnodup⟩ := List.nodup_cons.mp nodup
    have hsplit := filter_name_append sorted
    have hother : ∀ r ∈ xs.filter (·.name != name), r.name ≠ name := by
      intro r hr
      simpa using (List.mem_filter.mp hr).2
    have hrest : (names.flatMap fun n => (xs.filter (·.name != name)).filter (·.name == n)) =
        xs.filter (·.name != name) := by
      refine ih hnodup ?_ ?_
      · intro r hr
        exact (List.mem_cons.mp (named r (List.mem_filter.mp hr).1)).resolve_left (hother r hr)
      · refine (sorted.sublist List.filter_sublist).imp_of_mem ?_
        intro r s hr hs hle
        rw [List.idxOf_cons_ne _ (Ne.symm (hother r hr)),
          List.idxOf_cons_ne _ (Ne.symm (hother s hs))] at hle
        exact Nat.le_of_succ_le_succ hle
    have hgroups : ∀ n ∈ names, xs.filter (·.name == n) =
        (xs.filter (·.name != name)).filter (·.name == n) := by
      intro n hn
      rw [List.filter_filter]
      refine List.filter_congr fun r _ => ?_
      rw [Bool.eq_iff_iff]
      simp only [beq_iff_eq, bne_iff_ne, Bool.and_eq_true, iff_self_and]
      rintro rfl rfl
      exact hnew hn
    rw [List.flatMap_cons, List.flatMap_congr hgroups, hrest, hsplit]

variable {q : ResourceQuery} {resources : List Resource}

theorem filter_grouped (p : Resource → Bool) (resources : List Resource) :
    (grouped resources).filter p =
      (Distinct.firsts (· == ·) (resources.map (·.name))).flatMap fun name =>
        (resources.filter p).filter (·.name == name) := by
  simp only [grouped, List.filter_flatMap, List.filter_filter, Bool.and_comm]

theorem name_mem_firsts {r : Resource} (h : r ∈ resources) :
    r.name ∈ Distinct.firsts (· == ·) (resources.map (·.name)) := by
  have hkept : r.name ∈ (Distinct.firsts (· == ·) (resources.map (·.name))).map id := by
    refine (Distinct.mem_map_firsts id).mpr ?_
    rw [List.map_id]
    exact List.mem_map_of_mem h
  rwa [List.map_id] at hkept

theorem mem_grouped {r : Resource} : r ∈ grouped resources ↔ r ∈ resources := by
  simp only [grouped, List.mem_flatMap, List.mem_filter, beq_iff_eq]
  constructor
  · rintro ⟨_, _, hr, _⟩
    exact hr
  · intro hr
    exact ⟨r.name, name_mem_firsts hr, hr, rfl⟩

/-- What qualifies in an orderly listing is not moved. -/
theorem Orderly.filter_grouped_eq (orderly : q.Orderly resources) :
    (grouped resources).filter q.qualifies = resources.filter q.qualifies := by
  have hnodup : (Distinct.firsts (· == ·) (resources.map (·.name))).Nodup := by
    simpa using Distinct.nodup_firsts id (resources.map (·.name))
  rw [filter_grouped]
  refine flatMap_filter_name hnodup ?_ ?_
  · intro r hr
    exact name_mem_firsts (List.mem_filter.mp hr).1
  · refine orderly.imp fun hle => ?_
    exact (Distinct.idxOf_firsts_le_iff _ _ _).mpr hle

/-! ## What is found -/

/-- The places found are those of the qualifying resources. -/
theorem mem_locationsIn {l : Location} :
    (∃ m ∈ q.locationsIn resources, m.same l = true) ↔
      ∃ r ∈ resources, q.qualifies r = true ∧ r.location.same l = true := by
  have hkey : ∀ ms : List Location,
      (∃ m ∈ ms, m.same l = true) ↔ l.key ∈ ms.map Location.key := by
    intro ms
    simp only [Location.same_eq_key, beq_iff_eq, List.mem_map]
  rw [hkey, locationsIn, Location.same_eq_key, Distinct.mem_map_firsts, List.map_map]
  simp only [List.mem_map, List.mem_filter, mem_grouped, Function.comp_apply, beq_iff_eq, and_assoc]

theorem pairwise_locationsIn (q : ResourceQuery) (resources : List Resource) :
    (q.locationsIn resources).Pairwise fun l m => l.same m = false := by
  have hkeys := Distinct.nodup_firsts Location.key
    (((grouped resources).filter q.qualifies).map (·.location))
  rw [← Location.same_eq_key] at hkeys
  refine (List.pairwise_map.mp hkeys).imp ?_
  intro l m hne
  rw [Location.same_eq_key]
  exact beq_eq_false_iff_ne.mpr hne

/-- Whenever the resources of a scope can be listed, a lookup gives the locations of the qualifying
ones, each one once. If the listing is orderly, they are the locations of the qualifying resources
in the order of the listing, without the later repetitions. -/
theorem evaluate_inScopeOrder {scope : Scope} (q : ResourceQuery)
    (listed : scope.resources.answer = .ok resources) :
    ∃ found, (q.evaluate scope).answer = .ok found ∧
      found.Pairwise (fun l m => l.same m = false) ∧
      (∀ l, (∃ m ∈ found, m.same l = true) ↔
        ∃ r ∈ resources, q.qualifies r = true ∧ r.location.same l = true) ∧
      (q.Orderly resources → found = q.inScopeOrder resources) := by
  refine ⟨q.locationsIn resources, ?_, pairwise_locationsIn q resources,
    fun l => mem_locationsIn, ?_⟩
  · rw [evaluate, listed]
  · intro orderly
    rw [locationsIn, orderly.filter_grouped_eq, inScopeOrder]

/-- A lookup of everything. -/
def everything : ResourceQuery := ⟨(Pattern.compile? "").toList, [], .find⟩

/-- A scope in which one name is listed twice in a row. -/
def stack : MemoryScope :=
  ((((MemoryScope.empty "stack").withResource "b" [1]).withResource "b" [2]).withResource "a" [3])

theorem evaluate_inScopeOrder_stack :
    stack.toScope.resources.answer = .ok stack.resources ∧ everything.Orderly stack.resources ∧
    (everything.evaluate stack.toScope).answer =
      .ok [.memory "b", .memory "b#1", .memory "a"] := by
  have listed : stack.toScope.resources.answer = .ok stack.resources := rfl
  have orderly : everything.Orderly stack.resources := by decide
  obtain ⟨found, hfound, _, _, inOrder⟩ := evaluate_inScopeOrder everything listed
  refine ⟨listed, orderly, ?_⟩
  rw [hfound, inOrder orderly]
  rfl

/-- A scope in which a name comes back after another one. -/
def returning : MemoryScope :=
  ((((MemoryScope.empty "returning").withResource "a" [1]).withResource "b" [2]).withResource
    "a" [3])

/-- The name that comes back takes its second location to the front. -/
theorem evaluate_not_inScopeOrder :
    returning.toScope.resources.answer = .ok returning.resources ∧
    everything.inScopeOrder returning.resources = [.memory "a", .memory "b", .memory "a#1"] ∧
    (everything.evaluate returning.toScope).answer =
      .ok [.memory "a", .memory "a#1", .memory "b"] := by
  refine ⟨rfl, ?_, ?_⟩
  · decide +kernel
  · decide +kernel

end ResourceQuery

end TypeDiscovery
