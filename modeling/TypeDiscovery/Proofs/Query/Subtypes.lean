import Mathlib.Logic.Relation
import Mathlib.Order.Bounds.Defs
import TypeDiscovery.Subtypes

/-!
# Subtypes and chains of ancestors

The search for subtypes finds exactly the identities from which a chain of direct ancestors leads
to the target (`mem_spread_singleton`). A chain may leave the records only with its last step, and
it may come back to where it began. What is found is therefore the least set closed under the direct
ancestors, in whatever order the records come (`subtypesOf_isLeast`).
-/

namespace TypeDiscovery.Records

variable {records : Records} {found : List Identity} {id : Identity}

/-- A record names an ancestor. -/
def Extends (records : Records) (x a : String) : Prop :=
  ∃ r, (⟨x⟩, r) ∈ records ∧ a ∈ r.ancestors

theorem mem_newChildren {a : String} :
    id ∈ records.newChildren found a ↔ records.Extends id.name a ∧ id ∉ found := by
  simp only [newChildren, List.mem_map, List.mem_filter, Bool.and_eq_true, Bool.not_eq_true',
    List.contains_eq_mem, decide_eq_false_iff_not, Record.hasAncestor, decide_eq_true_eq]
  constructor
  · rintro ⟨⟨x, r⟩, ⟨hmem, hname, hnew⟩, rfl⟩
    exact ⟨⟨r, hmem, hname⟩, hnew⟩
  · rintro ⟨⟨r, hmem, hname⟩, hnew⟩
    exact ⟨(id, r), ⟨hmem, hname, hnew⟩, rfl⟩

/-- What is found has been found before or leads to one of the given ancestors. -/
theorem chain_of_mem_spread {ancestors : List String} (h : id ∈ records.spread found ancestors) :
    id ∈ found ∨ ∃ a ∈ ancestors, Relation.TransGen records.Extends id.name a := by
  fun_induction records.spread found ancestors with
  | case1 found => exact .inl h
  | case2 found a rest _ ih =>
    rcases ih h with hfound | ⟨b, hb, chain⟩
    · exact .inl hfound
    · exact .inr ⟨b, List.mem_cons_of_mem a hb, chain⟩
  | case3 found a rest child children hnew ih =>
    have extends_of_mem : ∀ c ∈ child :: children, records.Extends c.name a := by
      intro c hc
      rw [← hnew] at hc
      exact (mem_newChildren.mp hc).1
    rcases ih h with hmem | ⟨b, hb, chain⟩
    · rcases List.mem_append.mp hmem with hfound | hc
      · exact .inl hfound
      · exact .inr ⟨a, List.mem_cons_self, .single (extends_of_mem id hc)⟩
    · rcases List.mem_append.mp hb with hname | hrest
      · obtain ⟨c, hc, rfl⟩ := List.mem_map.mp hname
        exact .inr ⟨a, List.mem_cons_self, chain.tail (extends_of_mem c hc)⟩
      · exact .inr ⟨b, List.mem_cons_of_mem a hrest, chain⟩

/-- A list of identities that holds all whose records name a given ancestor. -/
def HoldsChildren (records : Records) (result : List Identity) (a : String) : Prop :=
  ∀ id : Identity, records.Extends id.name a → id ∈ result

/-- The search keeps what was found and adds the children of the given ancestors and of everything
that it adds. -/
theorem spread_closed (records : Records) (found : List Identity) (ancestors : List String) :
    (∀ x ∈ found, x ∈ records.spread found ancestors) ∧
    (∀ a ∈ ancestors, records.HoldsChildren (records.spread found ancestors) a) ∧
    (∀ x ∈ records.spread found ancestors, x ∉ found →
      records.HoldsChildren (records.spread found ancestors) x.name) := by
  fun_induction records.spread found ancestors with
  | case1 found =>
    refine ⟨fun x hx => hx, by simp, ?_⟩
    intro x hx hnew
    exact absurd hx hnew
  | case2 found a rest hnone ih =>
    obtain ⟨kept, children, added⟩ := ih
    refine ⟨kept, ?_, added⟩
    intro b hb
    rcases List.mem_cons.mp hb with rfl | hrest
    · intro x hx
      by_cases hfound : x ∈ found
      · exact kept x hfound
      · have hmem := mem_newChildren.mpr ⟨hx, hfound⟩
        rw [hnone] at hmem
        cases hmem
    · exact children b hrest
  | case3 found a rest child more hnew ih =>
    obtain ⟨kept, children, added⟩ := ih
    refine ⟨fun x hx => kept x (List.mem_append_left _ hx), ?_, ?_⟩
    · intro b hb
      rcases List.mem_cons.mp hb with rfl | hrest
      · intro x hx
        by_cases hfound : x ∈ found
        · exact kept x (List.mem_append_left _ hfound)
        · have hmem := mem_newChildren.mpr ⟨hx, hfound⟩
          rw [hnew] at hmem
          exact kept x (List.mem_append_right _ hmem)
      · exact children b (List.mem_append_right _ hrest)
    · intro x hx hfree
      by_cases hc : x ∈ child :: more
      · exact children x.name (List.mem_append_left _ (List.mem_map.mpr ⟨x, hc, rfl⟩))
      · refine added x hx ?_
        rw [List.mem_append]
        exact fun h => h.elim hfree hc

/-- The subtypes of a target are the identities from which a chain of ancestors leads to it. -/
theorem mem_spread_singleton {target : String} :
    id ∈ records.spread [] [target] ↔ Relation.TransGen records.Extends id.name target := by
  obtain ⟨_, children, added⟩ := spread_closed records [] [target]
  constructor
  · intro h
    rcases chain_of_mem_spread h with hnone | ⟨a, ha, chain⟩
    · cases hnone
    · rw [List.mem_singleton.mp ha] at chain
      exact chain
  · intro chain
    have reaches : ∀ x : String, Relation.TransGen records.Extends x target →
        ⟨x⟩ ∈ records.spread [] [target] := by
      intro x hx
      induction hx using Relation.TransGen.head_induction_on with
      | single hstep => exact children target List.mem_cons_self ⟨_⟩ hstep
      | head hstep _ ih => exact added _ ih List.not_mem_nil ⟨_⟩ hstep
    exact reaches id.name chain

theorem nodup_spread {ancestors : List String} (keys : (records.map (·.1)).Nodup)
    (h : found.Nodup) : (records.spread found ancestors).Nodup := by
  fun_induction records.spread found ancestors with
  | case1 found => exact h
  | case2 found a rest _ ih => exact ih h
  | case3 found a rest child children hnew ih =>
    refine ih (List.nodup_append.mpr ⟨h, ?_, ?_⟩)
    · rw [← hnew]
      exact keys.sublist (List.filter_sublist.map _)
    · intro x hx c hc hsame
      rw [← hnew] at hc
      exact (mem_newChildren.mp hc).2 (hsame ▸ hx)

/-! ## The least closed set -/

/-- A set of scanned identities that holds those with the target or one of its own members among
their direct ancestors. -/
structure SubtypeClosed (records : Records) (target : String) (X : Set Identity) : Prop where
  scanned : ∀ x ∈ X, ∃ r, (x, r) ∈ records
  closed : ∀ x r, (x, r) ∈ records →
    (target ∈ r.ancestors ∨ ∃ y ∈ X, y.name ∈ r.ancestors) → x ∈ X

theorem scanned_of_chain {target : String}
    (chain : Relation.TransGen records.Extends id.name target) : ∃ r, (id, r) ∈ records := by
  obtain ⟨_, ⟨r, hr, _⟩, _⟩ := Relation.TransGen.head'_iff.mp chain
  exact ⟨r, hr⟩

theorem SubtypeClosed.mem_of_chain {target : String} {X : Set Identity}
    (closed : records.SubtypeClosed target X)
    (chain : Relation.TransGen records.Extends id.name target) : id ∈ X := by
  have holds : ∀ x : String, Relation.TransGen records.Extends x target → (⟨x⟩ : Identity) ∈ X := by
    intro x hx
    induction hx using Relation.TransGen.head_induction_on with
    | single step =>
      obtain ⟨r, hr, hname⟩ := step
      exact closed.closed _ r hr (.inl hname)
    | head step _ ih =>
      obtain ⟨r, hr, hname⟩ := step
      exact closed.closed _ r hr (.inr ⟨_, ih, hname⟩)
  exact holds id.name chain

/-- The identities with a chain to the target are the least closed set. -/
theorem isLeast_chain (records : Records) (target : String) :
    IsLeast {X | records.SubtypeClosed target X}
      {x | Relation.TransGen records.Extends x.name target} := by
  refine ⟨⟨fun x chain => scanned_of_chain chain, ?_⟩, fun X closed x chain =>
    closed.mem_of_chain chain⟩
  rintro x r hr (hname | ⟨y, chain, hname⟩)
  · exact .single ⟨r, hr, hname⟩
  · exact .head ⟨r, hr, hname⟩ chain

theorem extends_perm {records' : Records} (perm : records'.Perm records) :
    records'.Extends = records.Extends := by
  funext x a
  simp only [Extends, perm.mem_iff]

theorem subtypesOf_eq_ok {root target : String} (notRoot : target ≠ root) :
    records.subtypesOf root target = .ok (records.spread [] [target]) :=
  if_neg notRoot

/-- The search for the subtypes of a target other than the root ends. It finds once each identity
from which a chain of one or more records leads to the target, that is the least closed set, and in
another order of the records it finds the same. The target is found if it is on a cycle. -/
theorem subtypesOf_isLeast {records : Records} (keys : (records.map (·.1)).Nodup)
    {root target : String} (notRoot : target ≠ root) :
    ∃ found, records.subtypesOf root target = .ok found ∧ found.Nodup ∧
      (∀ x, x ∈ found ↔ Relation.TransGen records.Extends x.name target) ∧
      IsLeast {X | records.SubtypeClosed target X} {x | x ∈ found} ∧
      (∀ records' : Records, records'.Perm records →
        ∃ found', records'.subtypesOf root target = .ok found' ∧ found'.Perm found) ∧
      (⟨target⟩ ∈ found ↔ Relation.TransGen records.Extends target target) := by
  have mem_found : ∀ x : Identity, x ∈ records.spread [] [target] ↔
      Relation.TransGen records.Extends x.name target := fun x => mem_spread_singleton
  refine ⟨_, subtypesOf_eq_ok notRoot, nodup_spread keys .nil, mem_found, ?_, ?_, mem_found _⟩
  · simpa only [mem_found] using isLeast_chain records target
  · intro records' perm
    have keys' : (records'.map (·.1)).Nodup := (perm.map _).nodup_iff.mpr keys
    refine ⟨_, subtypesOf_eq_ok notRoot, ?_⟩
    refine (List.perm_ext_iff_of_nodup (nodup_spread keys' .nil) (nodup_spread keys .nil)).mpr ?_
    intro x
    rw [mem_found, mem_spread_singleton, extends_perm perm]

/-- A record with a direct ancestor for each name. -/
def ofEdges (edges : List (String × List String)) : Records :=
  edges.map fun (name, ancestors) => (⟨name⟩, .ofLists ancestors [])

/-- Two artifacts on a cycle, a third one that leads into it, the root with a record of its own, and
one that names itself. -/
def ring : Records :=
  ofEdges [("a.A", ["b.B", "x.X"]), ("b.B", ["a.A"]), ("c.C", ["a.A", "lang.Object"]),
    ("lang.Object", ["y.Y"]), ("d.D", ["d.D"])]

/-- The target is found as well, from the other artifact on its cycle. -/
theorem subtypesOf_isLeast_ring :
    (ring.map (·.1)).Nodup ∧ "a.A" ≠ "lang.Object" ∧
    ring.subtypesOf "lang.Object" "a.A" = .ok [⟨"b.B"⟩, ⟨"c.C"⟩, ⟨"a.A"⟩] ∧
    IsLeast {X | ring.SubtypeClosed "a.A" X} {x | x ∈ [⟨"b.B"⟩, ⟨"c.C"⟩, ⟨"a.A"⟩]} ∧
    Relation.TransGen ring.Extends "a.A" "a.A" := by
  have keys : (ring.map (·.1)).Nodup := by decide
  have notRoot : "a.A" ≠ "lang.Object" := by decide
  have search : ring.subtypesOf "lang.Object" "a.A" = .ok [⟨"b.B"⟩, ⟨"c.C"⟩, ⟨"a.A"⟩] := by cbv
  obtain ⟨found, hfound, _, _, least, _, cycle⟩ := subtypesOf_isLeast keys notRoot
  obtain rfl := Except.ok.inj (hfound.symm.trans search)
  exact ⟨keys, notRoot, search, least, cycle.mp (by decide)⟩

end TypeDiscovery.Records
