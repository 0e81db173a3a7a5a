import TypeDiscovery.Counting
import TypeDiscovery.Error
import TypeDiscovery.Record

/-!
# Subtypes

The subtypes of a target among scanned records are the identities from which a chain of direct
ancestors leads to it. They are found from the target outward; `unfound_lt` is the reason why
the search ends.
-/

namespace TypeDiscovery

/-- Scanned records by identity. -/
abbrev Records := List (Identity × Record)

namespace Records

/-- The identities not found yet whose records name an ancestor. -/
def newChildren (records : Records) (found : List Identity) (ancestor : String) : List Identity :=
  (records.filter fun (id, r) => r.hasAncestor ancestor && !found.contains id).map (·.1)

/-- The number of records whose identities are not found yet. -/
def unfound (records : Records) (found : List Identity) : Nat :=
  records.countP fun p => !found.contains p.1

theorem unfound_lt {records : Records} {found children : List Identity} {ancestor : String}
    (h : records.newChildren found ancestor = children) (hne : children ≠ []) :
    records.unfound (found ++ children) < records.unfound found := by
  obtain ⟨id, hid⟩ := List.exists_mem_of_ne_nil _ hne
  have hnew := hid
  rw [← h] at hnew
  simp only [newChildren, List.mem_map, List.mem_filter, Bool.and_eq_true] at hnew
  obtain ⟨p, ⟨hmem, _, hfree⟩, rfl⟩ := hnew
  exact Counting.countP_lt_countP hmem hfree (by simp [hid]) (by simp_all)

/-- Adds the identities that reach one of the given ancestors to those found already. -/
def spread (records : Records) (found : List Identity) : List String → List Identity
  | [] => found
  | ancestor :: rest =>
    match _h : records.newChildren found ancestor with
    | [] => records.spread found rest
    | child :: children =>
      records.spread (found ++ child :: children) ((child :: children).map (·.name) ++ rest)
termination_by ancestors => (records.unfound found, ancestors.length)
decreasing_by
  · exact Prod.Lex.right _ (Nat.lt_succ_self _)
  · exact Prod.Lex.left _ _ (unfound_lt _h (by simp))

/-- The subtypes of a target. The root has every artifact as a subtype and is refused. -/
def subtypesOf (records : Records) (root target : String) :
    Except DiscoveryError (List Identity) :=
  if target = root then
    .error (.invalidQuery
      s!"{target} is the root type; query by capability markers instead")
  else .ok (records.spread [] [target])

end Records

end TypeDiscovery
