import TypeDiscovery.Keyed
import TypeDiscovery.Scope

/-!
# Scopes that answer otherwise

A scope over another one that hides identities, moves them to other locations, or fails to list.
-/

namespace TypeDiscovery.Scope

/-- The same scope without locations for some identities. -/
def concealing (s : Scope) (hidden : List Identity) : Scope :=
  { s with
    locate := fun id => if id ∈ hidden then none else s.locate id
    mem_visible := fun id h => by
      split at h
      · simp at h
      · exact s.mem_visible id h }

/-- The same scope with other locations for some identities. -/
def relocating (s : Scope) (moved : List (Identity × Location)) : Scope :=
  { s with
    locate := fun id => (Keyed.get? moved id).or (s.locate id)
    visible := Keyed.keys moved ++ s.visible
    mem_visible := fun id h => by
      rw [List.mem_append]
      cases hg : Keyed.get? moved id with
      | some l => exact .inl (Keyed.mem_keys_of_get?_isSome (by simp [hg]))
      | none => exact .inr (s.mem_visible id (by simpa [hg] using h)) }

/-- The same scope with a failure in place of its artifacts. -/
def failingArtifacts (s : Scope) (reason : String) : Scope :=
  { s with artifacts := ⟨.error reason, []⟩ }

/-- The same scope with a failure in place of its resources. -/
def failingResources (s : Scope) (reason : String) : Scope :=
  { s with resources := ⟨.error reason, []⟩ }

end TypeDiscovery.Scope
